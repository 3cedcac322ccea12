import OperatorConsole.Proofs.Console.Schedule
import OperatorConsole.Terminal.Screen

/-!
# The loop among workers

The loop pumps the console, draws a frame if one is due and waits; then time
runs out or an event comes, and it begins again.  Workers move all the while,
also in the middle of what the console does about an event.  The rounds that can
be executed are those in which everybody else rests.
-/

namespace OperatorConsole.Terminal

/-- What the loop does next. -/
inductive Phase where
  | pumping
  | drawing
  /-- The keyboard is polled. -/
  | waiting
  | ended (ending : Ending)
deriving DecidableEq, Repr

/-- A screen in the middle of the loop. -/
structure Loop where
  screen : Screen
  phase : Phase

inductive Happening where
  | pumped (completions : List Remote.Completion)
  | drew (size : Size)
  /-- No frame was due. -/
  | kept
  | timedOut
  /-- An event came, and the console did these deeds about it. -/
  | came (event : Event) (deeds : List Console.Deed)
  /-- Somebody else did something. -/
  | aside (deed : Console.Deed)

/-! ## What events make the console do -/

namespace InputAction

def deeds (console : Console) : InputAction → List Console.Deed
  | .submit line =>
      match (console.submit line).1 with
      | .ok flow => [.submit line (.ok flow)]
      | .error bad => [.submit line (.error bad), .report line bad.chain]
  | .cancelPending => [.cancelPending console.pending]
  | .quit | .edited | .ignored => []

/-- The action may leave the pool like this if workers move meanwhile. -/
def Leaves (console : Console) : InputAction → Remote.Pool → Prop
  | .submit line => console.Handles line
  | .cancelPending => console.pool.GivesUp
  | .quit | .edited | .ignored => fun last => last = console.pool

end InputAction

namespace Screen

def deeds (screen : Screen) : Event → List Console.Deed
  | .key key => (screen.input.take key).1.deeds screen.console
  | .other => []

def Leaves (screen : Screen) : Event → Remote.Pool → Prop
  | .key key => (screen.input.take key).1.Leaves screen.console
  | .other => fun last => last = screen.console.pool

def withPool (screen : Screen) (pool : Remote.Pool) : Screen :=
  { screen with console := screen.console.withPool pool }

@[simp] theorem console_redraw (screen : Screen) (size : Size) :
    (screen.redraw size).console = screen.console := by
  unfold redraw
  split <;> rfl

@[simp] theorem input_redraw (screen : Screen) (size : Size) :
    (screen.redraw size).input = screen.input := by
  unfold redraw
  split <;> rfl

@[simp] theorem input_act (screen : Screen) (action : InputAction) :
    (screen.act action).2.input = screen.input := by
  cases action with
  | submit line =>
      simp only [act, submit]
      split <;> rfl
  | cancelPending | quit | edited | ignored => rfl

/-- Whole rounds for some events, until the loop ends. -/
def rounds (screen : Screen) (size : Size) :
    List Event → Option Ending × Screen
  | [] => (none, screen)
  | event :: rest =>
      match screen.round size event with
      | (none, next) => next.rounds size rest
      | (some ending, next) => (some ending, next)

theorem handle_key (screen : Screen) (key : Key) :
    screen.handle (.key key) =
      { screen with input := (screen.input.take key).2 }.act
        (screen.input.take key).1 := rfl

end Screen

/-- What workers do, and what others do with the clock, the cookies and the
files. -/
def aside : Console.Deed → Prop
  | .work _ _ | .share _ => True
  | .submit _ _ | .receive _ _ | .cancelPending _ | .report _ _ => False

/-- The phase after an event. -/
def Phase.after : Option Ending → Phase
  | none => .pumping
  | some ending => .ended ending

/-- The phase after a whole round. -/
def Phase.rested : Option Ending → Phase
  | none => .waiting
  | some ending => .ended ending

namespace Loop

def start (console : Console) : Loop :=
  ⟨.start console, .pumping⟩

inductive Step : Loop → Happening → Loop → Prop where
  | pump {screen : Screen} {completions : List Remote.Completion}
      {after : Console} :
      Console.Does screen.console (.receive .drain completions) after →
      Step ⟨screen, .pumping⟩ (.pumped completions)
        ⟨screen.update completions.length after, .drawing⟩
  | draw {screen : Screen} (size : Size) :
      screen.dirty = true →
      Step ⟨screen, .drawing⟩ (.drew size) ⟨screen.redraw size, .waiting⟩
  | keep {screen : Screen} (size : Size) :
      screen.dirty = false →
      Step ⟨screen, .drawing⟩ .kept ⟨screen.redraw size, .waiting⟩
  | timeOut (screen : Screen) :
      Step ⟨screen, .waiting⟩ .timedOut ⟨screen, .pumping⟩
  | come {screen next : Screen} {event : Event} {ending : Option Ending}
      {last : Remote.Pool} :
      screen.handle event = (ending, next) →
      screen.Leaves event last →
      Step ⟨screen, .waiting⟩ (.came event (screen.deeds event))
        ⟨next.withPool last, .after ending⟩
  | aside {screen : Screen} {phase : Phase} {deed : Console.Deed}
      {after : Console} :
      aside deed →
      Console.Does screen.console deed after →
      Step ⟨screen, phase⟩ (.aside deed)
        ⟨{ screen with console := after }, phase⟩

inductive Runs (first : Loop) : List Happening → Loop → Prop where
  | none : Runs first [] first
  | step {happenings : List Happening} {happening : Happening}
      {middle last : Loop} :
      Runs first happenings middle →
      Step middle happening last →
      Runs first (happenings ++ [happening]) last

theorem Runs.trans {first middle last : Loop} {before after : List Happening}
    (earlier : Runs first before middle) (later : Runs middle after last) :
    Runs first (before ++ after) last := by
  induction later with
  | none => simpa using earlier
  | step _ next induction =>
      rw [← List.append_assoc]
      exact .step induction next

theorem Step.runs {first last : Loop} {happening : Happening}
    (next : Step first happening last) : Runs first [happening] last :=
  .step .none next

end Loop

/-! ## What the console does -/

def Happening.deeds : Happening → List Console.Deed
  | .pumped completions => [.receive .drain completions]
  | .came _ deeds => deeds
  | .aside deed => [deed]
  | .drew _ | .kept | .timedOut => []

def Happening.event? : Happening → Option Event
  | .came event _ => some event
  | _ => none

/-- The deeds of the console, oldest first. -/
def deeds (happenings : List Happening) : List Console.Deed :=
  happenings.flatMap Happening.deeds

/-- The events that came, oldest first. -/
def events (happenings : List Happening) : List Event :=
  happenings.filterMap Happening.event?

theorem deeds_append_singleton (happenings : List Happening)
    (happening : Happening) :
    deeds (happenings ++ [happening]) = deeds happenings ++ happening.deeds := by
  rw [deeds, List.flatMap_append, List.flatMap_singleton]
  rfl

theorem events_append (before after : List Happening) :
    events (before ++ after) = events before ++ events after :=
  List.filterMap_append

theorem events_append_singleton (happenings : List Happening)
    (happening : Happening) :
    events (happenings ++ [happening]) =
      events happenings ++ happening.event?.toList := by
  rw [events_append]
  cases told : happening.event? <;> simp [events, told]

theorem runs_act {screen : Screen} {action : InputAction}
    {last : Remote.Pool} (leaves : action.Leaves screen.console last) :
    Console.Runs screen.console (action.deeds screen.console)
      ((screen.act action).2.console.withPool last) := by
  cases action with
  | submit line =>
      cases submitted : screen.console.submit line with
      | mk flow next =>
          have does : Console.Does screen.console (.submit line flow)
              (next.withPool last) := .submit submitted leaves
          simp only [InputAction.deeds, Screen.act, Screen.submit,
            Console.submitReporting, submitted]
          cases flow with
          | ok flow => cases flow <;> exact does.runs
          | error bad =>
              exact .step does.runs (.report _ line bad.chain)
  | cancelPending => exact (Console.Does.cancelPending rfl leaves).runs
  | quit | edited | ignored =>
      cases leaves
      exact .none

theorem runs_handle {screen : Screen} {event : Event} {last : Remote.Pool}
    (leaves : screen.Leaves event last) :
    Console.Runs screen.console (screen.deeds event)
      ((screen.handle event).2.console.withPool last) := by
  cases event with
  | key key =>
      exact @runs_act { screen with input := (screen.input.take key).2 } _ _
        leaves
  | other =>
      cases leaves
      exact .none

namespace Loop

theorem Step.console {loop next : Loop} {happening : Happening}
    (step : Step loop happening next) :
    Console.Runs loop.screen.console happening.deeds next.screen.console := by
  cases step with
  | pump does => exact does.runs
  | draw | keep =>
      rw [Screen.console_redraw]
      exact .none
  | timeOut screen => exact .none
  | come handled leaves =>
      have run := runs_handle leaves
      rw [handled] at run
      exact run
  | aside _ does => exact does.runs

theorem Runs.console {loop next : Loop} {happenings : List Happening}
    (run : Runs loop happenings next) :
    Console.Runs loop.screen.console (deeds happenings)
      next.screen.console := by
  induction run with
  | none => exact .none
  | step _ next induction =>
      rw [deeds_append_singleton]
      exact induction.trans next.console

end Loop

/-! ## Undisturbed rounds -/

theorem leaves_act (screen : Screen) (action : InputAction) :
    action.Leaves screen.console (screen.act action).2.console.pool := by
  cases action with
  | submit line =>
      have handles := screen.console.handles_submit line
      simp only [InputAction.Leaves, Screen.act, Screen.submit,
        Console.submitReporting]
      cases submitted : screen.console.submit line with
      | mk flow next =>
          rw [submitted] at handles
          cases flow with
          | ok flow => cases flow <;> exact handles
          | error bad => exact handles
  | cancelPending => exact screen.console.pool.givesUp_cancelAll
  | quit | edited | ignored => rfl

theorem leaves_handle (screen : Screen) (event : Event) :
    screen.Leaves event (screen.handle event).2.console.pool := by
  cases event with
  | key key =>
      exact leaves_act { screen with input := (screen.input.take key).2 } _
  | other => rfl

namespace Loop

theorem step_handle (screen : Screen) (event : Event) :
    Step ⟨screen, .waiting⟩ (.came event (screen.deeds event))
      ⟨(screen.handle event).2, .after (screen.handle event).1⟩ :=
  .come (Prod.eta _).symm (leaves_handle screen event)

theorem runs_redraw (screen : Screen) (size : Size) :
    ∃ quiet, events quiet = [] ∧
      Runs ⟨screen, .drawing⟩ quiet ⟨screen.redraw size, .waiting⟩ := by
  cases due : screen.dirty with
  | true => exact ⟨[.drew size], rfl, (Step.draw size due).runs⟩
  | false => exact ⟨[.kept], rfl, (Step.keep size due).runs⟩

theorem runs_refresh (screen : Screen) (size : Size) :
    ∃ quiet, events quiet = [] ∧
      Runs ⟨screen, .pumping⟩ quiet ⟨screen.refresh size, .waiting⟩ := by
  obtain ⟨quiet, silent, run⟩ := runs_redraw
    (screen.update screen.console.pump.1 screen.console.pump.2) size
  refine ⟨[.pumped screen.console.pool.drain.1] ++ quiet, ?_, ?_⟩
  · rw [events_append, silent]
    rfl
  · exact (Step.pump screen.console.does_pump).runs.trans run

/-- A round that can be executed is part of a run. -/
theorem runs_round (screen : Screen) (size : Size) (event : Event) :
    ∃ quiet, events quiet = [] ∧
      Runs ⟨screen, .waiting⟩ (.came event (screen.deeds event) :: quiet)
        ⟨(screen.round size event).2,
          .rested (screen.round size event).1⟩ := by
  have handled := (step_handle screen event).runs
  unfold Screen.round
  cases outcome : screen.handle event with
  | mk ending next =>
      rw [outcome] at handled
      cases ending with
      | some ending => exact ⟨[], rfl, handled⟩
      | none =>
          obtain ⟨quiet, silent, run⟩ := runs_refresh next size
          exact ⟨quiet, silent, handled.trans run⟩

/-- The rounds that can be executed for some events are a run that takes them in
turn until it ends. -/
theorem runs_rounds (size : Size) (given : List Event) :
    ∀ screen : Screen, ∃ happenings rest,
      Runs ⟨screen, .waiting⟩ happenings
          ⟨(screen.rounds size given).2,
            .rested (screen.rounds size given).1⟩ ∧
        given = events happenings ++ rest ∧
        ((screen.rounds size given).1 = none → rest = []) := by
  induction given with
  | nil => exact fun screen => ⟨[], [], .none, rfl, fun _ => rfl⟩
  | cons event given induction =>
      intro screen
      obtain ⟨quiet, silent, first⟩ := runs_round screen size event
      have taken : events (.came event (screen.deeds event) :: quiet) =
          [event] := congrArg (event :: ·) silent
      rw [Screen.rounds]
      cases outcome : screen.round size event with
      | mk ending next =>
          rw [outcome] at first
          cases ending with
          | some ending =>
              refine ⟨_, given, first, ?_, ?_⟩
              · rw [taken]
                rfl
              · exact fun goesOn => nomatch goesOn
          | none =>
              obtain ⟨later, rest, run, split, all⟩ := induction next
              refine ⟨_, rest, first.trans run, ?_, all⟩
              rw [events_append, taken, split]
              rfl

/-- A loop that has not ended comes to take any event. -/
theorem exists_came {loop : Loop}
    (goesOn : ∀ ending, loop.phase ≠ .ended ending) (size : Size)
    (event : Event) :
    ∃ quiet deeds next, events quiet = [] ∧
      Runs loop (quiet ++ [.came event deeds]) next := by
  obtain ⟨quiet, screen, silent, run⟩ : ∃ quiet screen,
      events quiet = [] ∧ Runs loop quiet ⟨screen, .waiting⟩ := by
    obtain ⟨screen, phase⟩ := loop
    cases phase with
    | pumping =>
        obtain ⟨quiet, silent, run⟩ := runs_refresh screen size
        exact ⟨quiet, _, silent, run⟩
    | drawing =>
        obtain ⟨quiet, silent, run⟩ := runs_redraw screen size
        exact ⟨quiet, _, silent, run⟩
    | waiting => exact ⟨[], screen, rfl, .none⟩
    | ended ending => exact absurd rfl (goesOn ending)
  exact ⟨quiet, _, _, silent, .step run (step_handle screen event)⟩

end Loop

end OperatorConsole.Terminal
