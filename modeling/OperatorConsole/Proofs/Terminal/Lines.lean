import OperatorConsole.Proofs.Console.Failing
import OperatorConsole.Proofs.Terminal.Editor
import OperatorConsole.Proofs.Terminal.Loop

/-!
# Lines of the loop

The lines that the console gets are those that an editor hands in on the same
events, whatever else happens meanwhile.  The loop ends with the line that
leaves the console or with the key that interrupts it, and with nothing else.  A
line that fails is answered by one block with all of its messages.
-/

namespace OperatorConsole.Terminal

/-! ## What an event comes to -/

section Act

variable (screen : Screen) (action : InputAction)

theorem typed_act (console : Console) :
    Console.typed (action.deeds console) = action.line?.toList := by
  cases action with
  | submit line =>
      simp only [InputAction.deeds]
      split <;> rfl
  | cancelPending | quit | edited | ignored => rfl

/-- The loop is left with a line for which the console is. -/
theorem act_leaves_iff (url : Url) :
    (screen.act action).1 = some (.leave url) ↔
      ∃ line, .submit line (.ok (.leave url)) ∈
        action.deeds screen.console := by
  cases action with
  | submit line =>
      simp only [Screen.act, Screen.submit, Console.submitReporting,
        InputAction.deeds]
      cases screen.console.submit line with
      | mk flow next =>
          cases flow with
          | ok flow =>
              cases flow with
              | goOn => simp
              | leave place => simp [eq_comm]
          | error bad => simp
  | cancelPending | quit | edited | ignored =>
      simp [Screen.act, InputAction.deeds]

theorem act_quits_iff :
    (screen.act action).1 = some .quit ↔ action = .quit := by
  cases action with
  | submit line =>
      simp only [Screen.act, Screen.submit]
      split <;> simp
  | cancelPending | quit | edited | ignored => simp [Screen.act]

end Act

theorem InputLine.take_quits_iff (input : InputLine) (key : Key) :
    (input.take key).1 = .quit ↔ key.Interrupts := by
  obtain ⟨code, control, _, _, kind⟩ := key
  unfold take press Key.Interrupts
  cases kind with
  | release => simp
  | press | again =>
      cases code with
      | char c =>
          cases control with
          | true =>
              simp only [if_true]
              split <;> simp_all
          | false => simp
      | enter | backspace =>
          dsimp only
          split <;> simp
      | _ => simp

section Handle

variable (screen : Screen) (event : Event)

theorem handle_leaves_iff (url : Url) :
    (screen.handle event).1 = some (.leave url) ↔
      ∃ line, .submit line (.ok (.leave url)) ∈ screen.deeds event := by
  cases event with
  | key key =>
      exact act_leaves_iff { screen with input := (screen.input.take key).2 }
        _ url
  | other => simp [Screen.handle, Screen.deeds]

theorem handle_quits_iff :
    (screen.handle event).1 = some .quit ↔
      ∃ key, event = .key key ∧ key.Interrupts := by
  cases event with
  | key key =>
      have quits : (screen.handle (.key key)).1 = some .quit ↔
          key.Interrupts :=
        (act_quits_iff _ _).trans (screen.input.take_quits_iff key)
      simpa using quits
  | other => simp [Screen.handle]

/-- The editor that has the lines so far and the text of the input line. -/
def Screen.editor (lines : List String) : Editor :=
  ⟨lines, screen.input.text.toList⟩

theorem editor_handle (lines : List String) :
    (screen.handle event).2.editor
        (lines ++ Console.typed (screen.deeds event)) =
      (screen.editor lines).afterEvent event := by
  cases event with
  | key key =>
      rw [Screen.editor, Screen.editor, InputLine.take_editor, Screen.handle,
        Screen.input_act, Screen.deeds, typed_act]
  | other =>
      rw [Screen.deeds, Console.typed, List.filterMap_nil, List.append_nil]
      rfl

end Handle

/-! ## Lines that fail -/

theorem act_of_error {console : Console} {action : InputAction} {line : String}
    {bad : BadTarget}
    (failed : .submit line (.error bad) ∈ action.deeds console) :
    action = .submit line ∧ (console.submit line).1 = .error bad := by
  cases action with
  | submit submitted =>
      simp only [InputAction.deeds] at failed
      cases outcome : (console.submit submitted).1 with
      | ok flow =>
          rw [outcome] at failed
          simp at failed
      | error other =>
          rw [outcome] at failed
          simp only [List.mem_cons, Console.Deed.submit.injEq,
            Except.error.injEq, reduceCtorEq, List.not_mem_nil, or_false]
            at failed
          obtain ⟨rfl, rfl⟩ := failed
          exact ⟨rfl, outcome⟩
  | cancelPending => simp [InputAction.deeds] at failed
  | quit | edited | ignored => exact absurd failed List.not_mem_nil

theorem transcript_act_of_error {screen : Screen} {line : String}
    {bad : BadTarget} (failed : (screen.console.submit line).1 = .error bad) :
    (screen.act (.submit line)).2.console.transcript =
      screen.console.transcript.push
        ⟨Text.trim line, "error: " ++ String.intercalate ": " bad.chain,
          true⟩ := by
  have before : (screen.console.submit line).2.transcript =
      screen.console.transcript := by
    rw [Console.transcript_submit, Console.localBlock?_of_target?
      (Console.submit_eq_error_iff.mp failed).1]
    rfl
  simp only [Screen.act, Screen.submit, Console.submitReporting]
  cases outcome : screen.console.submit line with
  | mk flow next =>
      rw [outcome] at failed before
      cases failed
      rw [← before]
      rfl

/-- A line that fails is answered by one block, which holds what the line leads
to and why that cannot be joined. -/
theorem transcript_handle_of_error {screen : Screen} {event : Event}
    {line : String} {bad : BadTarget}
    (failed : .submit line (.error bad) ∈ screen.deeds event) :
    screen.console.table.target? line = some bad.target ∧
      screen.console.base.join bad.target = .error bad.fault ∧
      (screen.handle event).2.console.transcript =
        screen.console.transcript.push
          ⟨Text.trim line, "error: " ++ String.intercalate ": " bad.chain,
            true⟩ := by
  cases event with
  | other => exact absurd failed List.not_mem_nil
  | key key =>
      obtain ⟨action, outcome⟩ := act_of_error failed
      obtain ⟨leads, unjoined⟩ := Console.submit_eq_error_iff.mp outcome
      refine ⟨leads, unjoined, ?_⟩
      rw [Screen.handle_key, action]
      exact transcript_act_of_error outcome

/-! ## Runs of the loop -/

/-- The loop ends like this when this happens. -/
def Happening.Ends (happening : Happening) : Ending → Prop
  | .leave url =>
      ∃ line, .submit line (.ok (.leave url)) ∈ happening.deeds
  | .quit => ∃ key, happening.event? = some (.key key) ∧ key.Interrupts

namespace Loop

variable {loop next : Loop} {happening : Happening}
  {happenings : List Happening}

/-- The editor that has the lines of what has happened. -/
def editor (loop : Loop) (happenings : List Happening) : Editor :=
  loop.screen.editor (Console.typed (deeds happenings))

theorem Step.editor (step : Step loop happening next) :
    next.editor (happenings ++ [happening]) =
      happening.event?.elim (loop.editor happenings)
        (loop.editor happenings).afterEvent := by
  rw [Loop.editor, deeds_append_singleton, Console.typed_append]
  cases step with
  | @come screen after event ending last handled leaves =>
      have same := editor_handle screen event
        (Console.typed (deeds happenings))
      rw [handled] at same
      exact same
  | draw | keep =>
      rw [Screen.editor, Screen.input_redraw]
      exact congrArg (Editor.mk · _) (List.append_nil _)
  | pump | timeOut => exact congrArg (Editor.mk · _) (List.append_nil _)
  | @aside screen phase deed after isAside does =>
      have silent : Console.typed [deed] = [] := by
        cases deed with
        | work | share => rfl
        | submit | receive | cancelPending | report => cases isAside
      rw [Happening.deeds, silent, List.append_nil]
      rfl

theorem Runs.editor {console : Console}
    (run : Runs (.start console) happenings loop) :
    loop.editor happenings = .ofEvents (events happenings) := by
  -- The editor is left alone by all but events, as is the one of the keys.
  induction run with
  | none => rfl
  | @step happenings happening _ _ _ next induction =>
      rw [next.editor, induction, events_append_singleton]
      cases happening.event? with
      | none => simp
      | some event => exact (Editor.ofEvents_append_singleton _ event).symm

theorem Step.ended_iff (step : Step loop happening next) (ending : Ending) :
    next.phase = .ended ending ↔
      loop.phase = .ended ending ∨ happening.Ends ending := by
  cases step with
  | pump | draw | keep | timeOut =>
      cases ending <;>
        simp [Happening.Ends, Happening.deeds, Happening.event?]
  | @come screen after event outcome last handled leaves =>
      obtain rfl : (screen.handle event).1 = outcome := by rw [handled]
      have same : Phase.after (screen.handle event).1 = .ended ending ↔
          (screen.handle event).1 = some ending := by
        cases (screen.handle event).1 <;> simp [Phase.after]
      rw [same]
      cases ending with
      | leave url =>
          rw [handle_leaves_iff]
          simp [Happening.Ends, Happening.deeds]
      | quit =>
          rw [handle_quits_iff]
          simp [Happening.Ends, Happening.event?]
  | @aside screen phase deed after isAside does =>
      have harmless : ¬ (Happening.aside deed).Ends ending := by
        cases ending with
        | leave url =>
            rintro ⟨line, member⟩
            cases List.mem_singleton.mp member
            cases isAside
        | quit =>
            rintro ⟨key, told, _⟩
            cases told
      simp [harmless]

theorem Runs.ended_iff (run : Runs loop happenings next) (ending : Ending) :
    next.phase = .ended ending ↔
      loop.phase = .ended ending ∨
        ∃ happening ∈ happenings, happening.Ends ending := by
  induction run with
  | none => simp
  | step _ next induction =>
      rw [next.ended_iff, induction]
      simp only [List.mem_append, List.mem_singleton, or_and_right,
        exists_or, exists_eq_left, or_assoc]

theorem exists_leaves_iff {url : Url} :
    (∃ happening ∈ happenings, happening.Ends (.leave url)) ↔
      ∃ line, .submit line (.ok (.leave url)) ∈ deeds happenings := by
  simp only [Happening.Ends, deeds, List.mem_flatMap]
  constructor
  · rintro ⟨happening, member, line, does⟩
    exact ⟨line, happening, member, does⟩
  · rintro ⟨line, happening, member, does⟩
    exact ⟨happening, member, line, does⟩

theorem exists_quits_iff :
    (∃ happening ∈ happenings, happening.Ends .quit) ↔
      ∃ key, .key key ∈ events happenings ∧ key.Interrupts := by
  simp only [Happening.Ends, events, List.mem_filterMap]
  constructor
  · rintro ⟨happening, member, key, told, interrupts⟩
    exact ⟨key, ⟨happening, member, told⟩, interrupts⟩
  · rintro ⟨key, ⟨happening, member, told⟩, interrupts⟩
    exact ⟨happening, member, key, told, interrupts⟩

/-- The lines that the console gets, and the text that is being typed, are those
of an editor with the same keys.  No line is empty, no character is lost, doubled
or carried over to another line.  The loop is left with the line for which the
console is or with the key that interrupts it, and otherwise comes to take any
event; a line that fails is answered by one block. -/
theorem lines_as_typed {console : Console}
    (run : Runs (.start console) happenings loop) :
    loop.editor happenings = .ofEvents (events happenings) ∧
      (∀ line ∈ Console.typed (deeds happenings), line ≠ "") ∧
      ((loop.editor happenings).characters.Sublist
        (Editor.typed ((events happenings).filterMap Event.stroke?))) ∧
      (.erases ∉ (events happenings).filterMap Event.stroke? →
        (loop.editor happenings).characters =
          Editor.typed ((events happenings).filterMap Event.stroke?)) ∧
      (∀ before event later, events happenings = before ++ event :: later →
        event.stroke? = some .enters →
        Console.typed (deeds happenings) =
          (Editor.ofEvents before).lines ++
            Editor.handedIn (Editor.ofEvents before).text ++
            (Editor.ofEvents later).lines) ∧
      (∀ url, loop.phase = .ended (.leave url) ↔
        ∃ line, .submit line (.ok (.leave url)) ∈ deeds happenings) ∧
      (loop.phase = .ended .quit ↔
        ∃ key, .key key ∈ events happenings ∧ key.Interrupts) ∧
      ((∀ ending, loop.phase ≠ .ended ending) → ∀ event,
        ∃ quiet did next, events quiet = [] ∧
          Runs loop (quiet ++ [.came event did]) next) ∧
      ∀ event did next line bad, Step loop (.came event did) next →
        .submit line (.error bad) ∈ did →
        loop.screen.console.table.target? line = some bad.target ∧
          loop.screen.console.base.join bad.target = .error bad.fault ∧
          next.screen.console.transcript =
            loop.screen.console.transcript.push
              ⟨Text.trim line,
                "error: " ++ String.intercalate ": " bad.chain, true⟩ := by
  have same := run.editor
  refine ⟨same, ?_, ?_, ?_, ?_, ?_, ?_,
    fun goesOn => exists_came goesOn ⟨80, 24⟩, ?_⟩
  · intro line member
    have handed := congrArg Editor.lines same
    rw [show Console.typed (deeds happenings) = _ from handed] at member
    exact Editor.lines_ofStrokes_ne_empty _ line member
  · rw [same]
    exact Editor.characters_sublist _
  · intro kept
    rw [same]
    exact Editor.characters_eq kept
  · intro before event later split enters
    have handed := congrArg Editor.lines same
    rw [split, Editor.ofEvents, List.filterMap_append,
      List.filterMap_cons_some enters, Editor.ofStrokes_enters] at handed
    exact handed
  · intro url
    rw [run.ended_iff, exists_leaves_iff]
    simp [Loop.start]
  · rw [run.ended_iff, exists_quits_iff]
    simp [Loop.start]
  · intro event did next line bad step failed
    cases step with
    | come handled leaves =>
        obtain ⟨leads, unjoined, block⟩ := transcript_handle_of_error failed
        rw [handled] at block
        exact ⟨leads, unjoined, block⟩

/-- A line is mistyped, put right and handed in, and fails; before that Enter is
let go, which does nothing.  Then another line is begun. -/
def mistyped : List Event :=
  [.key (.plain (.char 'd')), .key (.plain (.char 'o')),
    .key (.plain (.char 'x')), .key (.plain .backspace),
    .key (.plain (.char 'c')), .other,
    .key { Key.plain .enter with kind := .release }, .key (.plain .enter),
    .key (.plain (.char 'g'))]

def interrupt : Key :=
  { Key.plain (.char 'c') with control := true }

def mistypedOn : Screen :=
  (((Screen.start (.start (Console.docTable "//") .append .signedIn
    .loopback none)).refresh ⟨80, 24⟩).rounds ⟨80, 24⟩ mistyped).2

theorem mistyped_line_handed_in :
    ∃ happenings loop,
      Runs (.start (.start (Console.docTable "//") .append .signedIn
        .loopback none)) happenings loop ∧
      events happenings = mistyped ++ [.key interrupt] ∧
      Console.typed (deeds happenings) = ["doc"] ∧
      loop.screen.input.text.toList = ['g'] ∧ loop.phase = .ended .quit ∧
      loop.screen.console.transcript.blocks =
        [⟨"doc", "error: Invalid navigation target \"//\": empty host",
          true⟩] := by
  obtain ⟨before, nothing, first⟩ := runs_refresh (.start
    (.start (Console.docTable "//") .append .signedIn .loopback none))
    ⟨80, 24⟩
  obtain ⟨taken, rest, run, split, all⟩ := runs_rounds ⟨80, 24⟩ mistyped
    ((Screen.start (.start (Console.docTable "//") .append .signedIn
      .loopback none)).refresh ⟨80, 24⟩)
  rw [all (by decide +kernel), List.append_nil] at split
  have last := step_handle mistypedOn (.key interrupt)
  have whole := (first.trans run).step last
  have told : events ((before ++ taken) ++ [.came (.key interrupt)
      (mistypedOn.deeds (.key interrupt))]) = mistyped ++ [.key interrupt] := by
    rw [events_append, events_append, nothing, ← split]
    rfl
  obtain ⟨same, _, _, _, _, _, quits, _, _⟩ := lines_as_typed whole
  rw [told] at same quits
  refine ⟨_, _, whole, told, ?_, ?_, ?_, ?_⟩
  · exact (congrArg Editor.lines same).trans (by decide +kernel)
  · exact (congrArg Editor.text same).trans (by decide +kernel)
  · exact quits.mpr ⟨interrupt, by decide +kernel, by decide +kernel⟩
  · decide +kernel

end Loop

end OperatorConsole.Terminal
