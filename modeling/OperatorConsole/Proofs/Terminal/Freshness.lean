import OperatorConsole.Proofs.Console.Blocks
import OperatorConsole.Proofs.Terminal.Loop

/-!
# Fresh frames

A frame shows how many calls are pending, the transcript and the line that is
being typed.  Whatever changes one of these makes a new frame due, and whenever
the loop waits, no frame is due.  So what is on the terminal then is what would
be drawn for the present console, if the terminal is as large as it was.
-/

namespace OperatorConsole

namespace Console

/-- No terminal shows a difference between the consoles. -/
structure LooksLike (left right : Console) : Prop where
  pending : left.pending = right.pending
  transcript : left.transcript = right.transcript

namespace LooksLike

theorem refl (console : Console) : console.LooksLike console :=
  ⟨rfl, rfl⟩

theorem trans {first second third : Console}
    (before : first.LooksLike second) (after : second.LooksLike third) :
    first.LooksLike third :=
  ⟨before.pending.trans after.pending,
    before.transcript.trans after.transcript⟩

theorem draw {left right : Console} (looks : left.LooksLike right)
    (size : Terminal.Size) (input : Terminal.InputLine) :
    Terminal.Frame.draw size left input =
      Terminal.Frame.draw size right input := by
  simp only [Terminal.Frame.draw, looks.pending, looks.transcript]

end LooksLike

variable {console after : Console}

/-- If nothing counted of what came out of the channel, all calls are still
waited for. -/
theorem Does.looksLike_of_nothing {manner : Remote.Manner}
    (next : Does console (.receive manner []) after)
    (orderly : console.pool.Orderly) : after.LooksLike console := by
  cases next with
  | receive received =>
      obtain ⟨_, arrived, course, nothing⟩ := received.course orderly
      -- Late answers may have come out of the channel, but to no task in flight.
      have waiting := course.inFlight
      rw [List.filter_eq_self.mpr] at waiting
      · exact ⟨congrArg List.length waiting, rfl⟩
      · intro task member
        rw [Bool.not_eq_true', ← Bool.not_eq_true, List.contains_iff_mem]
        intro came
        obtain ⟨completion, arrives, same⟩ := List.mem_map.mp came
        have flying : console.pool.isInFlight completion.id = true := by
          rw [Remote.Pool.isInFlight_iff, same]
          exact List.mem_map_of_mem member
        have counted : completion ∈ arrived.filter fun completion =>
            console.pool.isInFlight completion.id :=
          List.mem_filter.mpr ⟨arrives, flying⟩
        rw [← nothing] at counted
        exact absurd counted List.not_mem_nil

theorem Does.looksLike_of_none_cancelled
    (next : Does console (.cancelPending 0) after)
    (orderly : console.pool.Orderly) : after.LooksLike console := by
  have transcript := next.transcript
  cases next with
  | cancelPending cancelled given =>
      have none : console.pool.inFlight = [] :=
        List.length_eq_zero_iff.mp (congrArg Prod.fst cancelled)
      constructor
      · rw [pending, pool_withPool, Remote.Pool.pending,
          given.inFlight_eq_nil orderly, pending, Remote.Pool.pending, none]
      · rw [transcript, shown, none]
        rfl

theorem Does.looksLike_of_aside {deed : Deed}
    (next : Does console deed after) (aside : Terminal.aside deed) :
    after.LooksLike console := by
  cases next with
  | work | share => exact ⟨rfl, rfl⟩
  | submit | receive | cancelPending | report => cases aside

end Console

namespace Terminal

/-! ## Events after which no frame is due -/

/-- A key that changes the line either hands it in or is said to have edited
it. -/
theorem InputLine.take_cases (input : InputLine) (key : Key) :
    (input.take key).2 = input ∨ (input.take key).1 = .edited ∨
      ∃ line, (input.take key).1 = .submit line := by
  unfold take press
  cases key.kind with
  | release => exact .inl rfl
  | press | again =>
      cases key.code with
      | char c => cases key.control <;> simp
      | enter => cases input.text.isEmpty <;> simp
      | backspace => cases input.text.isEmpty <;> simp
      | _ => exact .inl rfl

section Act

variable (screen : Screen) (action : InputAction)

@[simp] theorem frame_act :
    (screen.act action).2.frame = screen.frame := by
  cases action with
  | submit line =>
      simp only [Screen.act, Screen.submit]
      split <;> rfl
  | cancelPending | quit | edited | ignored => rfl

@[simp] theorem frame_handle (event : Event) :
    (screen.handle event).2.frame = screen.frame := by
  cases event with
  | key key => exact frame_act _ _
  | other => rfl

end Act

/-- The actions that may leave no frame due. -/
theorem act_undue {screen : Screen} {action : InputAction}
    (undue : (screen.act action).2.dirty = false) :
    screen.dirty = false ∧
      (action = .quit ∨ action = .ignored ∨
        action = .cancelPending ∧ screen.console.pending = 0) := by
  cases action with
  | submit line =>
      simp only [Screen.act, Screen.submit] at undue
      split at undue <;> cases undue
  | cancelPending =>
      obtain ⟨clean, none⟩ := Bool.or_eq_false_iff.mp undue
      have count : screen.console.pending = 0 :=
        Nat.eq_zero_of_not_pos (of_decide_eq_false none)
      exact ⟨clean, .inr (.inr ⟨rfl, count⟩)⟩
  | edited => cases undue
  | quit => exact ⟨undue, .inl rfl⟩
  | ignored => exact ⟨undue, .inr (.inl rfl)⟩

theorem looksLike_act {screen : Screen} {action : InputAction}
    {last : Remote.Pool} (leaves : action.Leaves screen.console last)
    (orderly : screen.console.pool.Orderly)
    (undue : (screen.act action).2.dirty = false) :
    ((screen.act action).2.console.withPool last).LooksLike
      screen.console := by
  rcases (act_undue undue).2 with rfl | rfl | ⟨rfl, none⟩
  · cases leaves
    exact .refl _
  · cases leaves
    exact .refl _
  · have does := Console.Does.cancelPending
      (Prod.eta screen.console.cancelPending).symm leaves
    rw [show screen.console.cancelPending.1 = 0 from none] at does
    exact does.looksLike_of_none_cancelled orderly

/-- A key after which no frame is due has not touched the line. -/
theorem take_undue {screen : Screen} {key : Key}
    (undue : (screen.handle (.key key)).2.dirty = false) :
    (screen.input.take key).2 = screen.input := by
  have edits := screen.input.take_cases key
  rw [Screen.handle] at undue
  generalize screen.input.take key = taken at undue edits ⊢
  obtain ⟨action, input⟩ := taken
  have action := (act_undue undue).2
  rcases edits with same | rfl | ⟨line, rfl⟩
  · exact same
  · simp at action
  · simp at action

/-- What is on the terminal was drawn on `drawn`, which did not look
otherwise. -/
structure Screen.Shows (screen : Screen) (size : Size) (drawn : Screen) :
    Prop where
  frame : screen.frame = .draw size drawn.console drawn.input
  looks : screen.console.LooksLike drawn.console
  input : screen.input = drawn.input

namespace Screen.Shows

variable {screen next drawn : Screen} {size : Size}

theorem frame_eq (shows : screen.Shows size drawn) :
    screen.frame = .draw size screen.console screen.input := by
  rw [shows.frame, shows.input, shows.looks.draw]

theorem goOn (shows : screen.Shows size drawn)
    (frame : next.frame = screen.frame)
    (looks : next.console.LooksLike screen.console)
    (input : next.input = screen.input) : next.Shows size drawn where
  frame := frame.trans shows.frame
  looks := looks.trans shows.looks
  input := input.trans shows.input

end Screen.Shows

/-- An event after which no frame is due changes nothing that is shown. -/
theorem Screen.Shows.handle {screen drawn : Screen} {size : Size}
    {event : Event} {last : Remote.Pool} (shows : screen.Shows size drawn)
    (leaves : screen.Leaves event last)
    (orderly : screen.console.pool.Orderly)
    (undue : (screen.handle event).2.dirty = false) :
    ((screen.handle event).2.withPool last).Shows size drawn := by
  refine shows.goOn (frame_handle screen event) ?_ ?_
  · cases event with
    | key key => exact looksLike_act leaves orderly undue
    | other => cases undue
  · cases event with
    | key key => exact (Screen.input_act _ _).trans (take_undue undue)
    | other => rfl

theorem dirty_of_handle_undue {screen : Screen} {event : Event}
    (undue : (screen.handle event).2.dirty = false) : screen.dirty = false := by
  cases event with
  | key key => exact (act_undue undue).1
  | other => cases undue

/-! ## Runs of the loop -/

namespace Loop

/-- Since the last frame was drawn nothing has changed that it shows. -/
def Fresh (console : Console) (happenings : List Happening)
    (screen : Screen) : Prop :=
  ∃ before size after drawn,
    happenings = before ++ .drew size :: after ∧
      (∀ happening ∈ after, ∀ other, happening ≠ .drew other) ∧
      Runs (.start console) before ⟨drawn, .drawing⟩ ∧
      screen.Shows size drawn

variable {console : Console} {happenings : List Happening}

theorem Fresh.goOn {screen next : Screen}
    (fresh : Fresh console happenings screen) {happening : Happening}
    (undrawn : ∀ size, happening ≠ .drew size)
    (shows : ∀ size drawn, screen.Shows size drawn → next.Shows size drawn) :
    Fresh console (happenings ++ [happening]) next := by
  obtain ⟨before, size, after, drawn, rfl, none, run, shown⟩ := fresh
  refine ⟨before, size, after ++ [happening], drawn, ?_, ?_, run,
    shows size drawn shown⟩
  · rw [List.append_assoc, List.cons_append]
  · intro other member
    rcases List.mem_append.mp member with old | new
    · exact none other old
    · rw [List.mem_singleton.mp new]
      exact undrawn

/-- When the loop waits no frame is due, and when none is due, the last one is
fresh. -/
structure Current (console : Console) (happenings : List Happening)
    (loop : Loop) : Prop where
  undue : loop.phase = .waiting → loop.screen.dirty = false
  fresh : loop.screen.dirty = false → Fresh console happenings loop.screen

theorem Current.step {loop next : Loop} {happening : Happening}
    (current : Current console happenings loop)
    (run : Runs (.start console) happenings loop)
    (orderly : loop.screen.console.pool.Orderly)
    (step : Step loop happening next) :
    Current console (happenings ++ [happening]) next := by
  cases step with
  | @pump screen completions after does =>
      refine ⟨Phase.noConfusion, fun undue => ?_⟩
      -- No frame is due only if none was before and nothing counted.
      obtain ⟨clean, few⟩ := Bool.or_eq_false_iff.mp undue
      obtain rfl : completions = [] := by simpa using few
      refine (current.fresh clean).goOn (fun _ => Happening.noConfusion) ?_
      intro size drawn shows
      exact shows.goOn rfl (does.looksLike_of_nothing orderly) rfl
  | @draw screen size due =>
      have redrawn : screen.redraw size =
          { screen with
            dirty := false
            frame := .draw size screen.console screen.input } := if_pos due
      rw [redrawn]
      refine ⟨fun _ => rfl, fun _ => ⟨happenings, size, [], screen, rfl, ?_,
        run, ⟨rfl, .refl _, rfl⟩⟩⟩
      exact fun _ member => absurd member List.not_mem_nil
  | @keep screen size undue =>
      have kept : screen.redraw size = screen := by
        rw [Screen.redraw, undue]
        rfl
      rw [kept]
      exact ⟨fun _ => undue, fun _ => (current.fresh undue).goOn
        (fun _ => Happening.noConfusion) fun _ _ => id⟩
  | timeOut screen =>
      exact ⟨Phase.noConfusion, fun undue => (current.fresh undue).goOn
        (fun _ => Happening.noConfusion) fun _ _ => id⟩
  | @come screen after event ending last handled leaves =>
      refine ⟨?_, fun undue => ?_⟩
      · intro waiting
        cases ending <;> cases waiting
      · obtain rfl : (screen.handle event).2 = after := by rw [handled]
        have clean := dirty_of_handle_undue undue
        refine (current.fresh clean).goOn (fun _ => Happening.noConfusion) ?_
        intro size drawn shows
        exact shows.handle leaves orderly undue
  | aside isAside does =>
      refine ⟨current.undue, fun undue => (current.fresh undue).goOn
        (fun _ => Happening.noConfusion) ?_⟩
      intro size drawn shows
      exact shows.goOn rfl (does.looksLike_of_aside isAside) rfl

section Reached

variable {table : CommandTable} {mode : RenderMode} {session : Session}
  {base : Url} {file : Option String} {done : List Console.Deed}

theorem Runs.current {loop : Loop}
    (reached : Console.Runs (.start table mode session base file) done console)
    (run : Runs (.start console) happenings loop) :
    Current console happenings loop := by
  induction run with
  | none => exact ⟨Phase.noConfusion, Bool.noConfusion⟩
  | step run next induction =>
      exact induction.step run (reached.trans run.console).orderly next

/-- Whenever the loop waits for an event, what is on the terminal is what would
be drawn for the present console and input line.  Since the last frame was drawn,
neither the number of pending calls nor the transcript nor the input line has
changed. -/
theorem frame_never_stale {screen : Screen}
    (reached : Console.Runs (.start table mode session base file) done console)
    (run : Runs (.start console) happenings ⟨screen, .waiting⟩) :
    ∃ before size after drawn,
      happenings = before ++ .drew size :: after ∧
        (∀ happening ∈ after, ∀ other, happening ≠ .drew other) ∧
        Runs (.start console) before ⟨drawn, .drawing⟩ ∧
        screen.console.pending = drawn.console.pending ∧
        screen.console.transcript = drawn.console.transcript ∧
        screen.input = drawn.input ∧
        screen.frame = .draw size screen.console screen.input := by
  have current := run.current reached
  obtain ⟨before, size, after, drawn, split, last, earlier, shows⟩ :=
    current.fresh (current.undue rfl)
  exact ⟨before, size, after, drawn, split, last, earlier,
    shows.looks.pending, shows.looks.transcript, shows.input, shows.frame_eq⟩

end Reached

/-- A line is begun while a call is pending, the call is given up, and a key is
pressed that does nothing. -/
def begun : Screen :=
  (((Screen.start (.asking .append)).refresh ⟨80, 24⟩).rounds ⟨80, 24⟩
    [.key (.plain (.char 'x')), .key (.plain .escape),
      .key (.plain .up)]).2

theorem runs_begun : ∃ happenings,
    Runs (.start (.asking .append)) happenings ⟨begun, .waiting⟩ := by
  obtain ⟨_, _, first⟩ := runs_refresh (.start (.asking .append)) ⟨80, 24⟩
  obtain ⟨_, _, rest, _⟩ := runs_rounds ⟨80, 24⟩
    [.key (.plain (.char 'x')), .key (.plain .escape), .key (.plain .up)]
    ((Screen.start (.asking .append)).refresh ⟨80, 24⟩)
  exact ⟨_, first.trans rest⟩

theorem frame_of_begun :
    begun.console.pending = 0 ∧ begun.input.text = "x" ∧
      begun.console.transcript.markup =
        "# set k<br>error: request cancelled<br><br># help<br>commands<br><br>" ∧
      ∃ size, begun.frame = .draw size begun.console begun.input := by
  obtain ⟨_, _, reached⟩ := Console.runs_asking .append
  obtain ⟨_, run⟩ := runs_begun
  obtain ⟨_, size, _, _, _, _, _, _, _, _, fresh⟩ :=
    frame_never_stale reached run
  exact ⟨by decide +kernel, by decide +kernel, by decide +kernel, size, fresh⟩

end Loop

end Terminal

end OperatorConsole
