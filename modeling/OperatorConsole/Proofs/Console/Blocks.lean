import OperatorConsole.Proofs.Console.Schedule

/-!
# Blocks of the transcript

A deed puts the blocks that it shows into the transcript, one after the other,
and does nothing else to it.  In append mode the older blocks stay below them.
Each block stands for one line, one completion or one call that is given up.
-/

namespace OperatorConsole

namespace Transcript

variable (blocks : List Block)

def pushAll (transcript : Transcript) : Transcript :=
  blocks.foldl push transcript

@[simp] theorem mode_push (transcript : Transcript) (block : Block) :
    (transcript.push block).mode = transcript.mode := by
  unfold push
  split <;> rfl

@[simp] theorem mode_pushAll (transcript : Transcript) :
    (transcript.pushAll blocks).mode = transcript.mode := by
  induction blocks generalizing transcript with
  | nil => rfl
  | cons block blocks induction =>
      exact (induction (transcript.push block)).trans
        (mode_push transcript block)

theorem blocks_pushAll_append {transcript : Transcript}
    (appends : transcript.mode = .append) :
    (transcript.pushAll blocks).blocks =
      blocks.reverse ++ transcript.blocks := by
  induction blocks generalizing transcript with
  | nil => rfl
  | cons block blocks induction =>
      have pushed : (transcript.push block).blocks =
          block :: transcript.blocks := by
        rw [push, appends]
      have later := induction ((mode_push transcript block).trans appends)
      rw [pushed] at later
      simpa [pushAll] using later

theorem length_blocks_pushAll_replace {transcript : Transcript}
    (replaces : transcript.mode = .replace)
    (single : transcript.blocks.length ≤ 1) :
    (transcript.pushAll blocks).blocks.length ≤ 1 := by
  induction blocks generalizing transcript with
  | nil => exact single
  | cons block blocks induction =>
      refine induction ((mode_push transcript block).trans replaces) ?_
      rw [push, replaces]
      exact Nat.le_refl 1

theorem mem_blocks_of_mem_pushAll {block : Block} {transcript : Transcript}
    (member : block ∈ (transcript.pushAll blocks).blocks) :
    block ∈ blocks ∨ block ∈ transcript.blocks := by
  induction blocks generalizing transcript with
  | nil => exact .inr member
  | cons first blocks induction =>
      rcases induction member with later | earlier
      · exact .inl (List.mem_cons_of_mem first later)
      · have here : block = first ∨ block ∈ transcript.blocks := by
          unfold push at earlier
          split at earlier
          · exact List.mem_cons.mp earlier
          · exact .inl (List.mem_singleton.mp earlier)
        rcases here with rfl | there
        · exact .inl List.mem_cons_self
        · exact .inr there

theorem markup_of_blocks_append {before after : Transcript}
    {added : List Block} (same : after.blocks = added ++ before.blocks) :
    after.markup = String.join (added.map Block.markup) ++ before.markup := by
  rw [markup, same, List.map_append, String.join_append, markup]

end Transcript

namespace Console

/-- The blocks that a deed shows, oldest first. -/
def shown (console : Console) : Deed → List Block
  | .submit line _ => (console.table.localBlock? line).toList
  | .receive _ completions => completions.map Remote.Completion.block
  | .cancelPending _ =>
      console.pool.inFlight.map Remote.Task.cancelledBlock
  | .report line chain =>
      [⟨Text.trim line, "error: " ++ String.intercalate ": " chain, true⟩]
  | .work _ _ | .share _ => []

theorem transcript_submit (console : Console) (line : String) :
    (console.submit line).2.transcript =
      console.transcript.pushAll (console.table.localBlock? line).toList := by
  unfold submit CommandTable.localBlock?
  cases console.table.effect? line with
  | none => rfl
  | some effect => cases effect <;> rfl

theorem transcript_renderOutcome (console : Console)
    (completion : Remote.Completion) :
    (console.renderOutcome completion).transcript =
      console.transcript.push completion.block := by
  unfold renderOutcome Remote.Completion.block
  cases completion.outcome with
  | ok text => rfl
  | error failure =>
      dsimp only
      split <;> rfl

theorem transcript_renderAll (completions : List Remote.Completion) :
    ∀ console : Console, (console.renderAll completions).transcript =
      console.transcript.pushAll
        (completions.map Remote.Completion.block) := by
  induction completions with
  | nil => exact fun _ => rfl
  | cons completion completions induction =>
      intro console
      have later := induction (console.renderOutcome completion)
      rw [transcript_renderOutcome] at later
      exact later

theorem transcript_cancelPending (console : Console) :
    console.cancelPending.2.transcript =
      console.transcript.pushAll
        (console.pool.inFlight.map Remote.Task.cancelledBlock) := by
  rw [Transcript.pushAll, List.foldl_map]
  exact List.foldl_map

/-- A deed adds the blocks that it shows. -/
theorem Does.transcript {console after : Console} {deed : Deed}
    (next : Does console deed after) :
    after.transcript = console.transcript.pushAll (console.shown deed) := by
  cases next with
  | @submit _ line _ _ submitted _ =>
      have same := console.transcript_submit line
      rw [submitted] at same
      exact same
  | receive _ => exact transcript_renderAll _ _
  | cancelPending cancelled _ =>
      have same := console.transcript_cancelPending
      rw [cancelled] at same
      exact same
  | report | work | share => rfl

theorem Runs.mode {first last : Console} {deeds : List Deed}
    (run : Runs first deeds last) :
    last.transcript.mode = first.transcript.mode := by
  induction run with
  | none => rfl
  | step _ next induction =>
      rw [next.transcript, Transcript.mode_pushAll, induction]

/-! ## What the blocks stand for -/

/-- The origin of the blocks that a deed adds, oldest first, and what else it
tells.  `deeds` are those before it. -/
def Adds (console : Console) (deeds : List Deed) (after : Console)
    (added : List Block) : Deed → Prop
  | .submit line _ => added = (console.table.localBlock? line).toList
  | .receive _ completions =>
      added = completions.map Remote.Completion.block ∧
        -- Those in flight among what came out of the channel, in its order.
        (∃ arrived sent,
          console.pool.channel ++ sent = arrived ++ after.pool.channel ∧
            completions = arrived.filter fun completion =>
              console.pool.isInFlight completion.id) ∧
        ∀ completion ∈ completions,
          Originates console.table deeds completion.id completion.label
  | .cancelPending count =>
      added = console.pool.inFlight.map Remote.Task.cancelledBlock ∧
        count = console.pending ∧ after.pending = 0 ∧
        (console.pool.inFlight.Pairwise fun first second =>
          first.id < second.id) ∧
        ∀ task ∈ console.pool.inFlight,
          Originates console.table deeds task.id task.label
  | .report line chain =>
      added =
        [⟨Text.trim line, "error: " ++ String.intercalate ": " chain, true⟩]
  | .work _ _ | .share _ => added = []

section Added

variable {table : CommandTable} {mode : RenderMode} {session : Session}
  {base : Url} {file : Option String} {deeds : List Deed}
  {console after : Console}

theorem Does.originates {manner : Remote.Manner}
    {completions : List Remote.Completion} {completion : Remote.Completion}
    (run : Runs (start table mode session base file) deeds console)
    (next : Does console (.receive manner completions) after)
    (member : completion ∈ completions) :
    Originates table deeds completion.id completion.label := by
  have origin := (Runs.step run next).completion_originates
    (List.mem_flatMap.mpr ⟨_, List.mem_append_right _ List.mem_cons_self,
      member⟩)
  have sameLines : remoteLines table
      (deeds ++ [.receive manner completions]) = remoteLines table deeds := by
    rw [remoteLines_append]
    exact List.append_nil _
  rwa [Originates, sameLines] at origin

theorem Does.adds
    (run : Runs (start table mode session base file) deeds console) {deed : Deed}
    (next : Does console deed after) :
    console.Adds deeds after (console.shown deed) deed := by
  have sameTable : console.table = table := run.table
  cases next with
  | submit | report | work | share => rfl
  | receive received =>
      obtain ⟨events, arrived, course, completions⟩ :=
        received.course run.orderly
      obtain ⟨sent, queue⟩ := course.queue
      refine ⟨rfl, ⟨arrived, sent, ?_, completions⟩, ?_⟩
      · rw [pool_renderAll, pool_withPool]
        exact queue
      · intro completion member
        rw [sameTable]
        exact Does.originates run (.receive received) member
  | cancelPending cancelled given =>
      refine ⟨rfl, ?_, ?_, run.inFlight_sorted, ?_⟩
      · cases cancelled
        rfl
      · rw [pending, pool_withPool, Remote.Pool.pending,
          given.inFlight_eq_nil run.orderly]
        rfl
      · intro task waiting
        rw [sameTable]
        exact run.task_originates waiting

end Added

/-- In append mode a deed puts new blocks on top of those that are there, which
it leaves alone. -/
theorem blocks_added_on_top {table : CommandTable} {session : Session}
    {base : Url} {file : Option String} {deeds : List Deed} {deed : Deed}
    {console after : Console}
    (run : Runs (start table .append session base file) deeds console)
    (next : Does console deed after) :
    ∃ added : List Block,
      after.transcript.blocks =
          added.reverse ++ console.transcript.blocks ∧
        after.transcript.markup =
          String.join (added.reverse.map Block.markup) ++
            console.transcript.markup ∧
        console.Adds deeds after added deed := by
  have appends : console.transcript.mode = .append := run.mode
  have blocks : after.transcript.blocks =
      (console.shown deed).reverse ++ console.transcript.blocks := by
    rw [next.transcript]
    exact Transcript.blocks_pushAll_append _ appends
  exact ⟨console.shown deed, blocks,
    Transcript.markup_of_blocks_append blocks, next.adds run⟩

/-- A console that has shown its help and has asked the service. -/
def asking (mode : RenderMode) : Console :=
  ((start helpOnly mode ⟨.empty, 0, .empty⟩
      ⟨"http", some .empty, .segments [""], none, none⟩ none).submit
    "help").2.submit " set k " |>.2

theorem runs_asking (mode : RenderMode) :
    ∃ flow next, Runs (start helpOnly mode ⟨.empty, 0, .empty⟩
        ⟨"http", some .empty, .segments [""], none, none⟩ none)
      [.submit "help" flow, .submit " set k " next] (asking mode) :=
  ⟨_, _, .step (.step .none (does_submit (Prod.eta _).symm))
    (does_submit (Prod.eta _).symm)⟩

theorem cancelled_call_on_top :
    (asking .append).transcript.markup = "# help<br>commands<br><br>" ∧
      (asking .append).cancelPending.1 = 1 ∧
      (asking .append).cancelPending.2.pending = 0 ∧
      (asking .append).cancelPending.2.transcript.markup =
        "# set k<br>error: request cancelled<br><br>" ++
          (asking .append).transcript.markup := by
  obtain ⟨flow, next, run⟩ := runs_asking .append
  obtain ⟨added, _, markup, shown, count, none, _⟩ :=
    blocks_added_on_top run (does_cancelPending (Prod.eta _).symm)
  refine ⟨by decide +kernel, count.trans (by decide +kernel), none, ?_⟩
  rw [markup, shown]
  rfl

end Console

end OperatorConsole
