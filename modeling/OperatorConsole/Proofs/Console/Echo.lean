import OperatorConsole.Proofs.Console.Blocks
import OperatorConsole.Proofs.Transcript.Lines

/-!
# Echoes of typed lines

Every block of a transcript is shown for a line that was handed in, and it
starts with an echo of that line.  The echo is part of the block's markup, so it
is decoded like the text below it: the line is shown as it was typed just if it
is free of tokens.
-/

namespace OperatorConsole.Console

/-- The call with this number was made for the line. -/
def MadeFor (table : CommandTable) (deeds : List Deed) (id : Nat)
    (line : String) : Prop :=
  ∃ index, id = index + 1 ∧ (remoteLines table deeds)[index]? = some line

/-- A deed, done after `deeds`, shows a block for a line: its local text, what
its call came to, that its call was given up, or its failure. -/
inductive Shows (console : Console) (deeds : List Deed) :
    Deed → String → Block → Prop where
  | localText {line : String} {flow : Except BadTarget Flow} {block : Block} :
      console.table.localBlock? line = some block →
      Shows console deeds (.submit line flow) line block
  | outcome {manner : Remote.Manner} {completions : List Remote.Completion}
      {completion : Remote.Completion} {line : String} :
      completion ∈ completions →
      MadeFor console.table deeds completion.id line →
      Shows console deeds (.receive manner completions) line completion.block
  | givenUp {count : Nat} {task : Remote.Task} {line : String} :
      task ∈ console.pool.inFlight →
      MadeFor console.table deeds task.id line →
      Shows console deeds (.cancelPending count) line task.cancelledBlock
  | failure (line : String) (chain : List String) :
      Shows console deeds (.report line chain) line
        ⟨Text.trim line, "error: " ++ String.intercalate ": " chain, true⟩

/-- Some deed of a run showed the block for the line. -/
def ShownFor (first : Console) (deeds : List Deed) (line : String)
    (block : Block) : Prop :=
  ∃ before deed later console after,
    deeds = before ++ deed :: later ∧ Runs first before console ∧
      Does console deed after ∧ console.Shows before deed line block

/-! ## Lines and labels -/

theorem Originates.madeFor {table : CommandTable} {deeds : List Deed}
    {id : Nat} {label : String} (origin : Originates table deeds id label) :
    ∃ line, MadeFor table deeds id line := by
  obtain ⟨index, line, number, known, _⟩ := origin
  exact ⟨line, index, number, known⟩

theorem Originates.label_eq {table : CommandTable} {deeds : List Deed}
    {id : Nat} {label line : String} (origin : Originates table deeds id label)
    (made : MadeFor table deeds id line) : label = Text.trim line := by
  obtain ⟨index, typed, number, known, rfl⟩ := origin
  obtain ⟨other, same, found⟩ := made
  have sameIndex : index = other := by omega
  rw [sameIndex, found] at known
  cases known
  rfl

section Labels

variable {table : CommandTable} {mode : RenderMode} {session : Session}
  {base : Url} {file : Option String} {deeds : List Deed} {deed : Deed}
  {console after : Console} {line : String} {block : Block}

theorem Shows.label_eq
    (run : Runs (start table mode session base file) deeds console)
    (next : Does console deed after)
    (displayed : console.Shows deeds deed line block) :
    block.label = Text.trim line := by
  have sameTable : console.table = table := run.table
  cases displayed with
  | localText answered => exact CommandTable.label_of_localBlock? answered
  | outcome member made =>
      rw [sameTable] at made
      rw [Remote.Completion.label_block]
      exact (Does.originates run next member).label_eq made
  | givenUp waiting made =>
      rw [sameTable] at made
      exact (run.task_originates waiting).label_eq made
  | failure line chain => rfl

theorem exists_shows
    (run : Runs (start table mode session base file) deeds console)
    (next : Does console deed after) (added : block ∈ console.shown deed) :
    ∃ line, console.Shows deeds deed line block := by
  have sameTable : console.table = table := run.table
  cases deed with
  | submit line flow =>
      exact ⟨line, .localText (Option.mem_toList.mp added)⟩
  | receive manner completions =>
      obtain ⟨completion, member, rfl⟩ := List.mem_map.mp added
      obtain ⟨line, made⟩ := (Does.originates run next member).madeFor
      rw [← sameTable] at made
      exact ⟨line, .outcome member made⟩
  | cancelPending count =>
      obtain ⟨task, waiting, rfl⟩ := List.mem_map.mp added
      obtain ⟨line, made⟩ := (run.task_originates waiting).madeFor
      rw [← sameTable] at made
      exact ⟨line, .givenUp waiting made⟩
  | report line chain =>
      rw [shown, List.mem_singleton] at added
      rw [added]
      exact ⟨line, .failure line chain⟩
  | work | share => exact absurd added List.not_mem_nil

theorem ShownFor.label_eq
    (produced : ShownFor (start table mode session base file) deeds line
      block) : block.label = Text.trim line := by
  obtain ⟨_, _, _, _, _, _, run, next, displayed⟩ := produced
  exact displayed.label_eq run next

theorem ShownFor.append {first : Console} (more : List Deed)
    (produced : ShownFor first deeds line block) :
    ShownFor first (deeds ++ more) line block := by
  obtain ⟨before, deed, later, console, after, rfl, run, next, displayed⟩ :=
    produced
  refine ⟨before, deed, later ++ more, console, after, ?_, run, next,
    displayed⟩
  rw [List.append_assoc, List.cons_append]

/-- Every block has been shown for a line. -/
theorem Runs.exists_shownFor
    (run : Runs (start table mode session base file) deeds console)
    (member : block ∈ console.transcript.blocks) :
    ∃ line, ShownFor (start table mode session base file) deeds line block := by
  induction run with
  | none => exact absurd member List.not_mem_nil
  | @step deeds deed middle last run next induction =>
      rw [next.transcript] at member
      rcases Transcript.mem_blocks_of_mem_pushAll _ member with added | earlier
      · obtain ⟨line, displayed⟩ := exists_shows run next added
        exact ⟨line, deeds, deed, [], middle, last, rfl, run, next, displayed⟩
      · obtain ⟨line, produced⟩ := induction earlier
        exact ⟨line, produced.append [deed]⟩

/-- A block starts with the echo of the line that it was shown for, and the echo
is the line as it was typed just if the line is one line without tokens. -/
theorem echo_as_typed_iff
    (run : Runs (start table mode session base file) deeds console)
    {above below : Transcript}
    (stands : console.transcript.blocks =
      above.blocks ++ block :: below.blocks) :
    (∃ line, ShownFor (start table mode session base file) deeds line
        block) ∧
      ∀ line, ShownFor (start table mode session base file) deeds line block →
        console.transcript.lines[above.lines.length]? =
            some ⟨"# " ++ Markup.firstLine (Text.trim line),
              block.isError⟩ ∧
          (console.transcript.lines[above.lines.length]? =
              some ⟨"# " ++ Text.trim line, block.isError⟩ ↔
            '\n' ∉ (Text.trim line).toList ∧
              ∀ token ∈ Markup.tokens,
                ¬ token.spelling <:+: (Text.trim line).toList) := by
  have member : block ∈ console.transcript.blocks := by
    rw [stands]
    simp
  refine ⟨run.exists_shownFor member, ?_⟩
  intro line produced
  have echo : console.transcript.lines[above.lines.length]? =
      some ⟨"# " ++ Markup.firstLine (Text.trim line), block.isError⟩ := by
    rw [Transcript.getElem?_lines_of_parts stands, produced.label_eq]
  refine ⟨echo, ?_⟩
  rw [echo, ← Markup.firstLine_eq_self_iff, Option.some.injEq,
    ShownLine.mk.injEq, String.append_right_inj]
  exact and_iff_left rfl

end Labels

/-! ## Lines whose calls were given up -/

/-- A console that knows nothing but its help. -/
def helpConsole : Console :=
  start helpOnly .append ⟨.empty, 0, .empty⟩
    ⟨"http", some .empty, .segments [""], none, none⟩ none

/-- The call of a line has been made and given up. -/
def cancelled (line : String) : Console :=
  (helpConsole.submit line).2.cancelPending.2

theorem shownFor_cancelled (line : String)
    (remote : helpOnly.isRemote line = true)
    (waiting : ⟨1, Text.trim line⟩ ∈
      (helpConsole.submit line).2.pool.inFlight) :
    ∃ deeds, Runs helpConsole deeds (cancelled line) ∧
      ShownFor helpConsole deeds line
        ⟨Text.trim line, "error: request cancelled", true⟩ := by
  have first : Runs helpConsole [.submit line (helpConsole.submit line).1]
      (helpConsole.submit line).2 :=
    (does_submit (Prod.eta _).symm).runs
  have next : Does (helpConsole.submit line).2 (.cancelPending _)
      (cancelled line) :=
    does_cancelPending (Prod.eta _).symm
  have made : MadeFor (helpConsole.submit line).2.table
      [.submit line (helpConsole.submit line).1] 1 line := by
    refine ⟨0, rfl, ?_⟩
    have sameTable : (helpConsole.submit line).2.table = helpOnly :=
      table_submit helpConsole line
    rw [sameTable, remoteLines_submit remote]
    rfl
  exact ⟨_, first.step next, _, _, [], _, _, rfl, first, next,
    .givenUp waiting made⟩

theorem brackets_echoed :
    (cancelled " set <key> a&b ").transcript.lines[0]? =
      some ⟨"# set <key> a&b", true⟩ := by
  obtain ⟨deeds, run, produced⟩ :=
    shownFor_cancelled " set <key> a&b " (by decide +kernel)
      (by decide +kernel)
  have stands : (cancelled " set <key> a&b ").transcript.blocks =
      (Transcript.mk .append []).blocks ++
        ⟨Text.trim " set <key> a&b ", "error: request cancelled", true⟩ ::
          (Transcript.mk .append []).blocks := by decide +kernel
  obtain ⟨_, echoes⟩ := echo_as_typed_iff run stands
  exact (echoes _ produced).2.mpr (by decide +kernel)

/-- What is shown for this line is another line. -/
theorem typed_entity_not_echoed :
    ∃ deeds, Runs helpConsole deeds (cancelled "set k a&lt;b") ∧
      ShownFor helpConsole deeds "set k a&lt;b"
        ⟨"set k a&lt;b", "error: request cancelled", true⟩ ∧
      (cancelled "set k a&lt;b").transcript.blocks =
        [⟨"set k a&lt;b", "error: request cancelled", true⟩] ∧
      (cancelled "set k a&lt;b").transcript.lines.head? =
        some ⟨"# set k a<b", true⟩ ∧
      "# set k a<b" ≠ "# " ++ Text.trim "set k a&lt;b" := by
  have trimmed : Text.trim "set k a&lt;b" = "set k a&lt;b" := by
    decide +kernel
  obtain ⟨deeds, run, produced⟩ :=
    shownFor_cancelled "set k a&lt;b" (by decide +kernel)
      (by decide +kernel)
  rw [trimmed] at produced
  exact ⟨deeds, run, produced, by decide +kernel, by decide +kernel,
    by decide +kernel⟩

end OperatorConsole.Console
