import OperatorConsole.Proofs.CommandTable.Routing
import OperatorConsole.Proofs.Text.Split

/-!
# The words of a line

Splitting at single spaces loses nothing, so the words of a line can be joined
to the trimmed line again.  A line that is not blank has a first and a last
word, and these are not empty, because no blank is left at the ends of the line.
-/

namespace OperatorConsole.CommandLine

variable {text : String}

theorem intercalate_wordsOf (text : String) :
    String.intercalate " " (wordsOf text) = text := by
  rw [← String.toList_inj, String.toList_intercalate, wordsOf, List.map_map]
  simp only [Function.comp_def, String.toList_ofList, List.map_id']
  exact List.intercalate_splitOn ' '

theorem not_mem_of_mem_wordsOf :
    ∀ word ∈ wordsOf text, ' ' ∉ word.toList := by
  intro word member
  obtain ⟨piece, inside, rfl⟩ := List.mem_map.mp member
  rw [String.toList_ofList]
  exact Text.not_mem_of_mem_splitOn piece inside

theorem length_wordsOf (text : String) :
    (wordsOf text).length = text.toList.count ' ' + 1 := by
  rw [wordsOf, List.length_map, Text.length_splitOn]

section Trimmed

variable (trimmed : Text.IsTrimmed text.toList) (notEmpty : text ≠ "")

include trimmed notEmpty

theorem head?_wordsOf_ne : (wordsOf text).head? ≠ some "" := by
  intro none
  rw [wordsOf, List.head?_map, Text.head?_splitOn, Option.map_some,
    Option.some.injEq] at none
  cases characters : text.toList with
  | nil => exact notEmpty (String.toList_eq_nil_iff.mp characters)
  | cons c cs =>
      have visible := trimmed.front c (by rw [characters, List.head?_cons])
      have notSpace : c ≠ ' ' := by
        rintro rfl
        rw [Text.isBlank_space] at visible
        cases visible
      simp [characters, notSpace] at none

theorem getLast?_wordsOf_ne : (wordsOf text).getLast? ≠ some "" := by
  intro none
  rw [wordsOf, List.getLast?_map, Option.map_eq_some_iff] at none
  obtain ⟨piece, last, empty⟩ := none
  have nothing : piece = [] := String.ofList_eq_empty_iff.mp empty
  subst nothing
  have joined : [' '].intercalate (text.toList.splitOn ' ') = text.toList :=
    List.intercalate_splitOn ' '
  rcases Text.intercalate_of_last_empty last with whole | separated
  · rw [joined] at whole
    exact notEmpty (String.toList_eq_nil_iff.mp whole)
  · rw [joined] at separated
    have visible := trimmed.back ' ' separated
    rw [Text.isBlank_space] at visible
    cases visible

end Trimmed

theorem ofLine?_eq_none_iff {line : String} :
    ofLine? line = none ↔ Text.AllBlank line.toList := by
  rw [← Text.trimChars_eq_nil_iff, ← Text.toList_trim,
    String.toList_eq_nil_iff]
  constructor
  · intro parsed
    by_contra notBlank
    obtain ⟨head, arguments, split⟩ := exists_wordsOf (Text.trim line)
    rw [ofLine?_of_words notBlank split] at parsed
    cases parsed
  · exact ofLine?_of_blank

theorem words_eq {line : String} {command : CommandLine}
    (parsed : ofLine? line = some command) :
    Text.trim line ≠ "" ∧ command.raw = line ∧
      wordsOf (Text.trim line) = command.head :: command.arguments := by
  have notBlank : Text.trim line ≠ "" := by
    intro blank
    rw [ofLine?_of_blank blank] at parsed
    cases parsed
  obtain ⟨head, arguments, split⟩ := exists_wordsOf (Text.trim line)
  rw [ofLine?_of_words notBlank split] at parsed
  cases parsed
  exact ⟨notBlank, rfl, split⟩

/-- What is joined behind the first word and a space. -/
theorem trim_eq_of_arguments {line : String} {command : CommandLine}
    (parsed : ofLine? line = some command) (more : command.arguments ≠ []) :
    Text.trim line =
      command.head ++ " " ++ String.intercalate " " command.arguments := by
  obtain ⟨_, _, words⟩ := words_eq parsed
  rw [← String.intercalate_cons_of_ne_nil more, ← words,
    intercalate_wordsOf]

theorem arguments_ne_nil_of_subVerb? {command : CommandLine} {sub : String}
    (asked : command.subVerb? = some sub) : command.arguments ≠ [] := by
  intro none
  rw [subVerb?, none] at asked
  cases asked

theorem effect?_of_no_help {line sub : String} {command : CommandLine}
    {table : CommandTable} (parsed : ofLine? line = some command)
    (help : table.route? command.verb = some .help)
    (asked : command.subVerb? = some sub)
    (unknown : table.topic? sub command.qualifier? = none) :
    table.effect? line =
      some (.localRender (CommandTable.noHelpText command.arguments)) := by
  rw [CommandTable.effect?, parsed, Option.map_some, CommandTable.lineEffect,
    help]
  dsimp only
  rw [CommandTable.helpEffect, asked]
  dsimp only
  rw [unknown]

/-- A line is blank or has words, which are what single spaces divide the
trimmed line into.  They make up the trimmed line again, the first and the last
of them are not empty, and an answer that there is no help quotes all that
stands behind the first of them and its space. -/
theorem words_of_line (line : String) :
    (ofLine? line = none ↔ Text.AllBlank line.toList) ∧
      ∀ command, ofLine? line = some command →
        command.raw = line ∧
        String.intercalate " " command.words = Text.trim line ∧
        (∀ word ∈ command.words, ' ' ∉ word.toList) ∧
        command.words.head? ≠ some "" ∧ command.words.getLast? ≠ some "" ∧
        command.words.length = (Text.trim line).toList.count ' ' + 1 ∧
        (∃ first others, wordsOf (Text.trim line) = first :: others ∧
          command.verb = Text.lowercase first ∧ command.arguments = others) ∧
        ∀ (table : CommandTable) (sub : String),
          table.route? command.verb = some .help →
          command.subVerb? = some sub →
          table.topic? sub command.qualifier? = none →
            ∃ topic, Text.trim line = command.head ++ " " ++ topic ∧
              table.effect? line = some (.localRender
                ("no help available for \"" ++ topic ++
                  "\", type help for the list of commands")) := by
  refine ⟨ofLine?_eq_none_iff, ?_⟩
  intro command parsed
  obtain ⟨notBlank, raw, words⟩ := words_eq parsed
  have trimmed : Text.IsTrimmed (Text.trim line).toList := by
    rw [Text.toList_trim]
    exact Text.isTrimmed_trimChars line.toList
  rw [CommandLine.words, ← words]
  refine ⟨raw, intercalate_wordsOf _, not_mem_of_mem_wordsOf,
    head?_wordsOf_ne trimmed notBlank, getLast?_wordsOf_ne trimmed notBlank,
    length_wordsOf _, ⟨command.head, command.arguments, words, rfl, rfl⟩,
    ?_⟩
  intro table sub help asked unknown
  refine ⟨String.intercalate " " command.arguments,
    trim_eq_of_arguments parsed (arguments_ne_nil_of_subVerb? asked), ?_⟩
  exact effect?_of_no_help parsed help asked unknown

/-- A request for help with blanks of several kinds in it. -/
theorem blanks_quoted_with_topic :
    ofLine? " HELP  \tNo such\u3000" =
        some ⟨" HELP  \tNo such\u3000", "HELP", ["", "\tNo", "such"]⟩ ∧
      Text.trim " HELP  \tNo such\u3000" = "HELP  \tNo such" ∧
      CommandTable.builtin.effect? " HELP  \tNo such\u3000" =
        some (.localRender ("no help available for \"" ++ " \tNo such" ++
          "\", type help for the list of commands")) := by
  have parsed : ofLine? " HELP  \tNo such\u3000" =
      some ⟨" HELP  \tNo such\u3000", "HELP", ["", "\tNo", "such"]⟩ := by
    decide +kernel
  obtain ⟨_, joined, _, _, _, _, _, quoted⟩ :=
    (words_of_line " HELP  \tNo such\u3000").2 _ parsed
  obtain ⟨topic, split, effect⟩ := quoted CommandTable.builtin ""
    (by decide +kernel) (by decide +kernel) (by decide +kernel)
  have trimmed : Text.trim " HELP  \tNo such\u3000" = "HELP  \tNo such" :=
    joined.symm
  have same : topic = " \tNo such" := by
    rw [trimmed] at split
    have behind : "HELP " ++ " \tNo such" = "HELP " ++ topic := split
    exact (String.append_right_inj _).mp behind.symm
  exact ⟨parsed, trimmed, same ▸ effect⟩

end OperatorConsole.CommandLine
