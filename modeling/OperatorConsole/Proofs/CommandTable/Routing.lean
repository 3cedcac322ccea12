import OperatorConsole.CommandTable.Builtin
import OperatorConsole.Proofs.Text.Lowercase
import OperatorConsole.Router

/-!
# Where lines lead

A line leads where its words lead in lowercase, whatever stands around them.
All that an effect has of the line itself is the action that is forwarded and
the words without a help topic.
-/

namespace OperatorConsole

namespace CommandLine

/-- The words after the first one, as they were typed. -/
def argumentsOf (line : String) : List String :=
  (wordsOf (Text.trim line)).tail

theorem exists_wordsOf (text : String) :
    ∃ head arguments, wordsOf text = head :: arguments := by
  refine List.exists_cons_of_ne_nil fun none => ?_
  exact List.splitOn_ne_nil ' ' text.toList (List.map_eq_nil_iff.mp none)

theorem wordsOf_lowercase (text : String) :
    wordsOf (Text.lowercase text) = (wordsOf text).map Text.lowercase := by
  simp [wordsOf, Text.lowercase,
    Text.splitOn_lowercaseChars Text.isBlank_space]

theorem argumentsOf_lowercase (line : String) :
    argumentsOf (Text.lowercase line) =
      (argumentsOf line).map Text.lowercase := by
  rw [argumentsOf, Text.trim_lowercase, wordsOf_lowercase, ← List.map_tail,
    argumentsOf]

theorem ofLine?_of_blank {line : String} (blank : Text.trim line = "") :
    ofLine? line = none := by
  simp [ofLine?, blank]

theorem ofLine?_of_words {line head : String} {arguments : List String}
    (notBlank : Text.trim line ≠ "")
    (words : wordsOf (Text.trim line) = head :: arguments) :
    ofLine? line = some ⟨line, head, arguments⟩ := by
  simp [ofLine?, notBlank, words]

theorem arguments_eq {line : String} {command : CommandLine}
    (parsed : ofLine? line = some command) :
    command.raw = line ∧ command.arguments = argumentsOf line := by
  by_cases blank : Text.trim line = ""
  · rw [ofLine?_of_blank blank] at parsed
    cases parsed
  · obtain ⟨head, arguments, words⟩ := exists_wordsOf (Text.trim line)
    rw [ofLine?_of_words blank words] at parsed
    cases parsed
    exact ⟨rfl, by rw [argumentsOf, words, List.tail_cons]⟩

/-- The three words in lowercase that decide where a line leads. -/
def key? (line : String) : Option (String × Option String × Option String) :=
  (ofLine? line).map fun command =>
    (command.verb, command.subVerb?, command.qualifier?)

theorem key?_of_words {line head : String} {arguments : List String}
    (notBlank : Text.trim line ≠ "")
    (words : (wordsOf (Text.trim line)).map Text.lowercase =
      head :: arguments) :
    key? line = some (head, arguments[0]?, arguments[1]?) := by
  obtain ⟨first, others, split⟩ := exists_wordsOf (Text.trim line)
  rw [split, List.map_cons, List.cons.injEq] at words
  obtain ⟨rfl, rfl⟩ := words
  rw [key?, ofLine?_of_words notBlank split]
  simp [verb, subVerb?, qualifier?]

theorem key?_congr {line other : String}
    (blank : Text.trim line = "" ↔ Text.trim other = "")
    (words : (wordsOf (Text.trim line)).map Text.lowercase =
      (wordsOf (Text.trim other)).map Text.lowercase) :
    key? line = key? other := by
  by_cases nothing : Text.trim line = ""
  · rw [key?, ofLine?_of_blank nothing, key?,
      ofLine?_of_blank (blank.mp nothing)]
  · obtain ⟨head, arguments, split⟩ := exists_wordsOf (Text.trim other)
    rw [split, List.map_cons] at words
    rw [key?_of_words nothing words, key?_of_words (mt blank.mpr nothing)
      (by rw [split, List.map_cons])]

theorem key?_lowercase (line : String) :
    key? (Text.lowercase line) = key? line := by
  refine key?_congr ?_ ?_
  · rw [Text.trim_lowercase, Text.lowercase_eq_empty]
  · rw [Text.trim_lowercase, wordsOf_lowercase, List.map_map]
    exact List.map_congr_left fun word _ => Text.lowercase_lowercase word

theorem key?_around {before after : String}
    (beforeBlank : Text.AllBlank before.toList)
    (afterBlank : Text.AllBlank after.toList) (line : String) :
    key? (before ++ line ++ after) = key? line := by
  have same := Text.trim_around beforeBlank afterBlank line
  exact key?_congr (by rw [same]) (by rw [same])

end CommandLine

/-- What a line asks for, but for its own text. -/
inductive Destination where
  | text (markup : String)
  | page (target : String)
  | named (resource : Remote.Resource)
  | farewell (redirect : String)
  /-- The service, with the line as its action. -/
  | service
  /-- The answer to words without a help topic. -/
  | noHelp
deriving DecidableEq, Repr

def Destination.effect (line : String) : Destination → Effect
  | .text markup => .localRender markup
  | .page target => .navigate target
  | .named resource => .remoteCall (.named resource)
  | .farewell redirect => .clearSession redirect
  | .service => .remoteCall (.act line)
  | .noHelp =>
      .localRender (CommandTable.noHelpText (CommandLine.argumentsOf line))

namespace CommandTable

variable (table : CommandTable)

def helpDestination (sub? qualifier? : Option String) : Destination :=
  match sub? with
  | none => .text table.summary
  | some sub =>
      match table.topic? sub qualifier? with
      | some (.text markup) => .text markup
      | some (.navigate target) => .page target
      | none => .noHelp

/-- Where a route leads, if the verb has one, with the words after the verb. -/
def follow (sub? qualifier? : Option String) :
    Option VerbRoute → Destination
  | some .help => table.helpDestination sub? qualifier?
  | some .localizedHelp => .text table.localized
  | some (.remote .act) => .service
  | some (.remote resource) => .named resource
  | some (.navigate target) => .page target
  | some (.clearSession redirect) => .farewell redirect
  | none => .service

/-- Where a line leads; a blank one leads nowhere. -/
def destination? (line : String) : Option Destination :=
  (CommandLine.key? line).map fun (verb, sub?, qualifier?) =>
    table.follow sub? qualifier? (table.route? verb)

theorem helpEffect_eq_destination {line : String} {command : CommandLine}
    (arguments : command.arguments = CommandLine.argumentsOf line) :
    table.helpEffect command =
      (table.helpDestination command.subVerb? command.qualifier?).effect
        line := by
  unfold helpEffect helpDestination
  rw [arguments]
  cases command.subVerb? with
  | none => rfl
  | some sub =>
      dsimp only
      cases table.topic? sub command.qualifier? with
      | none => rfl
      | some entry => cases entry <;> rfl

theorem lineEffect_eq_destination {line : String} {command : CommandLine}
    (parsed : CommandLine.ofLine? line = some command) :
    table.lineEffect command =
      (table.follow command.subVerb? command.qualifier?
        (table.route? command.verb)).effect line := by
  obtain ⟨raw, arguments⟩ := CommandLine.arguments_eq parsed
  unfold lineEffect
  rw [raw]
  cases table.route? command.verb with
  | none => rfl
  | some route =>
      cases route with
      | help => exact table.helpEffect_eq_destination arguments
      | remote resource => cases resource <;> rfl
      | localizedHelp | navigate | clearSession => rfl

theorem effect?_eq_destination (line : String) :
    table.effect? line = (table.destination? line).map (·.effect line) := by
  rw [effect?, destination?, CommandLine.key?]
  cases parsed : CommandLine.ofLine? line with
  | none => rfl
  | some command =>
      exact congrArg some (table.lineEffect_eq_destination parsed)

/-- Neither letter case nor the blanks around a line have a say in what it asks
for.  The line as it was typed is only in what is forwarded, and its words
are only in the answer that there is no help for them. -/
theorem effect?_up_to_case_and_blanks (line : String) :
    table.effect? line = (table.destination? line).map (·.effect line) ∧
      table.effect? (Text.lowercase line) =
        (table.destination? line).map (·.effect (Text.lowercase line)) ∧
      CommandLine.argumentsOf (Text.lowercase line) =
        (CommandLine.argumentsOf line).map Text.lowercase ∧
      ∀ before after : String,
        Text.AllBlank before.toList → Text.AllBlank after.toList →
          table.effect? (before ++ line ++ after) =
              (table.destination? line).map
                (·.effect (before ++ line ++ after)) ∧
            CommandLine.argumentsOf (before ++ line ++ after) =
              CommandLine.argumentsOf line := by
  refine ⟨table.effect?_eq_destination line, ?_,
    CommandLine.argumentsOf_lowercase line, ?_⟩
  · rw [effect?_eq_destination, destination?, CommandLine.key?_lowercase,
      destination?]
  · intro before after beforeBlank afterBlank
    constructor
    · rw [effect?_eq_destination, destination?,
        CommandLine.key?_around beforeBlank afterBlank, destination?]
    · rw [CommandLine.argumentsOf, Text.trim_around beforeBlank afterBlank,
        CommandLine.argumentsOf]

/-- The final sigma of a word that the built-in table has no help for. -/
theorem no_help_for_street :
    builtin.destination? "HELP ΟΔΟΣ" = some .noHelp ∧
      Text.AllBlank "\u3000".toList ∧ Text.AllBlank "\t\u00a0".toList ∧
      Text.lowercase "HELP ΟΔΟΣ" = "help οδος" ∧
      builtin.effect? "help οδος" =
        some (.localRender (noHelpText ["οδος"])) ∧
      builtin.effect? "\u3000HELP ΟΔΟΣ\t\u00a0" =
        some (.localRender (noHelpText ["ΟΔΟΣ"])) := by
  have leads : builtin.destination? "HELP ΟΔΟΣ" = some .noHelp := by
    decide +kernel
  have words : CommandLine.argumentsOf "HELP ΟΔΟΣ" = ["ΟΔΟΣ"] := by
    decide +kernel
  have lowercased : Text.lowercase "HELP ΟΔΟΣ" = "help οδος" := by
    decide +kernel
  have front : Text.AllBlank "\u3000".toList :=
    List.all_eq_true.mp (by decide)
  have back : Text.AllBlank "\t\u00a0".toList :=
    List.all_eq_true.mp (by decide)
  obtain ⟨_, lower, lowerWords, around⟩ :=
    effect?_up_to_case_and_blanks builtin "HELP ΟΔΟΣ"
  obtain ⟨same, sameWords⟩ := around _ _ front back
  refine ⟨leads, front, back, lowercased, ?_, ?_⟩
  · rw [lowercased, leads, Option.map_some, Destination.effect] at lower
    rw [lower, ← lowercased, lowerWords, words]
    decide +kernel
  · rw [leads, Option.map_some, Destination.effect, sameWords, words] at same
    exact same

end CommandTable

end OperatorConsole
