import OperatorConsole.Proofs.CommandTable.Accepted
import OperatorConsole.Proofs.CommandTable.Routing

/-!
# Verbs as lines

A verb of an accepted table is in lowercase and without a space, so it is a
line of one word.  But a line is trimmed first, of other blanks than spaces too,
and a verb may begin or end with them.
-/

namespace OperatorConsole.CommandTable

/-- What a line that is a verb with this route asks for. -/
def routeEffect (table : CommandTable) (line : String) : VerbRoute → Effect
  | .help => .localRender table.summary
  | .localizedHelp => .localRender table.localized
  | .remote .act => .remoteCall (.act line)
  | .remote resource => .remoteCall (.named resource)
  | .navigate target => .navigate target
  | .clearSession redirect => .clearSession redirect

theorem isVerbName_of_sound {verb : Verb} (sound : Verb.flaw? verb = none) :
    isVerbName verb.name = true := by
  unfold Verb.flaw? at sound
  split at sound
  · cases sound
  · next named => simpa using named

theorem isVerbName_iff {name : String} :
    isVerbName name = true ↔
      name ≠ "" ∧ ' ' ∉ name.toList ∧ Text.lowercase name = name := by
  rw [isVerbName, Bool.and_eq_true, Bool.and_eq_true, beq_iff_eq, and_assoc,
    eq_comm (b := Text.lowercase name)]
  simp

section Alone

variable {table : CommandTable} {name : String}

/-- A line without a space is one word. -/
theorem key?_of_isVerbName (named : isVerbName name = true)
    (notBlank : Text.trim name ≠ "") :
    CommandLine.key? name = some (Text.trim name, none, none) := by
  obtain ⟨_, noSpace, lower⟩ := isVerbName_iff.mp named
  have inside : ' ' ∉ (Text.trim name).toList := by
    rw [Text.toList_trim]
    exact fun member => noSpace (Text.mem_of_mem_trimChars member)
  have words : (CommandLine.wordsOf (Text.trim name)).map Text.lowercase =
      [Text.trim name] := by
    rw [CommandLine.wordsOf, List.splitOn_eq_singleton inside,
      List.map_singleton, String.ofList_toList, List.map_singleton,
      ← Text.trim_lowercase, lower]
  exact CommandLine.key?_of_words notBlank words

theorem effect?_of_isVerbName (named : isVerbName name = true)
    (notBlank : Text.trim name ≠ "") :
    table.effect? name =
      some ((table.follow none none
        (table.route? (Text.trim name))).effect name) := by
  rw [effect?_eq_destination, destination?,
    key?_of_isVerbName named notBlank]
  rfl

theorem effect_follow (line : String) (route : VerbRoute) :
    (table.follow none none (some route)).effect line =
      table.routeEffect line route := by
  cases route with
  | remote resource => cases resource <;> rfl
  | help | localizedHelp | navigate | clearSession => rfl

end Alone

/-- A verb of an accepted table that has no blanks at its ends is a line that
takes the verb's own route.  Any other verb is taken as a line for what is left
of it without these blanks: for nothing, for another verb, or for something that
the table does not know. -/
theorem effect?_of_verb_alone {text : String} {table : CommandTable}
    (accepted : ofText text = .ok table) {verb : Verb}
    (member : verb ∈ table.verbs.toList) :
    (Text.trim verb.name = verb.name →
        table.effect? verb.name =
          some (table.routeEffect verb.name verb.route)) ∧
      (Text.trim verb.name = "" → table.effect? verb.name = none) ∧
      (∀ other ∈ table.verbs.toList, other.name = Text.trim verb.name →
        table.effect? verb.name =
          some (table.routeEffect verb.name other.route)) ∧
      (Text.trim verb.name ≠ "" →
        (∀ other ∈ table.verbs.toList, other.name ≠ Text.trim verb.name) →
        table.effect? verb.name = some (.remoteCall (.act verb.name))) := by
  obtain ⟨_, verbs, _⟩ := sound_parts (flaw?_of_ofText accepted)
  have named (other : Verb) (known : other ∈ table.verbs.toList) :
      isVerbName other.name = true := isVerbName_of_sound (verbs other known)
  have alike (other : Verb) (known : other ∈ table.verbs.toList)
      (same : other.name = Text.trim verb.name) :
      table.effect? verb.name =
        some (table.routeEffect verb.name other.route) := by
    have notBlank : Text.trim verb.name ≠ "" :=
      same ▸ (isVerbName_iff.mp (named other known)).1
    rw [effect?_of_isVerbName (named verb member) notBlank, ← same,
      route?_eq_some_iff.mpr known, effect_follow]
  refine ⟨fun whole => alike verb member whole.symm, fun blank => ?_, alike,
    fun notBlank unknown => ?_⟩
  · rw [effect?, CommandLine.ofLine?_of_blank blank, Option.map_none]
  · rw [effect?_of_isVerbName (named verb member) notBlank,
      route?_eq_none_iff.mpr unknown]
    rfl

/-! ## Tables with one verb -/

/-- The text of a table whose only verb asks for the list of servers. -/
def serversTableText (name : String) : String :=
  oneVerbText name "\"kind\":\"remote\",\"resource\":\"servers\""

def serversTable (name : String) : CommandTable :=
  oneVerb name (.remote .servers)

theorem servers_listed_for_stats :
    ofText (serversTableText "stats") = .ok (serversTable "stats") ∧
      ⟨"stats", .remote .servers⟩ ∈ (serversTable "stats").verbs.toList ∧
      (serversTable "stats").effect? "stats" =
        some (.remoteCall (.named .servers)) := by
  have accepted : ofText (serversTableText "stats") =
      .ok (serversTable "stats") := rfl
  have member : ⟨"stats", .remote .servers⟩ ∈
      (serversTable "stats").verbs.toList := List.mem_singleton_self _
  obtain ⟨own, _⟩ := effect?_of_verb_alone accepted member
  exact ⟨accepted, member, own (by decide)⟩

/-- The check of a table looks for spaces only.  A verb with another blank at
its end is accepted and goes to the service, and one that is such a blank is no
line at all. -/
theorem blank_ended_verb_forwarded :
    ofText (serversTableText "stats\u00a0") =
        .ok (serversTable "stats\u00a0") ∧
      (serversTable "stats\u00a0").effect? "stats\u00a0" =
        some (.remoteCall (.act "stats\u00a0")) ∧
      ofText (serversTableText "\u00a0") = .ok (serversTable "\u00a0") ∧
      (serversTable "\u00a0").effect? "\u00a0" = none ∧
      ¬ ∀ text table verb, ofText text = .ok table →
        verb ∈ table.verbs.toList →
        table.effect? verb.name =
          some (table.routeEffect verb.name verb.route) := by
  have accepted : ofText (serversTableText "stats\u00a0") =
      .ok (serversTable "stats\u00a0") := rfl
  have forwarded : (serversTable "stats\u00a0").effect? "stats\u00a0" =
      some (.remoteCall (.act "stats\u00a0")) := by decide
  refine ⟨accepted, forwarded, rfl, by decide, ?_⟩
  intro all
  have own := all _ _ _ accepted (List.mem_singleton_self _)
  rw [forwarded] at own
  cases own

end OperatorConsole.CommandTable
