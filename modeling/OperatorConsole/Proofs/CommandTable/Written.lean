import OperatorConsole.Proofs.CommandTable.Accepted
import OperatorConsole.Proofs.Json.Reader
import OperatorConsole.Proofs.OrderedBy

/-!
# Command tables read back

The text that is written for a table is read as that table.  The rules follow
the format from the inside out: kinds, routes, entries, topics and then the
table itself.  A route is read in two steps, first its members as they stand and
then what they mean, so its content goes through values of any type.
-/

namespace OperatorConsole.CommandTable

open Json

/-! ## Kinds -/

section Kinds

variable {known : List String} {kind : String}

theorem reads_kindName (levels : Nat) (isKnown : kind ∈ known) :
    Reads (kindName known) levels (stringText kind) kind where
  begins := (reads_string levels kind).begins
  result := by
    intro depth rest enough stops
    have read := (reads_string levels kind).result depth rest enough stops
    refine bind_eq_ok.mpr ⟨_, read, ?_⟩
    exact if_pos (List.contains_iff_mem.mpr isKnown)

theorem reads_kindNameOrMap (levels : Nat) (isKnown : kind ∈ known) :
    Reads (kindNameOrMap known) levels (stringText kind) kind where
  begins := (reads_kindName levels isKnown).begins
  result := by
    intro depth rest enough stops
    have read := (reads_kindName levels isKnown).result depth rest enough stops
    rw [stringText, List.cons_append, List.cons_append] at read ⊢
    rw [kindNameOrMap, skipBlanks_cons (by decide)]
    exact read

end Kinds

/-! ## Routes -/

/-- A name and a string that may stand beside the kind of a route. -/
def stringMember (content : String × String) : String × Value :=
  (content.1, .string content.2)

theorem fills_routeOthers (levels : Nat) (kind : Option String)
    (others : List (String × String)) :
    ∀ seen : List (String × Value),
      (∀ other ∈ others, other.1 ≠ "kind") →
      Fills RouteMembers.plan levels ⟨kind, seen⟩ (others.map stringMember)
        ⟨kind, (others.map stringMember).reverse ++ seen⟩ := by
  induction others with
  | nil => exact fun seen _ => .none _
  | cons other others induction =>
      intro seen named
      have planned : RouteMembers.plan ⟨kind, seen⟩ other.1 =
          .read (value.into fun value => ⟨kind, (other.1, value) :: seen⟩) :=
        if_neg (named other List.mem_cons_self)
      have later := induction (stringMember other :: seen)
        fun another member => named another (List.mem_cons_of_mem _ member)
      rw [List.map_cons, List.reverse_cons, List.append_assoc]
      exact .stored ⟨kind, stringMember other :: seen⟩ planned
        (reads_stringValue levels other.2) rfl later

/-- The members of a route are read as its kind and the others. -/
theorem reads_routeContent (levels : Nat) {kind : String}
    (isKnown : kind ∈ routeKinds) {others : List (String × String)}
    (named : ∀ other ∈ others, other.1 ≠ "kind") :
    Reads (container "internally tagged enum VerbRoute" (some routeItems)
        (some routeMembers)) (levels + 1)
      (Value.object (kindMember kind :: others.map stringMember)).compact
      (kind, .members (others.map stringMember)) := by
  have fills : Fills RouteMembers.plan levels ⟨none, []⟩
      (kindMember kind :: others.map stringMember)
      ⟨some kind, (others.map stringMember).reverse ++ []⟩ :=
    .stored ⟨some kind, []⟩ rfl (reads_kindName levels isKnown) rfl
      (fills_routeOthers levels (some kind) others [] named)
  refine reads_inObject _ _ ?_
  intro depth rest enough
  refine bind_eq_ok.mpr ⟨_, members_written enough rest fills, ?_⟩
  rw [List.append_nil]
  refine bind_eq_ok.mpr ⟨kind, rfl, ?_⟩
  rw [List.reverse_reverse]
  rfl

theorem reads_routeJson (levels : Nat) (route : VerbRoute) :
    Reads routeReader (levels + 1) (routeJson route).compact route := by
  obtain ⟨kind, others, written, isKnown, named, means⟩ :
      ∃ (kind : String) (others : List (String × String)),
        routeJson route =
          .object (kindMember kind :: others.map stringMember) ∧
        kind ∈ routeKinds ∧ (∀ other ∈ others, other.1 ≠ "kind") ∧
        routeOf kind (.members (others.map stringMember)) = .ok route := by
    cases route with
    | help => exact ⟨"help", [], rfl, by decide, by decide, rfl⟩
    | localizedHelp =>
        exact ⟨"localized_help", [], rfl, by decide, by decide, rfl⟩
    | remote resource =>
        refine ⟨"remote", [("resource", resource.name)], rfl, by decide,
          by simp, ?_⟩
        cases resource <;> rfl
    | navigate target =>
        exact ⟨"navigate", [("target", target)], rfl, by decide, by simp, rfl⟩
    | clearSession redirect =>
        exact ⟨"clear_session", [("redirect", redirect)], rfl, by decide,
          by simp, rfl⟩
  have read := reads_routeContent levels isKnown named
  rw [written]
  refine ⟨read.begins, fun depth rest enough stops => ?_⟩
  refine bind_eq_ok.mpr ⟨_, read.result depth rest enough stops, ?_⟩
  dsimp only
  rw [means]

/-! ## Help entries and topics -/

theorem fills_entry (levels : Nat) {kind : String} (isKnown : kind ∈ entryKinds)
    (content : String) :
    Fills EntryMembers.plan levels .nothing
      [kindMember kind, ("value", .string content)]
      (.complete (entryOf kind content)) := by
  refine .stored (.kind kind) rfl (reads_kindNameOrMap levels isKnown) rfl ?_
  exact .stored _ rfl (reads_string levels content) rfl (.none _)

theorem reads_entryJson (levels : Nat) (entry : HelpEntry) :
    Reads entryReader (levels + 1) (entryJson entry).compact entry := by
  obtain ⟨kind, content, written, isKnown, means⟩ : ∃ kind content,
      entryJson entry = .object [kindMember kind, ("value", .string content)] ∧
        kind ∈ entryKinds ∧ entryOf kind content = entry := by
    cases entry with
    | text markup => exact ⟨"text", markup, rfl, by decide, rfl⟩
    | navigate target => exact ⟨"navigate", target, rfl, by decide, rfl⟩
  rw [written, ← means]
  refine reads_inObject _ _ ?_
  intro depth rest enough
  have read := members_written enough rest (fills_entry levels isKnown content)
  exact bind_eq_ok.mpr ⟨_, read, rfl⟩

/-- A qualifier cannot be taken for one that is missing. -/
theorem reads_qualifier (levels : Nat) (word : String) :
    Reads (optional string) levels (stringText word) (some word) := by
  refine (reads_string levels word).present ?_
  rw [stringText, List.cons_append, List.head?_cons]
  decide

theorem fills_topic (levels : Nat) (topic : HelpTopic) :
    Fills TopicMembers.plan (levels + 1) {}
      (("sub", .string topic.sub) ::
        (topic.qualifier.toList.map fun word => ("qualifier", .string word)) ++
          [("entry", entryJson topic.entry)])
      ⟨some topic.sub, topic.qualifier.map some, some topic.entry⟩ := by
  refine .stored ⟨some topic.sub, none, none⟩ rfl (reads_string _ _) rfl ?_
  have entry (qualifier : Option (Option String)) :
      Fills TopicMembers.plan (levels + 1) ⟨some topic.sub, qualifier, none⟩
        [("entry", entryJson topic.entry)]
        ⟨some topic.sub, qualifier, some topic.entry⟩ :=
    .stored _ rfl (reads_entryJson levels topic.entry) rfl (.none _)
  cases topic.qualifier with
  | none => exact entry none
  | some word =>
      exact .stored ⟨some topic.sub, some (some word), none⟩ rfl
        (reads_qualifier _ word) rfl (entry (some (some word)))

theorem reads_topicJson (levels : Nat) (topic : HelpTopic) :
    Reads topicReader (levels + 2) (topicJson topic).compact topic := by
  refine reads_inObject _ _ ?_
  intro depth rest enough
  refine bind_eq_ok.mpr
    ⟨_, members_written enough rest (fills_topic levels topic), ?_⟩
  have qualifier : (topic.qualifier.map some).join = topic.qualifier := by
    cases topic.qualifier <;> rfl
  refine bind_eq_ok.mpr ⟨topic.sub, rfl, bind_eq_ok.mpr ⟨topic.entry, rfl, ?_⟩⟩
  rw [qualifier]
  rfl

/-! ## Tables -/

theorem reads_version (levels : Nat) {version : Nat}
    (small : version ≤ 4294967295) :
    Reads versionReader levels
      (Value.number (.whole version)).compact version := by
  have bound : significandBound = 18446744073709551615 := by decide
  have read : Reads (whole 0 4294967295 "u32") levels
      (Value.number (.whole version)).compact (version : Int) :=
    reads_whole "u32" levels (by omega) (by omega)
  exact read.into Int.toNat

/-- The verbs come in the order of their names, so none takes the place of
another one. -/
theorem reads_verbs (levels : Nat) (verbs : OrderedBy Verb.name) :
    Reads verbsReader (levels + 2)
      (Value.object (verbs.toList.map fun verb =>
        (verb.name, routeJson verb.route))).compact verbs := by
  let entries := verbs.toList.map fun verb => (verb.name, verb.route)
  have read : Reads (mapOf routeReader) (levels + 2)
      (Value.object (entries.map fun entry =>
        (entry.1, routeJson entry.2))).compact entries :=
    reads_map fun entry _ => reads_routeJson levels entry.2
  have again : OrderedBy.empty.putAll
      (entries.map fun entry => (⟨entry.1, entry.2⟩ : Verb)) = verbs := by
    have same : (entries.map fun entry => (⟨entry.1, entry.2⟩ : Verb)) =
        verbs.toList := by
      simp [entries, Function.comp_def]
    rw [same]
    refine OrderedBy.eq_of_toList_eq ?_
    exact OrderedBy.toList_putAll verbs.toList .empty verbs.ordered
  have text : (entries.map fun entry => (entry.1, routeJson entry.2)) =
      verbs.toList.map fun verb => (verb.name, routeJson verb.route) := by
    simp [entries]
  rw [text] at read
  have stored := read.into fun entries =>
    (OrderedBy.empty : OrderedBy Verb.name).putAll
      (entries.map fun entry => ⟨entry.1, entry.2⟩)
  rwa [again] at stored

theorem fills_table {table : CommandTable}
    (small : table.version ≤ 4294967295) :
    Fills TableMembers.plan 3 {}
      [("version", .number (.whole table.version)),
        ("summary", .string table.summary),
        ("localized", .string table.localized),
        ("verbs", .object (table.verbs.toList.map fun verb =>
          (verb.name, routeJson verb.route))),
        ("topics", .array (table.topics.map topicJson))]
      ⟨some table.version, some table.summary, some table.localized,
        some table.verbs, some table.topics⟩ := by
  refine .stored ⟨some table.version, none, none, none, none⟩ rfl
    (reads_version 3 small) rfl ?_
  refine .stored ⟨some table.version, some table.summary, none, none, none⟩
    rfl (reads_string 3 _) rfl ?_
  refine .stored ⟨some table.version, some table.summary,
    some table.localized, none, none⟩ rfl (reads_string 3 _) rfl ?_
  refine .stored ⟨some table.version, some table.summary,
    some table.localized, some table.verbs, none⟩ rfl
    (reads_verbs 1 table.verbs) rfl ?_
  have topics : Reads (listOf topicReader) 3
      (Value.array (table.topics.map topicJson)).compact table.topics :=
    reads_list fun topic _ => reads_topicJson 0 topic
  exact .stored _ rfl topics rfl (.none _)

theorem reads_toJson {table : CommandTable}
    (small : table.version ≤ 4294967295) :
    Reads tableReader 4 table.toJson.compact table := by
  refine reads_inObject _ _ ?_
  intro depth rest enough
  exact bind_eq_ok.mpr ⟨_, members_written enough rest (fills_table small), rfl⟩

/-- Reading what was written gives the table or its flaw, so the check of a
table does not depend on how the table is written. -/
theorem ofText_toText {table : CommandTable}
    (small : table.version ≤ 4294967295) :
    ofText table.toText =
      match table.flaw? with
      | some flaw => .error (.flawed flaw)
      | none => .ok table := by
  have read := readText_written (reads_toJson small) (by decide)
  cases flaw : table.flaw? with
  | none => simp only [ofText, toText, read, flaw]
  | some fault => simp only [ofText, toText, read, flaw]

/-- A table without a flaw survives its text, and no other one has that text. -/
theorem table_survives_text {table : CommandTable}
    (accepted : table.flaw? = none) :
    ofText table.toText = .ok table ∧
      ∀ other : CommandTable, other.flaw? = none →
        other.toText = table.toText → other = table := by
  have survives : ∀ table : CommandTable, table.flaw? = none →
      ofText table.toText = .ok table := by
    intro table accepted
    obtain ⟨version, _⟩ := sound_parts accepted
    rw [ofText_toText (by rw [version]; decide), accepted]
  refine ⟨survives table accepted, ?_⟩
  intro other otherAccepted same
  have read := survives other otherAccepted
  rw [same, survives table accepted] at read
  exact (Except.ok.inj read).symm

/-- A table with a route of each kind, topics with and without a qualifier and
texts that have to be escaped. -/
def escapedTable : CommandTable where
  version := supportedVersion
  summary := "line\n\"quoted\" \\ \x01 😀"
  localized := "текст\u2028"
  verbs := ⟨[⟨"doc", .navigate "/doc/\"\t\""⟩, ⟨"exit", .clearSession "/exit"⟩,
    ⟨"help", .help⟩, ⟨"servers", .remote .servers⟩,
    ⟨"помощь", .localizedHelp⟩], by decide +kernel⟩
  topics := [⟨"new", some "user", .navigate "/doc/acl.html#new-user"⟩,
    ⟨"new", none, .text "<br>\x7f"⟩, ⟨"", some "", .text ""⟩]

theorem escapedTable_survives :
    escapedTable.flaw? = none ∧
      ofText escapedTable.toText = .ok escapedTable ∧
      ∀ other : CommandTable, other.flaw? = none →
        other.toText = escapedTable.toText → other = escapedTable := by
  have accepted : escapedTable.flaw? = none := by decide +kernel
  exact ⟨accepted, table_survives_text accepted⟩

end OperatorConsole.CommandTable
