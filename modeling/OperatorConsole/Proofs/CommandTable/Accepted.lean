import OperatorConsole.CommandTable.Format
import OperatorConsole.Proofs.Json.Grammar
import OperatorConsole.Proofs.OrderedBy
import OperatorConsole.Router

/-!
# Accepted tables

A table that was read has no flaw, and so no verb and no topic of it has one.
Whatever a line leaves the console for is therefore a text with a slash at its
front.
-/

namespace OperatorConsole

/-- What the console is left for by an effect, if it is. -/
def Effect.target? : Effect → Option String
  | .navigate target | .clearSession target => some target
  | .localRender _ | .remoteCall _ => none

namespace CommandTable

/-- What a line leaves the console for, if it does. -/
def target? (table : CommandTable) (line : String) : Option String :=
  (table.effect? line).bind Effect.target?

theorem route?_eq_some_iff {table : CommandTable} {verb : Verb} :
    table.route? verb.name = some verb.route ↔
      verb ∈ table.verbs.toList := by
  rw [route?, Option.map_eq_some_iff]
  constructor
  · rintro ⟨found, finds, sameRoute⟩
    rw [OrderedBy.find?_eq] at finds
    have chosen := List.find?_some finds
    have sameName : found.name = verb.name := of_decide_eq_true chosen
    have same : found = verb := by
      cases found
      cases verb
      cases sameName
      cases sameRoute
      rfl
    exact same ▸ List.mem_of_find?_eq_some finds
  · exact fun member => ⟨verb, OrderedBy.mem_iff_find?.mp member, rfl⟩

theorem route?_eq_none_iff {table : CommandTable} {name : String} :
    table.route? name = none ↔
      ∀ verb ∈ table.verbs.toList, verb.name ≠ name := by
  rw [route?, OrderedBy.find?_eq, Option.map_eq_none_iff,
    List.find?_eq_none]
  simp only [decide_eq_true_eq, ne_eq]

theorem isAbsolute_iff {target : String} :
    isAbsolute target = true ↔ ∃ rest, target.toList = '/' :: rest := by
  rw [isAbsolute, beq_iff_eq, List.head?_eq_some_iff]

theorem flaw?_of_ofText {text : String} {table : CommandTable}
    (accepted : ofText text = .ok table) : table.flaw? = none := by
  unfold ofText at accepted
  split at accepted
  · cases accepted
  · split at accepted
    · cases accepted
    · next sound =>
        cases accepted
        exact sound

theorem isAbsolute_of_verb {verb : Verb} {target : String}
    (sound : Verb.flaw? verb = none)
    (leads : verb.route.target? = some target) :
    isAbsolute target = true := by
  unfold Verb.flaw? at sound
  split at sound
  · cases sound
  · split at sound
    · next absolute => simpa [leads] using absolute
    · cases sound

theorem isAbsolute_of_topic {topic : HelpTopic} {target : String}
    (sound : HelpTopic.flaw? topic = none)
    (leads : topic.entry = .navigate target) :
    isAbsolute target = true := by
  rw [HelpTopic.flaw?, leads] at sound
  dsimp only at sound
  split at sound
  · next absolute => exact absolute
  · cases sound

section Sound

variable {table : CommandTable} (sound : table.flaw? = none)

include sound

theorem sound_parts :
    table.version = supportedVersion ∧
      (∀ verb ∈ table.verbs.toList, Verb.flaw? verb = none) ∧
      ∀ topic ∈ table.topics, HelpTopic.flaw? topic = none := by
  unfold flaw? at sound
  split at sound
  · cases sound
  · next version =>
      rw [Option.or_eq_none_iff, List.findSome?_eq_none_iff,
        List.findSome?_eq_none_iff] at sound
      exact ⟨Decidable.not_not.mp version, sound⟩

theorem isAbsolute_of_route? {name target : String} {route : VerbRoute}
    (routed : table.route? name = some route)
    (leads : route.target? = some target) : isAbsolute target = true := by
  obtain ⟨_, verbs, _⟩ := sound_parts sound
  have known : ⟨name, route⟩ ∈ table.verbs.toList :=
    route?_eq_some_iff.mp routed
  exact isAbsolute_of_verb (verbs _ known) leads

theorem isAbsolute_of_topic? {sub target : String} {qualifier : Option String}
    (found : table.topic? sub qualifier = some (.navigate target)) :
    isAbsolute target = true := by
  obtain ⟨topic, either, leads⟩ := Option.map_eq_some_iff.mp found
  obtain ⟨_, _, topics⟩ := sound_parts sound
  refine isAbsolute_of_topic (topics topic ?_) leads
  rcases Option.or_eq_some_iff.mp either with qualified | ⟨_, unqualified⟩
  · cases qualifier with
    | none => cases qualified
    | some word => exact List.mem_of_find?_eq_some qualified
  · exact List.mem_of_find?_eq_some unqualified

theorem isAbsolute_of_helpEffect {command : CommandLine} {target : String}
    (leads : (table.helpEffect command).target? = some target) :
    isAbsolute target = true := by
  unfold helpEffect at leads
  split at leads
  · cases leads
  · split at leads
    · cases leads
    · next found =>
        cases leads
        exact isAbsolute_of_topic? sound found
    · cases leads

/-- The check of a table reaches everything that a line can lead to. -/
theorem isAbsolute_of_target? {line target : String}
    (leads : table.target? line = some target) : isAbsolute target = true := by
  obtain ⟨effect, routed, leads⟩ := Option.bind_eq_some_iff.mp leads
  obtain ⟨command, _, rfl⟩ := Option.map_eq_some_iff.mp routed
  unfold lineEffect at leads
  split at leads
  · exact isAbsolute_of_helpEffect sound leads
  · cases leads
  · cases leads
  · cases leads
  · next found => exact isAbsolute_of_route? sound found leads
  · next found => exact isAbsolute_of_route? sound found leads
  · cases leads

end Sound

/-! ## Tables with one verb -/

def oneVerb (name : String) (route : VerbRoute) : CommandTable where
  version := supportedVersion
  summary := ""
  localized := ""
  verbs := ⟨[⟨name, route⟩], List.pairwise_singleton _ _⟩
  topics := []

/-- The text of a table with one verb, given the members of its route. -/
def oneVerbText (name members : String) : String :=
  Json.braced ("\"version\":2,\"summary\":\"\",\"localized\":\"\"," ++
    "\"verbs\":" ++
      Json.braced ("\"" ++ name ++ "\":" ++ Json.braced members))

end CommandTable

end OperatorConsole
