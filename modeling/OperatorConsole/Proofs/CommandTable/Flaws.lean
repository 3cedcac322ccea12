import OperatorConsole.Proofs.CommandTable.Rearranged
import OperatorConsole.Proofs.CommandTable.Verbs
import OperatorConsole.Proofs.Text.ByteOrder

/-!
# The flaw that is reported

A table may have many flaws, and one is reported: a wrong version, or else the
flaw of the first verb in the order of names, or else that of the first topic.
Which one it is depends on what the table says, and on the text only through
that, so the members of the text may stand in any order.
-/

namespace OperatorConsole.CommandTable

open Json

/-! ## What passes -/

def IsPath (target : String) : Prop :=
  ∃ rest, target.toList = '/' :: rest

def IsWord (name : String) : Prop :=
  name ≠ "" ∧ ' ' ∉ name.toList ∧ Text.lowercase name = name

/-- The name of a verb is a word, and the verb leads to no place but one that is
given by a path. -/
structure VerbPasses (verb : Verb) : Prop where
  name : IsWord verb.name
  navigates : ∀ target, verb.route = .navigate target → IsPath target
  redirects : ∀ target, verb.route = .clearSession target → IsPath target

def TopicPasses (topic : HelpTopic) : Prop :=
  ∀ target, topic.entry = .navigate target → IsPath target

structure Passes (table : CommandTable) : Prop where
  version : table.version = 2
  verbs : ∀ verb ∈ table.verbs.toList, VerbPasses verb
  topics : ∀ topic ∈ table.topics, TopicPasses topic

theorem all_isAbsolute_iff {route : VerbRoute} :
    route.target?.all isAbsolute = true ↔
      (∀ target, route = .navigate target → IsPath target) ∧
        ∀ target, route = .clearSession target → IsPath target := by
  cases route with
  | navigate target | clearSession target =>
      simp [VerbRoute.target?, isAbsolute_iff, IsPath]
  | help | localizedHelp | remote => simp [VerbRoute.target?]

theorem verb_flaw?_eq_none_iff {verb : Verb} :
    Verb.flaw? verb = none ↔ VerbPasses verb := by
  unfold Verb.flaw?
  constructor
  · intro sound
    split at sound
    · cases sound
    · next named =>
        split at sound
        · next absolute =>
            obtain ⟨navigates, redirects⟩ := all_isAbsolute_iff.mp absolute
            have named : isVerbName verb.name = true := by simpa using named
            exact ⟨isVerbName_iff.mp named, navigates, redirects⟩
        · cases sound
  · rintro ⟨named, navigates, redirects⟩
    have named : isVerbName verb.name = true := isVerbName_iff.mpr named
    rw [if_neg (by simp [named]),
      if_pos (all_isAbsolute_iff.mpr ⟨navigates, redirects⟩)]

theorem topic_flaw?_eq_none_iff {topic : HelpTopic} :
    HelpTopic.flaw? topic = none ↔ TopicPasses topic := by
  obtain ⟨sub, qualifier, entry⟩ := topic
  cases entry with
  | text markup => simp [HelpTopic.flaw?, TopicPasses]
  | navigate target =>
      simp [HelpTopic.flaw?, TopicPasses, isAbsolute_iff, IsPath]

theorem flaw?_of_supported {table : CommandTable}
    (supported : table.version = 2) :
    table.flaw? =
      (table.verbs.toList.findSome? Verb.flaw?).or
        (table.topics.findSome? HelpTopic.flaw?) :=
  if_neg (not_not.mpr supported)

theorem flaw?_of_unsupported {table : CommandTable}
    (unsupported : table.version ≠ 2) :
    table.flaw? = some (.version table.version) :=
  if_pos unsupported

theorem flaw?_eq_none_iff {table : CommandTable} :
    table.flaw? = none ↔ Passes table := by
  constructor
  · intro sound
    obtain ⟨version, verbs, topics⟩ := sound_parts sound
    exact ⟨version,
      fun verb known => verb_flaw?_eq_none_iff.mp (verbs verb known),
      fun topic known => topic_flaw?_eq_none_iff.mp (topics topic known)⟩
  · rintro ⟨version, verbs, topics⟩
    rw [flaw?_of_supported version, Option.or_eq_none_iff,
      List.findSome?_eq_none_iff, List.findSome?_eq_none_iff]
    exact ⟨fun verb known => verb_flaw?_eq_none_iff.mpr (verbs verb known),
      fun topic known => topic_flaw?_eq_none_iff.mpr (topics topic known)⟩

/-! ## The first flaw -/

/-- Of the verbs that do not pass, the one whose name has the smallest bytes. -/
structure IsFirstFaulty (table : CommandTable) (verb : Verb) : Prop where
  known : verb ∈ table.verbs.toList
  faulty : ¬VerbPasses verb
  smallest : ∀ other ∈ table.verbs.toList, ¬VerbPasses other → other ≠ verb →
    Text.bytesOf verb.name < Text.bytesOf other.name

/-- The flaw that is reported for a table. -/
inductive IsFirstFlaw (table : CommandTable) : Flaw → Prop where
  | version (wrong : table.version ≠ 2) :
      IsFirstFlaw table (.version table.version)
  | verbName {verb : Verb} (version : table.version = 2)
      (first : IsFirstFaulty table verb) (wrong : ¬IsWord verb.name) :
      IsFirstFlaw table (.badVerb verb.name)
  | verbTarget {verb : Verb} (version : table.version = 2)
      (first : IsFirstFaulty table verb) (named : IsWord verb.name) :
      IsFirstFlaw table (.badTarget verb.name)
  | topic {before after : List HelpTopic} {topic : HelpTopic}
      (version : table.version = 2)
      (verbs : ∀ verb ∈ table.verbs.toList, VerbPasses verb)
      (split : table.topics = before ++ topic :: after)
      (earlier : ∀ other ∈ before, TopicPasses other)
      (faulty : ¬TopicPasses topic) :
      IsFirstFlaw table (.badTarget topic.sub)

section Flaws

variable {table : CommandTable} {flaw : Flaw}

theorem verb_flaw?_eq_some_iff {verb : Verb} :
    Verb.flaw? verb = some flaw ↔
      ¬VerbPasses verb ∧
        ((¬IsWord verb.name ∧ flaw = .badVerb verb.name) ∨
          (IsWord verb.name ∧ flaw = .badTarget verb.name)) := by
  have passes : Verb.flaw? verb ≠ none ↔ ¬VerbPasses verb :=
    not_congr verb_flaw?_eq_none_iff
  have named : isVerbName verb.name = true ↔ IsWord verb.name :=
    isVerbName_iff
  rw [← passes, ← named]
  unfold Verb.flaw?
  by_cases isName : isVerbName verb.name = true
  · by_cases absolute : verb.route.target?.all isAbsolute = true
    · simp [isName, absolute]
    · simp [isName, absolute, eq_comm]
  · simp [isName, eq_comm]

theorem topic_flaw?_eq_some_iff {topic : HelpTopic} :
    HelpTopic.flaw? topic = some flaw ↔
      ¬TopicPasses topic ∧ flaw = .badTarget topic.sub := by
  rw [← topic_flaw?_eq_none_iff]
  obtain ⟨sub, qualifier, entry⟩ := topic
  cases entry with
  | text markup => simp [HelpTopic.flaw?]
  | navigate target =>
      by_cases absolute : isAbsolute target = true
      · simp [HelpTopic.flaw?, absolute]
      · simp [HelpTopic.flaw?, absolute, eq_comm]

/-- The verbs stand in the order of the bytes of their names. -/
theorem isFirstFaulty_iff {verb : Verb} :
    IsFirstFaulty table verb ↔
      ∃ before after, table.verbs.toList = before ++ verb :: after ∧
        ¬VerbPasses verb ∧ ∀ other ∈ before, VerbPasses other := by
  have ordered := table.verbs.ordered
  constructor
  · rintro ⟨known, faulty, smallest⟩
    obtain ⟨before, after, split⟩ := List.append_of_mem known
    refine ⟨before, after, split, faulty, fun other earlier => ?_⟩
    rw [split, List.pairwise_append] at ordered
    have less := Text.compare_eq_lt_iff.mp
      (ordered.2.2 other earlier verb List.mem_cons_self)
    by_contra wrong
    have different : other ≠ verb := by
      rintro rfl
      exact List.lt_irrefl _ less
    have member : other ∈ table.verbs.toList := by
      rw [split]
      exact List.mem_append_left _ earlier
    exact List.lt_asymm less (smallest other member wrong different)
  · rintro ⟨before, after, split, faulty, earlier⟩
    rw [split, List.pairwise_append] at ordered
    refine ⟨by simp [split], faulty, fun other known wrong different => ?_⟩
    rw [split, List.mem_append, List.mem_cons] at known
    obtain isEarlier | same | later := known
    · exact absurd (earlier other isEarlier) wrong
    · exact absurd same different
    · exact Text.compare_eq_lt_iff.mp
        ((List.pairwise_cons.mp ordered.2.1).1 other later)

theorem findSome?_verbs_eq_some_iff :
    table.verbs.toList.findSome? Verb.flaw? = some flaw ↔
      ∃ verb, IsFirstFaulty table verb ∧
        ((¬IsWord verb.name ∧ flaw = .badVerb verb.name) ∨
          (IsWord verb.name ∧ flaw = .badTarget verb.name)) := by
  simp only [List.findSome?_eq_some_iff, verb_flaw?_eq_some_iff,
    verb_flaw?_eq_none_iff, isFirstFaulty_iff]
  constructor
  · rintro ⟨before, verb, after, split, ⟨faulty, reported⟩, earlier⟩
    exact ⟨verb, ⟨before, after, split, faulty, earlier⟩, reported⟩
  · rintro ⟨verb, ⟨before, after, split, faulty, earlier⟩, reported⟩
    exact ⟨before, verb, after, split, ⟨faulty, reported⟩, earlier⟩

theorem findSome?_topics_eq_some_iff :
    table.topics.findSome? HelpTopic.flaw? = some flaw ↔
      ∃ before topic after, table.topics = before ++ topic :: after ∧
        (∀ other ∈ before, TopicPasses other) ∧ ¬TopicPasses topic ∧
        flaw = .badTarget topic.sub := by
  simp only [List.findSome?_eq_some_iff, topic_flaw?_eq_some_iff,
    topic_flaw?_eq_none_iff]
  constructor
  · rintro ⟨before, topic, after, split, ⟨faulty, reported⟩, earlier⟩
    exact ⟨before, topic, after, split, earlier, faulty, reported⟩
  · rintro ⟨before, topic, after, split, earlier, faulty, reported⟩
    exact ⟨before, topic, after, split, ⟨faulty, reported⟩, earlier⟩

theorem flaw?_eq_some_iff :
    table.flaw? = some flaw ↔ IsFirstFlaw table flaw := by
  by_cases version : table.version = 2
  · rw [flaw?_of_supported version, Option.or_eq_some_iff,
      findSome?_verbs_eq_some_iff, List.findSome?_eq_none_iff,
      findSome?_topics_eq_some_iff]
    constructor
    · rintro (⟨verb, first, ⟨wrong, rfl⟩ | ⟨named, rfl⟩⟩ |
        ⟨verbs, before, topic, after, split, earlier, faulty, rfl⟩)
      · exact .verbName version first wrong
      · exact .verbTarget version first named
      · exact .topic version
          (fun verb known => verb_flaw?_eq_none_iff.mp (verbs verb known))
          split earlier faulty
    · intro first
      cases first with
      | version wrong => exact absurd version wrong
      | verbName _ first wrong => exact .inl ⟨_, first, .inl ⟨wrong, rfl⟩⟩
      | verbTarget _ first named => exact .inl ⟨_, first, .inr ⟨named, rfl⟩⟩
      | topic _ verbs split earlier faulty =>
          exact .inr
            ⟨fun verb known => verb_flaw?_eq_none_iff.mpr (verbs verb known),
              _, _, _, split, earlier, faulty, rfl⟩
  · rw [flaw?_of_unsupported version, Option.some.injEq]
    constructor
    · rintro rfl
      exact .version version
    · intro first
      cases first with
      | version _ => rfl
      | verbName right _ _ | verbTarget right _ _ | topic right _ _ _ _ =>
          exact absurd right version

end Flaws

/-! ## Texts -/

section Texts

variable {text : String} {table : CommandTable}

theorem ofText_eq_ok_iff (read : readText tableReader text = .ok table)
    {accepted : CommandTable} :
    ofText text = .ok accepted ↔ Passes table ∧ accepted = table := by
  rw [← flaw?_eq_none_iff]
  simp only [ofText, read]
  cases table.flaw? with
  | some flaw => simp
  | none => simp [eq_comm]

theorem ofText_eq_error_iff (read : readText tableReader text = .ok table)
    {fault : TextFault} :
    ofText text = .error fault ↔
      ∃ flaw, IsFirstFlaw table flaw ∧ fault = .flawed flaw := by
  simp only [← flaw?_eq_some_iff, ofText, read]
  cases table.flaw? with
  | some flaw => simp [eq_comm]
  | none => simp

theorem ofText_congr (read : readText tableReader text = .ok table)
    {other : String} (readOther : readText tableReader other = .ok table) :
    ofText other = ofText text := by
  simp only [ofText, read, readOther]

/-- The members of a text may stand in any order. -/
theorem readText_of_rearranged (read : readText tableReader text = .ok table)
    {other : String} (rearranged : Rearranged text other) :
    readText tableReader other = .ok table :=
  (steady_tableReader depthLimit).readText_eq_ok rearranged read

end Texts

theorem first_flaw_reported {text : String} {table : CommandTable}
    (read : readText tableReader text = .ok table) :
    ((∃ accepted, ofText text = .ok accepted) ↔ Passes table) ∧
      (∀ accepted, ofText text = .ok accepted → accepted = table) ∧
      (∀ fault, ofText text = .error fault ↔
        ∃ flaw, IsFirstFlaw table flaw ∧ fault = .flawed flaw) ∧
      (∀ other, readText tableReader other = .ok table →
        ofText other = ofText text) ∧
      ∀ other, Rearranged text other →
        readText tableReader other = .ok table ∧
          ofText other = ofText text := by
  refine ⟨?passes, ?same, fun _ => ofText_eq_error_iff read,
    fun _ => ofText_congr read, ?rearranged⟩
  case passes =>
    simp only [ofText_eq_ok_iff read, exists_eq_right]
  case same =>
    intro accepted succeeds
    exact ((ofText_eq_ok_iff read).mp succeeds).2
  case rearranged =>
    intro other rearranged
    have again := readText_of_rearranged read rearranged
    exact ⟨again, ofText_congr read again⟩

/-! ## Two flaws -/

/-- The members of a table with these verbs. -/
def verbsMembers (verbs : List Member) : List Member :=
  [⟨"version".toList, "2".toList⟩, ⟨"summary".toList, quoted []⟩,
    ⟨"localized".toList, quoted []⟩, ⟨"verbs".toList, objectText verbs⟩]

def verbsText (verbs : List Member) : String :=
  String.ofList (objectText (verbsMembers verbs))

theorem sound_verbsMembers {verbs : List Member}
    (sound : ∀ verb ∈ verbs, verb.IsSound) :
    ∀ member ∈ verbsMembers verbs, member.IsSound := by
  have named : IsString "verbs".toList := by decide
  simp only [verbsMembers, List.forall_mem_cons, List.not_mem_nil,
    false_imp_iff, implies_true, and_true]
  exact ⟨⟨by decide, by decide⟩, ⟨by decide, by decide⟩,
    ⟨by decide, by decide⟩, ⟨named, .object (isObject_objectText sound)⟩⟩

theorem rearranged_verbsText {verbs others : List Member}
    (sound : ∀ verb ∈ verbs, verb.IsSound)
    (othersSound : ∀ other ∈ others, other.IsSound)
    (rearranges : AlikeMembers verbs others) :
    Rearranged (verbsText verbs) (verbsText others) := by
  have members : AlikeMembers (verbsMembers verbs) (verbsMembers others) :=
    .cons rfl (.same _) (.cons rfl (.same _) (.cons rfl (.same _)
      (.cons rfl (rearranges.alike sound othersSound) .nil)))
  have isObject := isObject_objectText (sound_verbsMembers sound)
  have padded (verbs : List Member) : Padded
      (objectText (verbsMembers verbs)) (verbsText verbs).toList := by
    rw [verbsText, String.toList_ofList]
    exact .refl _
  exact ⟨_, _, .object isObject, padded verbs, padded others, members.alike
    (sound_verbsMembers sound) (sound_verbsMembers othersSound)⟩

def wrongTarget : Member :=
  ⟨"z".toList,
    (braced "\"kind\":\"navigate\",\"target\":\"doc\"").toList⟩

def wrongName : Member :=
  ⟨"Z".toList, (braced "\"kind\":\"help\"").toList⟩

/-- Two verbs are wrong.  The one that is reported comes first in the order of
names. -/
def twoFaultyTable : CommandTable where
  version := 2
  summary := ""
  localized := ""
  verbs := ⟨[⟨"Z", .help⟩, ⟨"z", .navigate "doc"⟩], by decide⟩
  topics := []

theorem capital_reported_first :
    readText tableReader (verbsText [wrongTarget, wrongName]) =
        .ok twoFaultyTable ∧
      Rearranged (verbsText [wrongTarget, wrongName])
        (verbsText [wrongName, wrongTarget]) ∧
      ofText (verbsText [wrongTarget, wrongName]) =
        .error (.flawed (.badVerb "Z")) ∧
      ofText (verbsText [wrongName, wrongTarget]) =
        .error (.flawed (.badVerb "Z")) := by
  have read : readText tableReader (verbsText [wrongTarget, wrongName]) =
      .ok twoFaultyTable := rfl
  have rearranged : Rearranged (verbsText [wrongTarget, wrongName])
      (verbsText [wrongName, wrongTarget]) := by
    have target : wrongTarget.IsSound := ⟨by decide, by decide⟩
    have name : wrongName.IsSound := ⟨by decide, by decide⟩
    have small : Spells wrongTarget.name "z".toList := by decide
    have capital : Spells wrongName.name "Z".toList := by decide
    exact rearranged_verbsText (by simp [target, name]) (by simp [target, name])
      (.swap (small.apart capital (by decide)) [])
  have first : IsFirstFaulty twoFaultyTable ⟨"Z", .help⟩ := by
    refine isFirstFaulty_iff.mpr ⟨[], _, rfl, ?_, by simp⟩
    exact mt VerbPasses.name (by simp only [← isVerbName_iff, IsWord]; decide)
  have flaw : IsFirstFlaw twoFaultyTable (.badVerb "Z") :=
    .verbName rfl first (by simp only [← isVerbName_iff, IsWord]; decide)
  obtain ⟨_, _, reported, _, ignoresOrder⟩ := first_flaw_reported read
  have fails := (reported _).mpr ⟨_, flaw, rfl⟩
  exact ⟨read, rearranged, fails, (ignoresOrder _ rearranged).2.trans fails⟩

end OperatorConsole.CommandTable
