import Mathlib.Data.List.Nodup
import OperatorConsole.CommandTable.Builtin
import OperatorConsole.Router

/-!
# Which topic helps

Topics are looked up one after the other, first with the qualifier and then
without.  Where no two of them have the same words, that comes to a relation
which does not know their order.  A topic that repeats the words of an earlier
one is never found, so every list of topics helps like one without repetitions.
-/

namespace OperatorConsole

/-- The words that a topic is for. -/
def HelpTopic.words (topic : HelpTopic) : String × Option String :=
  (topic.sub, topic.qualifier)

namespace CommandTable

/-- No two topics are for the same words. -/
def Unrepeated (topics : List HelpTopic) : Prop :=
  (topics.map HelpTopic.words).Nodup

/-- The topics for words that have not been seen before. -/
def newTopics (seen : List (String × Option String)) :
    List HelpTopic → List HelpTopic
  | [] => []
  | topic :: later =>
      if topic.words ∈ seen then newTopics seen later
      else topic :: newTopics (topic.words :: seen) later

/-- The topics without those that repeat the words of an earlier one. -/
def firstTopics (topics : List HelpTopic) : List HelpTopic :=
  newTopics [] topics

/-- The topics that help with a word and the word after it: those with just this
qualifier and, if there are none, those without a qualifier. -/
inductive Explains (topics : List HelpTopic) (sub : String)
    (qualifier : Option String) (topic : HelpTopic) : Prop where
  | exactly (member : topic ∈ topics) (sameSub : topic.sub = sub)
      (sameQualifier : topic.qualifier = qualifier)
  | generally (member : topic ∈ topics) (sameSub : topic.sub = sub)
      (unqualified : topic.qualifier = none)
      (noBetter : ∀ other ∈ topics, other.sub = sub →
        other.qualifier ≠ qualifier)

def withTopics (table : CommandTable) (topics : List HelpTopic) :
    CommandTable :=
  { table with topics }

/-- Other topics make no difference to the help of a table. -/
structure HelpsAlike (table : CommandTable) (topics : List HelpTopic) :
    Prop where
  topic? : ∀ sub qualifier,
    (table.withTopics topics).topic? sub qualifier =
      table.topic? sub qualifier
  effect? : ∀ line,
    (table.withTopics topics).effect? line = table.effect? line

/-! ## One search -/

section Search

variable {topics : List HelpTopic} {sub : String} {qualifier : Option String}

theorem words_eq_iff {topic : HelpTopic} :
    topic.words = (sub, qualifier) ↔
      topic.sub = sub ∧ topic.qualifier = qualifier :=
  Prod.ext_iff

theorem topicFor?_cons (topic : HelpTopic) :
    topicFor? (topic :: topics) sub qualifier =
      if topic.words = (sub, qualifier) then some topic
      else topicFor? topics sub qualifier := by
  rw [topicFor?, List.find?_cons]
  by_cases same : topic.words = (sub, qualifier)
  · obtain ⟨sameSub, sameQualifier⟩ := words_eq_iff.mp same
    simp [same, sameSub, sameQualifier]
  · have other : (topic.sub == sub && topic.qualifier == qualifier) =
        false := by
      rw [Bool.and_eq_false_imp]
      simpa using fun sameSub sameQualifier =>
        same (words_eq_iff.mpr ⟨sameSub, sameQualifier⟩)
    rw [other, if_neg same, topicFor?]

theorem words_of_topicFor? {topic : HelpTopic}
    (found : topicFor? topics sub qualifier = some topic) :
    topic ∈ topics ∧ topic.sub = sub ∧ topic.qualifier = qualifier := by
  have chosen := List.find?_some found
  rw [Bool.and_eq_true, beq_iff_eq, beq_iff_eq] at chosen
  exact ⟨List.mem_of_find?_eq_some found, chosen⟩

theorem topicFor?_eq_none_iff :
    topicFor? topics sub qualifier = none ↔
      ∀ topic ∈ topics, topic.sub = sub → topic.qualifier ≠ qualifier := by
  rw [topicFor?, List.find?_eq_none]
  simp

theorem topicFor?_eq_some_iff (unrepeated : Unrepeated topics)
    {topic : HelpTopic} :
    topicFor? topics sub qualifier = some topic ↔
      topic ∈ topics ∧ topic.sub = sub ∧ topic.qualifier = qualifier := by
  refine ⟨words_of_topicFor?, ?_⟩
  rintro ⟨member, sameSub, sameQualifier⟩
  cases found : topicFor? topics sub qualifier with
  | none =>
      exact absurd sameQualifier
        (topicFor?_eq_none_iff.mp found topic member sameSub)
  | some other =>
      obtain ⟨otherMember, otherWords⟩ := words_of_topicFor? found
      have same : other.words = topic.words :=
        (words_eq_iff.mpr otherWords).trans
          (words_eq_iff.mpr ⟨sameSub, sameQualifier⟩).symm
      rw [List.inj_on_of_nodup_map unrepeated otherMember member same]

end Search

/-! ## Repetitions -/

theorem topicFor?_newTopics (topics : List HelpTopic) (sub : String)
    (qualifier : Option String) :
    ∀ seen : List (String × Option String),
      topicFor? (newTopics seen topics) sub qualifier =
        if (sub, qualifier) ∈ seen then none
        else topicFor? topics sub qualifier := by
  induction topics with
  | nil => exact fun seen => (ite_self _).symm
  | cons topic later induction =>
      intro seen
      rw [newTopics, topicFor?_cons]
      by_cases repeats : topic.words ∈ seen
      · rw [if_pos repeats, induction]
        by_cases same : topic.words = (sub, qualifier)
        · rw [← same, if_pos repeats, if_pos repeats]
        · rw [if_neg same]
      · rw [if_neg repeats, topicFor?_cons, induction]
        by_cases same : topic.words = (sub, qualifier)
        · rw [if_pos same, if_pos same, ← same, if_neg repeats]
        · have unchanged : (sub, qualifier) ∈ topic.words :: seen ↔
              (sub, qualifier) ∈ seen := by
            rw [List.mem_cons, or_iff_right (Ne.symm same)]
          rw [if_neg same, if_neg same]
          simp only [unchanged]

theorem not_seen_of_mem_newTopics {topics : List HelpTopic} :
    ∀ {seen : List (String × Option String)},
      ∀ topic ∈ newTopics seen topics, topic.words ∉ seen := by
  induction topics with
  | nil =>
      intro seen topic member
      cases member
  | cons first later induction =>
      intro seen topic member
      rw [newTopics] at member
      split at member
      · exact induction topic member
      · next new =>
          rcases List.mem_cons.mp member with rfl | inLater
          · exact new
          · exact fun known =>
              induction topic inLater (List.mem_cons_of_mem _ known)

theorem unrepeated_newTopics (topics : List HelpTopic) :
    ∀ seen : List (String × Option String),
      Unrepeated (newTopics seen topics) := by
  induction topics with
  | nil => exact fun seen => List.nodup_nil
  | cons topic later induction =>
      intro seen
      rw [newTopics]
      split
      · exact induction seen
      · refine List.nodup_cons.mpr ⟨?_, induction _⟩
        intro repeated
        obtain ⟨other, member, same⟩ := List.mem_map.mp repeated
        exact not_seen_of_mem_newTopics other member
          (same ▸ List.mem_cons_self)

theorem newTopics_eq_self {topics : List HelpTopic} :
    ∀ {seen : List (String × Option String)}, Unrepeated topics →
      (∀ topic ∈ topics, topic.words ∉ seen) →
      newTopics seen topics = topics := by
  induction topics with
  | nil => exact fun _ _ => rfl
  | cons topic later induction =>
      intro seen unrepeated new
      obtain ⟨notLater, others⟩ := List.nodup_cons.mp unrepeated
      rw [newTopics, if_neg (new topic List.mem_cons_self)]
      refine congrArg (topic :: ·) (induction others ?_)
      intro other member known
      rcases List.mem_cons.mp known with same | before
      · exact notLater (same ▸ List.mem_map_of_mem member)
      · exact new other (List.mem_cons_of_mem _ member) before

theorem unrepeated_firstTopics (topics : List HelpTopic) :
    Unrepeated (firstTopics topics) :=
  unrepeated_newTopics topics []

theorem firstTopics_eq_self {topics : List HelpTopic}
    (unrepeated : Unrepeated topics) : firstTopics topics = topics :=
  newTopics_eq_self unrepeated fun _ _ => List.not_mem_nil

/-! ## Both searches -/

section Table

variable {table : CommandTable} {sub : String} {qualifier : Option String}

/-- The search with a qualifier is the other one if there is none. -/
theorem topic?_eq (table : CommandTable) (sub : String)
    (qualifier : Option String) :
    table.topic? sub qualifier =
      ((topicFor? table.topics sub qualifier).or
        (topicFor? table.topics sub none)).map (·.entry) := by
  cases qualifier with
  | none => rw [Option.or_self]; rfl
  | some word => rfl

theorem topic?_eq_some_iff (unrepeated : Unrepeated table.topics)
    {entry : HelpEntry} :
    table.topic? sub qualifier = some entry ↔
      ∃ topic, Explains table.topics sub qualifier topic ∧
        topic.entry = entry := by
  rw [topic?_eq, Option.map_eq_some_iff]
  refine exists_congr fun topic => and_congr_left fun _ => ?_
  rw [Option.or_eq_some_iff, topicFor?_eq_some_iff unrepeated,
    topicFor?_eq_some_iff unrepeated, topicFor?_eq_none_iff]
  constructor
  · rintro (⟨member, sameSub, sameQualifier⟩ |
      ⟨noBetter, member, sameSub, unqualified⟩)
    · exact .exactly member sameSub sameQualifier
    · exact .generally member sameSub unqualified noBetter
  · intro explains
    cases explains with
    | exactly member sameSub sameQualifier =>
        exact .inl ⟨member, sameSub, sameQualifier⟩
    | generally member sameSub unqualified noBetter =>
        exact .inr ⟨noBetter, member, sameSub, unqualified⟩

theorem topic?_of_no_better {word : String}
    (noBetter : ∀ topic ∈ table.topics, topic.sub = sub →
      topic.qualifier ≠ some word) :
    table.topic? sub (some word) = table.topic? sub none := by
  rw [topic?_eq, topic?_eq, topicFor?_eq_none_iff.mpr noBetter,
    Option.none_or, Option.or_self]

/-- The topics have a say in the effect of a line through `topic?` only. -/
theorem helpsAlike_of_topicFor? {topics : List HelpTopic}
    (same : ∀ sub qualifier, topicFor? topics sub qualifier =
      topicFor? table.topics sub qualifier) :
    table.HelpsAlike topics := by
  have alike (sub : String) (qualifier : Option String) :
      (table.withTopics topics).topic? sub qualifier =
        table.topic? sub qualifier := by
    rw [topic?_eq, topic?_eq, ← same, ← same]
    rfl
  have help (command : CommandLine) :
      (table.withTopics topics).helpEffect command =
        table.helpEffect command := by
    simp only [helpEffect, alike]
    rfl
  refine ⟨alike, fun line => ?_⟩
  rw [effect?, effect?]
  congr 1
  funext command
  unfold lineEffect
  rw [help]
  rfl

theorem helpsAlike_of_perm (unrepeated : Unrepeated table.topics)
    {topics : List HelpTopic} (perm : topics.Perm table.topics) :
    table.HelpsAlike topics := by
  have alsoUnrepeated : Unrepeated topics :=
    (perm.map HelpTopic.words).nodup_iff.mpr unrepeated
  refine helpsAlike_of_topicFor? fun sub qualifier => ?_
  ext topic
  rw [topicFor?_eq_some_iff alsoUnrepeated, topicFor?_eq_some_iff unrepeated,
    perm.mem_iff]

end Table

/-- Help depends on the topics and not on their places.  The first topics for
their words decide, whatever follows them: a topic with just the qualifier that
is asked for, wherever it stands, and else the one without a qualifier, but
never one with another qualifier. -/
theorem help_by_topic (table : CommandTable) :
    (∀ sub qualifier entry, table.topic? sub qualifier = some entry ↔
      ∃ topic, Explains (firstTopics table.topics) sub qualifier topic ∧
        topic.entry = entry) ∧
      table.HelpsAlike (firstTopics table.topics) ∧
      (∀ sub word,
        (∀ topic ∈ table.topics, topic.sub = sub →
          topic.qualifier ≠ some word) →
        table.topic? sub (some word) = table.topic? sub none) ∧
      (Unrepeated table.topics →
        firstTopics table.topics = table.topics ∧
        (∀ topic ∈ table.topics,
          table.topic? topic.sub topic.qualifier = some topic.entry) ∧
        ∀ topics, topics.Perm table.topics → table.HelpsAlike topics) := by
  have first : table.HelpsAlike (firstTopics table.topics) := by
    refine helpsAlike_of_topicFor? fun sub qualifier => ?_
    rw [firstTopics, topicFor?_newTopics, if_neg List.not_mem_nil]
  refine ⟨fun sub qualifier entry => ?_, first,
    fun sub word => topic?_of_no_better, fun unrepeated => ⟨?_, ?_, ?_⟩⟩
  · rw [← first.topic?]
    exact topic?_eq_some_iff (unrepeated_firstTopics table.topics)
  · exact firstTopics_eq_self unrepeated
  · intro topic member
    exact (topic?_eq_some_iff unrepeated).mpr
      ⟨topic, .exactly member rfl rfl, rfl⟩
  · exact fun topics => helpsAlike_of_perm unrepeated

/-- A topic for a word that the built-in table has only qualified topics for. -/
def generalTopic : HelpTopic :=
  ⟨"new", none, .text "general"⟩

theorem user_topic_found_from_behind :
    Unrepeated (generalTopic :: builtin.topics) ∧
      (builtin.withTopics (generalTopic :: builtin.topics)).topic?
        "new" (some "user") = some (.navigate "/doc/acl.html#new-user") ∧
      (builtin.withTopics (builtin.topics ++ [generalTopic])).effect?
        "HELP new Server" = some (.localRender "general") := by
  let table := builtin.withTopics (generalTopic :: builtin.topics)
  have unrepeated : Unrepeated table.topics := by
    unfold Unrepeated
    decide +kernel
  obtain ⟨_, _, _, parts⟩ := help_by_topic table
  obtain ⟨_, wins, anyOrder⟩ := parts unrepeated
  have found := wins ⟨"new", some "user", .navigate "/doc/acl.html#new-user"⟩
    (by decide +kernel)
  have moved : (builtin.topics ++ [generalTopic]).Perm table.topics :=
    List.perm_append_comm
  have effect := (anyOrder _ moved).effect? "HELP new Server"
  refine ⟨unrepeated, found, effect.trans ?_⟩
  decide +kernel

end CommandTable

end OperatorConsole
