import OperatorConsole.Proofs.CommandTable.Routes
import OperatorConsole.Proofs.OrderedBy

/-!
# Tables with members in another order

The members of a table's text may stand in any order, and so may those of its
verbs, routes, topics and entries.  Most are put into slots.  The content of an
entry is a value of any type as long as its kind is not known, and only a string
in the end.
-/

namespace OperatorConsole.CommandTable

open Json

/-! ## Help entries -/

/-- What is done with the members of a help entry.  What its content must be
shows with its kind. -/
inductive EntryMembers.Does (depth : Nat) :
    EntryMembers → String → List Char → EntryMembers → Prop where
  | earlyKind {name kind : String} {text : List Char} (isKind : name = "kind")
      (said : Alone (kindNameOrMap entryKinds) depth text kind) :
      EntryMembers.Does depth .nothing name text (.kind kind)
  | lateKind {name kind content : String} {text : List Char}
      (isKind : name = "kind")
      (said : Alone (kindNameOrMap entryKinds) depth text kind) :
      EntryMembers.Does depth (.content (.string content)) name text
        (.complete (entryOf kind content))
  | earlyContent {name : String} {text : List Char} {content : Value}
      (isContent : name = "value") (said : Alone value depth text content) :
      EntryMembers.Does depth .nothing name text (.content content)
  | lateContent {name kind content : String} {text : List Char}
      (isContent : name = "value") (said : Alone string depth text content) :
      EntryMembers.Does depth (.kind kind) name text
        (.complete (entryOf kind content))
  | other {state : EntryMembers} {name : String} {text : List Char}
      (notKind : name ≠ "kind") (notContent : name ≠ "value")
      (isValue : IsValue text) : EntryMembers.Does depth state name text state

theorem parses_lateEntry (content : Value) (depth : Nat) :
    Parses (lateEntry content) depth fun text next =>
      ∃ kind, Alone (kindNameOrMap entryKinds) depth text kind ∧
        ∃ word, content = .string word ∧
          .complete (entryOf kind word) = next := by
  refine (steady_kindNameOrMap entryKinds depth).parses.andThen _ ?_
  intro kind cs rest next
  cases content with
  | string word => simp [stringOf, eq_comm]
  | _ => simp [stringOf]

section EntryPlan

variable {depth : Nat} {state next : EntryMembers} {name : String}
  {text : List Char}

theorem does_kind_iff (isKind : name = "kind") :
    EntryMembers.Does depth state name text next ↔
      ∃ kind, Alone (kindNameOrMap entryKinds) depth text kind ∧
        ((state = .nothing ∧ .kind kind = next) ∨
          ∃ word, state = .content (.string word) ∧
            .complete (entryOf kind word) = next) := by
  constructor
  · intro done
    cases done with
    | earlyKind _ said => exact ⟨_, said, .inl ⟨rfl, rfl⟩⟩
    | lateKind _ said => exact ⟨_, said, .inr ⟨_, rfl, rfl⟩⟩
    | earlyContent isContent _ | lateContent isContent _ =>
        exact absurd (isKind.symm.trans isContent) (by decide)
    | other notKind _ _ => exact absurd isKind notKind
  · rintro ⟨kind, said, ⟨rfl, rfl⟩ | ⟨word, rfl, rfl⟩⟩
    · exact .earlyKind isKind said
    · exact .lateKind isKind said

theorem does_content_iff (isContent : name = "value") :
    EntryMembers.Does depth state name text next ↔
      (state = .nothing ∧
        ∃ content, Alone value depth text content ∧ .content content = next) ∨
      ∃ kind, state = .kind kind ∧
        ∃ word, Alone string depth text word ∧
          .complete (entryOf kind word) = next := by
  constructor
  · intro done
    cases done with
    | earlyContent _ said => exact .inl ⟨rfl, _, said, rfl⟩
    | lateContent _ said => exact .inr ⟨_, rfl, _, said, rfl⟩
    | earlyKind isKind _ | lateKind isKind _ =>
        exact absurd (isKind.symm.trans isContent) (by decide)
    | other _ notContent _ => exact absurd isContent notContent
  · rintro (⟨rfl, content, said, rfl⟩ | ⟨kind, rfl, word, said, rfl⟩)
    · exact .earlyContent isContent said
    · exact .lateContent isContent said

theorem does_other_iff (notKind : name ≠ "kind") (notContent : name ≠ "value") :
    EntryMembers.Does depth state name text next ↔
      IsValue text ∧ next = state := by
  constructor
  · intro done
    cases done with
    | earlyKind isKind _ | lateKind isKind _ => exact absurd isKind notKind
    | earlyContent isContent _ | lateContent isContent _ =>
        exact absurd isContent notContent
    | other _ _ isValue => exact ⟨isValue, rfl⟩
  · rintro ⟨isValue, rfl⟩
    exact .other notKind notContent isValue

theorem obeys_entryPlan (depth : Nat) (state : EntryMembers) (name : String) :
    (state.plan name).Obeys depth state
      (EntryMembers.Does depth state name) := by
  have kinds := steady_kindNameOrMap entryKinds depth
  unfold EntryMembers.plan
  split_ifs with isKind isContent
  · cases state with
    | nothing =>
        refine (kinds.parses.into EntryMembers.kind).congr fun text next => ?_
        simp [does_kind_iff isKind]
    | content early =>
        refine (parses_lateEntry early depth).congr fun text next => ?_
        simp [does_kind_iff isKind]
    | kind | complete => simp [MemberPlan.Obeys, does_kind_iff isKind]
  · cases state with
    | nothing =>
        refine ((steady_value depth).parses.into EntryMembers.content).congr
          fun text next => ?_
        simp [does_content_iff isContent]
    | kind known =>
        refine ((steady_string depth).parses.into fun text =>
          EntryMembers.complete (entryOf known text)).congr
            fun text next => ?_
        simp [does_content_iff isContent]
    | content | complete => simp [MemberPlan.Obeys, does_content_iff isContent]
  · exact fun text next => does_other_iff isKind isContent

end EntryPlan

/-- Members that are the same, or a content that is the same string if it is a
string at all. -/
inductive EntryMembers.Alike : EntryMembers → EntryMembers → Prop where
  | same (state : EntryMembers) : EntryMembers.Alike state state
  | content {left right : Value}
      (strings : ∀ word, left = .string word ↔ right = .string word) :
      EntryMembers.Alike (.content left) (.content right)

theorem EntryMembers.Alike.trans {first second third : EntryMembers}
    (front : first.Alike second) (back : second.Alike third) :
    first.Alike third := by
  cases front with
  | same => exact back
  | content strings =>
      cases back with
      | same => exact .content strings
      | content others =>
          exact .content fun word => (strings word).trans (others word)

theorem string_iff_of_alike {left right : Value} (alike : left.Alike right)
    (word : String) : left = .string word ↔ right = .string word := by
  cases alike with
  | same => exact Iff.rfl
  | array => simp
  | object => simp

theorem orderly_entryMembers (depth : Nat) :
    Orderly (EntryMembers.Does depth) EntryMembers.Alike where
  refl := .same
  trans := EntryMembers.Alike.trans
  follows := by
    intro state other next name text again isAlike alike done
    cases done with
    | earlyKind isKind said =>
        cases isAlike
        obtain ⟨_, said, rfl⟩ :=
          (steady_kindNameOrMap _ depth).keeps alike said
        exact ⟨_, .earlyKind isKind said, .same _⟩
    | lateKind isKind said =>
        obtain ⟨_, said, rfl⟩ :=
          (steady_kindNameOrMap _ depth).keeps alike said
        cases isAlike with
        | same => exact ⟨_, .lateKind isKind said, .same _⟩
        | content strings =>
            obtain rfl := (strings _).mp rfl
            exact ⟨_, .lateKind isKind said, .same _⟩
    | earlyContent isContent said =>
        cases isAlike
        obtain ⟨result, said, resultAlike⟩ :=
          (steady_value depth).keeps alike said
        exact ⟨_, .earlyContent isContent said,
          .content (string_iff_of_alike resultAlike)⟩
    | lateContent isContent said =>
        cases isAlike
        obtain ⟨_, said, rfl⟩ := (steady_string depth).keeps alike said
        exact ⟨_, .lateContent isContent said, .same _⟩
    | other notKind notContent isValue =>
        exact ⟨other, .other notKind notContent (alike.isValue isValue),
          isAlike⟩
  commutes := by
    intro state middle last name other text otherText different first second
    cases first with
    | earlyKind isKind said =>
        cases second with
        | lateContent isContent otherSaid =>
            have asValue := alone_string_iff.mpr otherSaid
            exact ⟨_, _, .earlyContent isContent asValue,
              .lateKind isKind said, .same _⟩
        | other notKind notContent isValue =>
            exact ⟨_, _, .other notKind notContent isValue,
              .earlyKind isKind said, .same _⟩
    | lateKind isKind said =>
        cases second with
        | other notKind notContent isValue =>
            exact ⟨_, _, .other notKind notContent isValue,
              .lateKind isKind said, .same _⟩
    | earlyContent isContent said =>
        cases second with
        | lateKind isKind otherSaid =>
            have asString := alone_string_iff.mp said
            exact ⟨_, _, .earlyKind isKind otherSaid,
              .lateContent isContent asString, .same _⟩
        | other notKind notContent isValue =>
            exact ⟨_, _, .other notKind notContent isValue,
              .earlyContent isContent said, .same _⟩
    | lateContent isContent said =>
        cases second with
        | other notKind notContent isValue =>
            exact ⟨_, _, .other notKind notContent isValue,
              .lateContent isContent said, .same _⟩
    | other notKind notContent isValue =>
        exact ⟨_, _, second, .other notKind notContent isValue, .same _⟩

theorem steady_entryMembers (depth : Nat) :
    SteadyMembers (entryMembers depth) Eq := by
  have members := steady_members (obeys_entryPlan depth)
    (orderly_entryMembers depth) .nothing
  refine members.andThen (fun state entry => state = .complete entry) ?_ ?_
  · intro state cs rest entry
    cases state with
    | complete found => simp [eq_comm]
    | _ => simp
  · rintro left right entry alike rfl
    cases alike
    exact ⟨entry, rfl, rfl⟩

theorem steady_entryItems (depth : Nat) :
    SteadyItems true (entryItems depth) Eq := by
  refine (steady_kindName entryKinds depth).itemAt (by rfl) _ fun kind => ?_
  refine (steady_string depth).itemAt (by rfl) _ fun text => ?_
  exact steadyItems_end rfl

theorem steady_entryReader (depth : Nat) : Steady entryReader depth Eq :=
  steady_listOrObject steady_entryItems steady_entryMembers depth

/-! ## Topics -/

def TopicMembers.slots : List (Slot TopicMembers) := [
  { Content := String
    name := "sub"
    get := TopicMembers.sub
    set := fun state sub => { state with sub := some sub }
    reader := string },
  { Content := Option String
    name := "qualifier"
    get := TopicMembers.qualifier
    set := fun state qualifier => { state with qualifier := some qualifier }
    reader := optional string },
  { Content := HelpEntry
    name := "entry"
    get := TopicMembers.entry
    set := fun state entry => { state with entry := some entry }
    reader := entryReader }]

theorem topicPlan_eq : TopicMembers.plan = slotsPlan TopicMembers.slots := rfl

theorem topicSlots_independent :
    TopicMembers.slots.Pairwise Slot.Independent := by
  simp only [TopicMembers.slots, List.pairwise_cons, List.forall_mem_cons,
    List.not_mem_nil, false_imp_iff, implies_true, List.Pairwise.nil, and_true]
  and_intros
  all_goals exact ⟨fun _ _ => rfl, fun _ _ => rfl, fun _ _ _ => rfl⟩

theorem topicSlots_steady (depth : Nat) :
    ∀ slot ∈ TopicMembers.slots, Steady slot.reader depth Eq := by
  simp only [TopicMembers.slots, List.forall_mem_cons, List.not_mem_nil,
    false_imp_iff, implies_true, and_true]
  exact ⟨steady_string depth, steady_optionalString depth,
    steady_entryReader depth⟩

theorem steady_topicMembers (depth : Nat) :
    SteadyMembers (topicMembers depth) Eq := by
  have members := steady_slots topicSlots_independent
    (topicSlots_steady depth) {}
  rw [← topicPlan_eq] at members
  refine members.andThen_eq (fun state topic => state.sub = some topic.sub ∧
    state.entry = some topic.entry ∧
      state.qualifier.join = topic.qualifier) ?_
  rintro state cs rest ⟨sub, qualifier, entry⟩
  constructor
  · intro succeeds
    obtain ⟨found, sub, goesOn⟩ := bind_eq_ok.mp succeeds
    obtain ⟨found, entry, ended⟩ := bind_eq_ok.mp goesOn
    cases ended
    exact ⟨⟨required_eq_ok_iff.mp sub, required_eq_ok_iff.mp entry, rfl⟩, rfl⟩
  · rintro ⟨⟨sub, entry, rfl⟩, rfl⟩
    exact bind_eq_ok.mpr ⟨_, required_eq_ok_iff.mpr sub,
      bind_eq_ok.mpr ⟨_, required_eq_ok_iff.mpr entry, rfl⟩⟩

theorem steady_topicItems (depth : Nat) :
    SteadyItems true (topicItems depth) Eq := by
  refine (steady_string depth).itemAt (by rfl) _ fun sub => ?_
  refine (steady_optionalString depth).itemAt? (by rfl) fun qualifier => ?_
  refine (steady_entryReader depth).itemAt (by rfl) _ fun entry => ?_
  exact steadyItems_end rfl

theorem steady_topicReader (depth : Nat) : Steady topicReader depth Eq :=
  steady_listOrObject steady_topicItems steady_topicMembers depth

/-! ## Tables -/

theorem steady_versionReader (depth : Nat) : Steady versionReader depth Eq :=
  (steady_whole _ _ _ depth).into_eq Int.toNat

/-- Verbs with other names may be put in any order. -/
theorem putAll_of_rearranges {entries others : List (String × VerbRoute)}
    (rearranges : AlikeEntries Eq entries others) :
    ∀ verbs : OrderedBy Verb.name,
      verbs.putAll (entries.map fun entry => ⟨entry.1, entry.2⟩) =
        verbs.putAll (others.map fun entry => ⟨entry.1, entry.2⟩) := by
  induction rearranges with
  | nil => exact fun _ => rfl
  | @cons entry other _ _ sameName sameRoute _ induction =>
      intro verbs
      obtain rfl : entry = other := Prod.ext sameName sameRoute
      exact induction _
  | @swap first second different rest =>
      intro verbs
      have swapped : (verbs.put ⟨first.1, first.2⟩).put ⟨second.1, second.2⟩ =
          (verbs.put ⟨second.1, second.2⟩).put ⟨first.1, first.2⟩ := by
        refine OrderedBy.eq_of_find?_eq fun wanted => ?_
        simp only [OrderedBy.find?_put]
        split_ifs with isSecond isFirst isFirst
        · exact absurd (isFirst.trans isSecond.symm) different
        · rfl
        · rfl
        · rfl
      simp only [List.map_cons, OrderedBy.putAll, List.foldl_cons, swapped]
  | trans _ _ first second =>
      exact fun verbs => (first verbs).trans (second verbs)

theorem steady_verbsReader (depth : Nat) : Steady verbsReader depth Eq := by
  have entries := Steady.mapOf steady_routeReader (fun _ => rfl) depth
  exact entries.into fun left right rearranges =>
    putAll_of_rearranges rearranges OrderedBy.empty

def TableMembers.slots : List (Slot TableMembers) := [
  { Content := Nat
    name := "version"
    get := TableMembers.version
    set := fun state version => { state with version := some version }
    reader := versionReader },
  { Content := String
    name := "summary"
    get := TableMembers.summary
    set := fun state summary => { state with summary := some summary }
    reader := string },
  { Content := String
    name := "localized"
    get := TableMembers.localized
    set := fun state localized => { state with localized := some localized }
    reader := string },
  { Content := OrderedBy Verb.name
    name := "verbs"
    get := TableMembers.verbs
    set := fun state verbs => { state with verbs := some verbs }
    reader := verbsReader },
  { Content := List HelpTopic
    name := "topics"
    get := TableMembers.topics
    set := fun state topics => { state with topics := some topics }
    reader := listOf topicReader }]

theorem tablePlan_eq : TableMembers.plan = slotsPlan TableMembers.slots := rfl

theorem tableSlots_independent :
    TableMembers.slots.Pairwise Slot.Independent := by
  simp only [TableMembers.slots, List.pairwise_cons, List.forall_mem_cons,
    List.not_mem_nil, false_imp_iff, implies_true, List.Pairwise.nil, and_true]
  and_intros
  all_goals exact ⟨fun _ _ => rfl, fun _ _ => rfl, fun _ _ _ => rfl⟩

theorem tableSlots_steady (depth : Nat) :
    ∀ slot ∈ TableMembers.slots, Steady slot.reader depth Eq := by
  simp only [TableMembers.slots, List.forall_mem_cons, List.not_mem_nil,
    false_imp_iff, implies_true, and_true]
  exact ⟨steady_versionReader depth, steady_string depth, steady_string depth,
    steady_verbsReader depth, Steady.listOf_eq steady_topicReader depth⟩

theorem steady_tableMembers (depth : Nat) :
    SteadyMembers (tableMembers depth) Eq := by
  have members := steady_slots tableSlots_independent
    (tableSlots_steady depth) {}
  rw [← tablePlan_eq] at members
  refine members.andThen_eq (fun state table =>
    state.version = some table.version ∧ state.summary = some table.summary ∧
      state.localized = some table.localized ∧
      state.verbs = some table.verbs ∧
      state.topics.getD [] = table.topics) ?_
  rintro state cs rest ⟨version, summary, localized, verbs, topics⟩
  constructor
  · intro succeeds
    obtain ⟨_, version, afterVersion⟩ := bind_eq_ok.mp succeeds
    obtain ⟨_, summary, afterSummary⟩ := bind_eq_ok.mp afterVersion
    obtain ⟨_, localized, afterLocalized⟩ := bind_eq_ok.mp afterSummary
    obtain ⟨_, verbs, ended⟩ := bind_eq_ok.mp afterLocalized
    cases ended
    exact ⟨⟨required_eq_ok_iff.mp version, required_eq_ok_iff.mp summary,
      required_eq_ok_iff.mp localized, required_eq_ok_iff.mp verbs, rfl⟩, rfl⟩
  · rintro ⟨⟨version, summary, localized, verbs, rfl⟩, rfl⟩
    exact bind_eq_ok.mpr ⟨_, required_eq_ok_iff.mpr version,
      bind_eq_ok.mpr ⟨_, required_eq_ok_iff.mpr summary,
        bind_eq_ok.mpr ⟨_, required_eq_ok_iff.mpr localized,
          bind_eq_ok.mpr ⟨_, required_eq_ok_iff.mpr verbs, rfl⟩⟩⟩⟩

theorem steady_tableItems (depth : Nat) :
    SteadyItems true (tableItems depth) Eq := by
  refine (steady_versionReader depth).itemAt (by rfl) _ fun version => ?_
  refine (steady_string depth).itemAt (by rfl) _ fun summary => ?_
  refine (steady_string depth).itemAt (by rfl) _ fun localized => ?_
  refine (steady_verbsReader depth).itemAt (by rfl) _ fun verbs => ?_
  refine (Steady.listOf_eq steady_topicReader depth).itemAt? (by rfl)
    fun topics => ?_
  exact steadyItems_end rfl

theorem steady_tableReader (depth : Nat) : Steady tableReader depth Eq :=
  steady_listOrObject steady_tableItems steady_tableMembers depth

end OperatorConsole.CommandTable
