import OperatorConsole.Proofs.CommandTable.Kinds
import OperatorConsole.Proofs.Json.Slots

/-!
# Reading routes

A route is read in two steps.  Its kind may stand anywhere among its members, so
the others are kept as values of any type until all have been read.  These keep
the order of their entries, but nothing that is made of them does.
-/

namespace OperatorConsole.CommandTable

open Json

/-! ## What routes are made of -/

section Contents

variable {α : Type}

/-- What is made of a value does not depend on the order of its entries. -/
def IgnoresOrder (read : Value → Except Cause α) : Prop :=
  ∀ {left right : Value} {result : α}, left.Alike right →
    read left = .ok result → read right = .ok result

theorem stringOf_eq_ok_iff {value : Value} {text : String} :
    stringOf value = .ok text ↔ value = .string text := by
  cases value with
  | string content => simp [stringOf]
  | _ => simp [stringOf]

theorem eq_string_of_alike {value : Value} {text : String}
    (alike : Value.Alike (.string text) value) : value = .string text := by
  cases alike with
  | same => rfl

theorem ignoresOrder_stringOf : IgnoresOrder stringOf := by
  intro left right text alike read
  obtain rfl := stringOf_eq_ok_iff.mp read
  exact stringOf_eq_ok_iff.mpr (eq_string_of_alike alike)

/-- A value that says nothing. -/
def IsNothing (value : Value) : Prop :=
  value = .null ∨ value = .object []

theorem IsNothing.of_alike (left right : Value) (isNothing : IsNothing left)
    (alike : left.Alike right) : IsNothing right := by
  obtain rfl | rfl := isNothing
  · cases alike with
    | same => exact .inl rfl
  · cases alike with
    | same => exact .inr rfl
    | object rearranges =>
        obtain rfl := List.eq_nil_of_length_eq_zero rearranges.length_eq.symm
        exact .inr rfl

theorem resourceOf_object_eq_ok_iff {entries : List (String × Value)}
    {resource : Remote.Resource} :
    resourceOf (.object entries) = .ok resource ↔
      ∃ entry, entries = [entry] ∧ resourceNamed entry.1 = .ok resource ∧
        IsNothing entry.2 := by
  match entries with
  | [] => simp [resourceOf]
  | [(name, value)] =>
      constructor
      · intro succeeds
        obtain ⟨found, named, said⟩ := bind_eq_ok.mp succeeds
        split at said
        · cases said
          exact ⟨_, rfl, named, .inl rfl⟩
        · cases said
          exact ⟨_, rfl, named, .inr rfl⟩
        · cases said
      · rintro ⟨_, same, named, isNothing⟩
        obtain rfl := List.singleton_inj.mp same
        refine bind_eq_ok.mpr ⟨resource, named, ?_⟩
        obtain rfl | rfl := isNothing
        · rfl
        · rfl
  | _ :: _ :: _ => simp [resourceOf]

theorem ignoresOrder_resourceOf : IgnoresOrder resourceOf := by
  intro left right resource alike read
  cases alike with
  | same => exact read
  | array => simp [resourceOf] at read
  | object rearranges =>
      obtain ⟨entry, single, named, isNothing⟩ :=
        resourceOf_object_eq_ok_iff.mp read
      obtain ⟨other, otherSingle, sameName, isOther⟩ :=
        rearranges.exists_singleton IsNothing.of_alike single isNothing
      exact resourceOf_object_eq_ok_iff.mpr
        ⟨other, otherSingle, sameName ▸ named, isOther⟩

theorem soleItem_eq_ok_iff {kind : String} {read : Value → Except Cause α}
    {values : List Value} {result : α} :
    soleItem kind read values = .ok result ↔
      ∃ value, values = [value] ∧ read value = .ok result := by
  match values with
  | [] => simp [soleItem]
  | [value] => simp [soleItem]
  | first :: second :: others =>
      constructor
      · intro succeeds
        obtain ⟨_, _, failed⟩ := bind_eq_ok.mp succeeds
        cases failed
      · rintro ⟨_, same, _⟩
        cases same

section Members

variable {name : String} {read : Value → Except Cause α} {seen : Option α}
  {entry : String × Value} {entries others : List (String × Value)}
  {result : α}

theorem soleMember_of_ne (different : entry.1 ≠ name) :
    soleMember name read seen (entry :: entries) =
      soleMember name read seen entries := by
  rw [soleMember, if_pos different]

theorem soleMember_of_eq (isName : entry.1 = name) :
    soleMember name read seen (entry :: entries) = .ok result ↔
      seen = none ∧ ∃ found, read entry.2 = .ok found ∧
        soleMember name read (some found) entries = .ok result := by
  rw [soleMember, if_neg (not_not.mpr isName)]
  cases seen with
  | none => simp [bind_eq_ok]
  | some _ => simp

/-- A second member with this name is refused, so the first one may stand
anywhere. -/
theorem soleMember_of_rearranges (ignoresOrder : IgnoresOrder read)
    (rearranges : AlikeEntries Value.Alike entries others) :
    ∀ {seen : Option α}, soleMember name read seen entries = .ok result →
      soleMember name read seen others = .ok result := by
  induction rearranges with
  | nil => exact fun succeeds => succeeds
  | @cons entry other _ _ sameName alike _ induction =>
      intro seen succeeds
      by_cases isName : entry.1 = name
      · obtain ⟨rfl, found, reads, later⟩ :=
          (soleMember_of_eq isName).mp succeeds
        exact (soleMember_of_eq (sameName ▸ isName)).mpr
          ⟨rfl, found, ignoresOrder alike reads, induction later⟩
      · rw [soleMember_of_ne isName] at succeeds
        rw [soleMember_of_ne (sameName ▸ isName)]
        exact induction succeeds
  | @swap first second different rest =>
      intro seen succeeds
      by_cases isFirst : first.1 = name
      · have notSecond : second.1 ≠ name := isFirst ▸ different.symm
        rw [soleMember_of_ne notSecond]
        simp only [soleMember_of_eq isFirst, soleMember_of_ne notSecond]
          at succeeds ⊢
        exact succeeds
      · rw [soleMember_of_ne isFirst] at succeeds
        by_cases isSecond : second.1 = name
        · simp only [soleMember_of_eq isSecond, soleMember_of_ne isFirst]
            at succeeds ⊢
          exact succeeds
        · rw [soleMember_of_ne isSecond] at succeeds ⊢
          rw [soleMember_of_ne isFirst]
          exact succeeds
  | trans _ _ first second => exact fun succeeds => second (first succeeds)

end Members

/-- Contents that differ in the order of entries. -/
inductive RouteContent.Alike : RouteContent → RouteContent → Prop where
  | items {values others : List Value}
      (itemwise : List.Forall₂ Value.Alike values others) :
      RouteContent.Alike (.items values) (.items others)
  | members {entries others : List (String × Value)}
      (rearranges : AlikeEntries Value.Alike entries others) :
      RouteContent.Alike (.members entries) (.members others)

variable {left right : RouteContent}

theorem soleContent_of_alike {kind name : String}
    {read : Value → Except Cause α} (ignoresOrder : IgnoresOrder read)
    (alike : left.Alike right) {result : α}
    (succeeds : soleContent kind name read left = .ok result) :
    soleContent kind name read right = .ok result := by
  cases alike with
  | items itemwise =>
      obtain ⟨value, rfl, reads⟩ := soleItem_eq_ok_iff.mp succeeds
      obtain ⟨other, _, alike, ends, rfl⟩ :=
        List.forall₂_cons_left_iff.mp itemwise
      obtain rfl := List.forall₂_nil_left_iff.mp ends
      change soleItem kind read [other] = .ok result
      exact soleItem_eq_ok_iff.mpr ⟨other, rfl, ignoresOrder alike reads⟩
  | members rearranges =>
      exact soleMember_of_rearranges ignoresOrder rearranges succeeds

theorem mapContent_of_alike {kind name : String}
    {read : Value → Except Cause α} (ignoresOrder : IgnoresOrder read)
    (alike : left.Alike right) {store : α → VerbRoute} {route : VerbRoute}
    (succeeds : (soleContent kind name read left).map store = .ok route) :
    (soleContent kind name read right).map store = .ok route := by
  obtain ⟨found, reads, rfl⟩ := map_eq_ok.mp succeeds
  exact map_eq_ok.mpr
    ⟨found, soleContent_of_alike ignoresOrder alike reads, rfl⟩

theorem noContent_of_alike (alike : left.Alike right) {route made : VerbRoute}
    (succeeds : noContent route left = .ok made) :
    noContent route right = .ok made := by
  cases alike with
  | items itemwise =>
      cases itemwise with
      | nil => exact succeeds
      | cons => cases succeeds
  | members => exact succeeds

/-- The content of a route may stand in any order. -/
theorem routeOf_of_alike {kind : String} (alike : left.Alike right)
    {route : VerbRoute} (succeeds : routeOf kind left = .ok route) :
    routeOf kind right = .ok route := by
  unfold routeOf at succeeds ⊢
  split_ifs at succeeds ⊢
  · exact noContent_of_alike alike succeeds
  · exact noContent_of_alike alike succeeds
  · exact mapContent_of_alike ignoresOrder_resourceOf alike succeeds
  · exact mapContent_of_alike ignoresOrder_stringOf alike succeeds
  · exact mapContent_of_alike ignoresOrder_stringOf alike succeeds

end Contents

/-! ## Routes -/

/-- A kind and contents that differ in the order of entries. -/
structure AlikeRoute (left right : String × RouteContent) : Prop where
  kind : left.1 = right.1
  content : left.2.Alike right.2

theorem steady_routeItems (depth : Nat) :
    SteadyItems true (routeItems depth) AlikeRoute := by
  refine (steady_kindName routeKinds depth).itemAt? (by rfl) fun found => ?_
  cases found with
  | none => exact steadyItems_fail
  | some kind =>
      have keeps (left right : List Value)
          (itemwise : List.Forall₂ Value.Alike left right) :
          AlikeRoute (kind, .items left) (kind, .items right) :=
        ⟨rfl, .items itemwise⟩
      exact ((steady_value depth).itemsFrom false).into keeps

/-- The kind of a route, among its members. -/
def RouteMembers.kindSlot : Slot RouteMembers where
  Content := String
  name := "kind"
  get := RouteMembers.kind
  set := fun state kind => { state with kind := some kind }
  reader := kindName routeKinds

def RouteMembers.keep (state : RouteMembers) (name : String) (value : Value) :
    RouteMembers :=
  { state with others := (name, value) :: state.others }

theorem routePlan_eq :
    RouteMembers.plan = RouteMembers.kindSlot.plan fun state name =>
      .read (value.into (state.keep name)) := rfl

/-- A member that is no kind is kept as it stands. -/
def RouteMembers.Keeps (depth : Nat) (state : RouteMembers) (name : String)
    (text : List Char) (next : RouteMembers) : Prop :=
  ∃ found, Alone value depth text found ∧ state.keep name found = next

/-- Members that differ in the order of entries. -/
structure RouteMembers.Alike (left right : RouteMembers) : Prop where
  kind : left.kind = right.kind
  others : AlikeEntries Value.Alike left.others right.others

theorem orderly_keeps (depth : Nat) :
    Orderly (RouteMembers.Keeps depth) RouteMembers.Alike where
  refl := fun state => ⟨rfl, .refl Value.Alike.same state.others⟩
  trans := fun first second =>
    ⟨first.kind.trans second.kind, first.others.trans second.others⟩
  follows := by
    rintro state other _ name text again isAlike alike ⟨found, said, rfl⟩
    obtain ⟨result, saidAgain, resultAlike⟩ :=
      (steady_value depth).keeps alike said
    exact ⟨_, ⟨result, saidAgain, rfl⟩, isAlike.kind,
      .cons rfl resultAlike isAlike.others⟩
  commutes := by
    rintro state _ _ name other text otherText different
      ⟨found, said, rfl⟩ ⟨otherFound, otherSaid, rfl⟩
    exact ⟨_, _, ⟨otherFound, otherSaid, rfl⟩, ⟨found, said, rfl⟩, rfl,
      .swap different.symm state.others⟩

theorem untouched_kindSlot (depth : Nat) :
    RouteMembers.kindSlot.Untouched (RouteMembers.Keeps depth) where
  get := by
    rintro state _ name text ⟨found, _, rfl⟩
    rfl
  set := by
    intro state next name text kind
    constructor
    · rintro ⟨found, said, rfl⟩
      exact ⟨_, ⟨found, said, rfl⟩, rfl⟩
    · rintro ⟨_, ⟨found, said, rfl⟩, rfl⟩
      exact ⟨found, said, rfl⟩

theorem obeys_routePlan (depth : Nat) (state : RouteMembers) (name : String) :
    (state.plan name).Obeys depth state
      (RouteMembers.kindSlot.Does depth (RouteMembers.Keeps depth)
        state name) := by
  rw [routePlan_eq]
  refine Slot.obeys (steady_kindName routeKinds depth) ?_ state name
  exact fun state name => (steady_value depth).parses.into (state.keep name)

theorem orderly_route (depth : Nat) :
    Orderly (RouteMembers.kindSlot.Does depth (RouteMembers.Keeps depth))
      RouteMembers.Alike :=
  Slot.orderly (steady_kindName routeKinds depth) (orderly_keeps depth)
    (untouched_kindSlot depth) RouteMembers.Alike.kind
    fun _ isAlike => ⟨rfl, isAlike.others⟩

theorem steady_routeMembers (depth : Nat) :
    SteadyMembers (routeMembers depth) AlikeRoute := by
  have members :=
    steady_members (obeys_routePlan depth) (orderly_route depth) ⟨none, []⟩
  refine members.andThen (fun state route =>
    state.kind = some route.1 ∧ .members state.others.reverse = route.2) ?_ ?_
  · rintro state cs rest ⟨kind, content⟩
    constructor
    · intro succeeds
      obtain ⟨found, present, ended⟩ := bind_eq_ok.mp succeeds
      cases ended
      exact ⟨⟨required_eq_ok_iff.mp present, rfl⟩, rfl⟩
    · rintro ⟨⟨present, rfl⟩, rfl⟩
      exact bind_eq_ok.mpr ⟨kind, required_eq_ok_iff.mpr present, rfl⟩
  · rintro left right ⟨kind, _⟩ alike ⟨isKind, rfl⟩
    exact ⟨(kind, .members right.others.reverse),
      ⟨alike.kind.symm.trans isKind, rfl⟩, rfl,
      .members (alike.others.reverse Value.Alike.same Ne.symm)⟩

theorem steady_routeReader (depth : Nat) : Steady routeReader depth Eq := by
  have contents : Steady
      (container "internally tagged enum VerbRoute"
        (some routeItems) (some routeMembers)) depth AlikeRoute :=
    steady_listOrObject steady_routeItems steady_routeMembers depth
  refine contents.andThen
    (fun parts route => routeOf parts.1 parts.2 = .ok route) ?_ ?_
  · rintro ⟨kind, content⟩ cs rest route
    dsimp only
    cases routeOf kind content with
    | error cause => simp
    | ok found => simp [eq_comm]
  · rintro left right route alike made
    rw [alike.kind] at made
    exact ⟨route, routeOf_of_alike alike.content made, rfl⟩

end OperatorConsole.CommandTable
