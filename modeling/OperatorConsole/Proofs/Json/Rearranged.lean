import OperatorConsole.Proofs.Json.Parsing

/-!
# Members in another order

A text is rearranged by putting members of its objects into another order, at
any depth.  Two members with the same name must stay in their order, since the
later one may count.  What is gathered from the members is then related to what
it was, if that holds of two members next to each other.
-/

namespace OperatorConsole.Json

/-! ## Rearranged lists -/

/-- Entries with names that are apart may be put into another order, and values
may be replaced by those that are alike. -/
inductive Rearranges {α κ β : Type} (name : α → κ) (value : α → β)
    (apart : κ → κ → Prop) (alike : β → β → Prop) : List α → List α → Prop where
  | nil : Rearranges name value apart alike [] []
  | cons {a b : α} {as bs : List α} (sameName : name a = name b)
      (alikeValues : alike (value a) (value b))
      (later : Rearranges name value apart alike as bs) :
      Rearranges name value apart alike (a :: as) (b :: bs)
  | swap {a b : α} (different : apart (name a) (name b)) (rest : List α) :
      Rearranges name value apart alike (a :: b :: rest) (b :: a :: rest)
  | trans {as bs cs : List α}
      (first : Rearranges name value apart alike as bs)
      (second : Rearranges name value apart alike bs cs) :
      Rearranges name value apart alike as cs

namespace Rearranges

variable {α κ β : Type} {name : α → κ} {value : α → β}
  {apart : κ → κ → Prop} {alike : β → β → Prop} {as bs : List α}

theorem refl (alikeSelf : ∀ b, alike b b) (as : List α) :
    Rearranges name value apart alike as as := by
  induction as with
  | nil => exact .nil
  | cons a as induction => exact .cons rfl (alikeSelf _) induction

theorem append_left (alikeSelf : ∀ b, alike b b)
    (rearranges : Rearranges name value apart alike as bs) (front : List α) :
    Rearranges name value apart alike (front ++ as) (front ++ bs) := by
  induction front with
  | nil => exact rearranges
  | cons a front induction => exact .cons rfl (alikeSelf _) induction

theorem append_right (rearranges : Rearranges name value apart alike as bs)
    (alikeSelf : ∀ b, alike b b) (back : List α) :
    Rearranges name value apart alike (as ++ back) (bs ++ back) := by
  induction rearranges with
  | nil => exact refl alikeSelf back
  | cons sameName alikeValues _ induction =>
      exact .cons sameName alikeValues induction
  | swap different rest => exact .swap different (rest ++ back)
  | trans _ _ first second => exact .trans first second

theorem reverse (alikeSelf : ∀ b, alike b b)
    (apartSymm : ∀ {left right : κ}, apart left right → apart right left)
    (rearranges : Rearranges name value apart alike as bs) :
    Rearranges name value apart alike as.reverse bs.reverse := by
  induction rearranges with
  | nil => exact .nil
  | @cons a b as bs sameName alikeValues _ induction =>
      rw [List.reverse_cons, List.reverse_cons]
      refine .trans (induction.append_right alikeSelf [a]) ?_
      exact append_left alikeSelf (.cons sameName alikeValues .nil) _
  | swap different rest =>
      simp only [List.reverse_cons, List.append_assoc, List.cons_append,
        List.nil_append]
      exact append_left alikeSelf (.swap (apartSymm different) []) _
  | trans _ _ first second => exact .trans first second

theorem length_eq (rearranges : Rearranges name value apart alike as bs) :
    as.length = bs.length := by
  induction rearranges with
  | nil => rfl
  | cons _ _ _ induction =>
      rw [List.length_cons, List.length_cons, induction]
  | swap => rfl
  | trans _ _ first second => exact first.trans second

/-- One entry alone stays where it is. -/
theorem exists_singleton {good : β → Prop}
    (kept : ∀ left right, good left → alike left right → good right)
    {a : α} (rearranges : Rearranges name value apart alike as bs)
    (single : as = [a]) (isGood : good (value a)) :
    ∃ b, bs = [b] ∧ name b = name a ∧ good (value b) := by
  induction rearranges generalizing a with
  | nil => cases single
  | @cons _ b _ _ sameName alikeValues later _ =>
      obtain ⟨rfl, rfl⟩ := List.cons.inj single
      obtain rfl := List.eq_nil_of_length_eq_zero later.length_eq.symm
      exact ⟨b, rfl, sameName.symm, kept _ _ isGood alikeValues⟩
  | swap => cases single
  | trans _ _ first second =>
      obtain ⟨b, rfl, sameName, isGood⟩ := first single isGood
      obtain ⟨c, rfl, again, isGood⟩ := second rfl isGood
      exact ⟨c, rfl, again.trans sameName, isGood⟩

end Rearranges

/-! ## Rearranged texts -/

/-- Names that do not spell the same text. -/
def Apart (left right : List Char) : Prop :=
  ∀ text, Spells left text → ¬Spells right text

theorem Spells.apart {left right text other : List Char}
    (leftSpells : Spells left text) (rightSpells : Spells right other)
    (different : text ≠ other) : Apart left right := by
  intro common leftCommon rightCommon
  exact different ((leftSpells.unique leftCommon).trans
    (rightCommon.unique rightSpells))

/-- Values that differ in the order of members, and in blanks. -/
inductive Alike : List Char → List Char → Prop where
  | same (text : List Char) : Alike text text
  | list {items others : List (List Char)} {text other : List Char}
      (isList : IsList items text) (isOther : IsList others other)
      (itemwise : List.Forall₂ Alike items others) : Alike text other
  | object {members others : List Member} {text other : List Char}
      (isObject : IsObject members text) (isOther : IsObject others other)
      (rearranges : Rearranges Member.name Member.value Apart Alike
        members others) : Alike text other

/-- The members of an object may stand in another order. -/
abbrev AlikeMembers (members others : List Member) : Prop :=
  Rearranges Member.name Member.value Apart Alike members others

section Alike

variable {text other : List Char}

theorem Alike.isValue (alike : Alike text other) (isValue : IsValue text) :
    IsValue other := by
  cases alike with
  | same => exact isValue
  | list _ isOther _ => exact isOther.isValue
  | object _ isOther _ => exact .object isOther

theorem IsList.begins {items : List (List Char)} (isList : IsList items text) :
    ∃ more, text = '[' :: more := by
  obtain ⟨inside, _, rfl⟩ := isList
  exact ⟨_, rfl⟩

/-- A text that begins no list and no object. -/
def IsScalar (text : List Char) : Prop :=
  text.head? ≠ some '[' ∧ text.head? ≠ some '{'

/-- Nothing but lists and objects can be rearranged. -/
theorem Alike.eq_of_isScalar (alike : Alike text other)
    (isScalar : IsScalar text) : other = text := by
  cases alike with
  | same => rfl
  | list isList _ _ =>
      obtain ⟨more, rfl⟩ := isList.begins
      exact absurd rfl isScalar.1
  | object isObject _ _ =>
      obtain ⟨more, rfl⟩ := isObject.begins
      exact absurd rfl isScalar.2

theorem Alike.exists_items (alike : Alike text other)
    {items : List (List Char)} (isList : IsList items text) :
    ∃ others, IsList others other ∧ List.Forall₂ Alike items others := by
  cases alike with
  | same =>
      exact ⟨items, isList, List.forall₂_same.mpr fun _ _ => .same _⟩
  | list isSame isOther itemwise =>
      obtain rfl := isList.unique isSame
      exact ⟨_, isOther, itemwise⟩
  | object isObject _ _ =>
      obtain ⟨more, rfl⟩ := isList.begins
      obtain ⟨_, same⟩ := isObject.begins
      cases same

theorem Alike.exists_members (alike : Alike text other)
    {members : List Member} (isObject : IsObject members text) :
    ∃ others, IsObject others other ∧ AlikeMembers members others := by
  cases alike with
  | same => exact ⟨members, isObject, .refl Alike.same members⟩
  | list isList _ _ =>
      obtain ⟨more, rfl⟩ := isList.begins
      obtain ⟨_, same⟩ := isObject.begins
      cases same
  | object isSame isOther rearranges =>
      obtain rfl := isObject.unique isSame (rfl : text ++ [] = text ++ [])
      exact ⟨_, isOther, rearranges⟩

end Alike

/-! ## Objects without blanks -/

def membersText : List Member → List Char
  | [] => []
  | [member] => quoted member.name ++ ':' :: member.value
  | member :: others =>
      quoted member.name ++ ':' :: (member.value ++ ',' :: membersText others)

def objectText (members : List Member) : List Char :=
  '{' :: (membersText members ++ ['}'])

/-- What stands in the place of a member is one. -/
structure Member.IsSound (member : Member) : Prop where
  name : IsString member.name
  value : IsValue member.value

theorem Padded.refl (text : List Char) : Padded text text :=
  ⟨[], [], blanks_nil, blanks_nil, (List.append_nil text).symm⟩

theorem areMembers_membersText {member : Member} {others : List Member}
    (sound : ∀ other ∈ member :: others, other.IsSound) :
    IsMembers (member :: others) (membersText (member :: others)) := by
  obtain ⟨memberSound, othersSound⟩ := List.forall_mem_cons.mp sound
  cases others with
  | nil => exact .last memberSound.name (.refl _) memberSound.value (.refl _)
  | cons other others =>
      exact .more memberSound.name (.refl _) memberSound.value (.refl _)
        (areMembers_membersText othersSound)

theorem isObject_objectText {members : List Member}
    (sound : ∀ member ∈ members, member.IsSound) :
    IsObject members (objectText members) := by
  cases members with
  | nil => exact .empty blanks_nil
  | cons member others => exact .members (areMembers_membersText sound)

theorem AlikeMembers.alike {members others : List Member}
    (rearranges : AlikeMembers members others)
    (sound : ∀ member ∈ members, member.IsSound)
    (othersSound : ∀ other ∈ others, other.IsSound) :
    Alike (objectText members) (objectText others) :=
  .object (isObject_objectText sound) (isObject_objectText othersSound)
    rearranges

/-! ## What is gathered -/

/-- What is done with a member keeps states related, and members with other
names may be taken in either order. -/
structure Orderly {σ : Type} (does : σ → String → List Char → σ → Prop)
    (related : σ → σ → Prop) : Prop where
  refl : ∀ state, related state state
  trans : ∀ {first second third : σ}, related first second →
    related second third → related first third
  follows : ∀ {state other next : σ} {name : String} {text again : List Char},
    related state other → Alike text again → does state name text next →
      ∃ result, does other name again result ∧ related next result
  commutes : ∀ {state middle last : σ} {name other : String}
    {text otherText : List Char}, name ≠ other →
      does state name text middle → does middle other otherText last →
        ∃ between result, does state other otherText between ∧
          does between name text result ∧ related last result

section Gathering

variable {σ : Type} {does : σ → String → List Char → σ → Prop}
  {related : σ → σ → Prop} (orderly : Orderly does related)

include orderly

theorem Gathers.follow {members : List Member} {state other last : σ}
    (gathers : Gathers does state members last)
    (isRelated : related state other) :
    ∃ result, Gathers does other members result ∧ related last result := by
  induction gathers generalizing other with
  | none => exact ⟨other, .none other, isRelated⟩
  | member named done _ induction =>
      obtain ⟨next, again, nextRelated⟩ :=
        orderly.follows isRelated (.same _) done
      obtain ⟨result, later, resultRelated⟩ := induction nextRelated
      exact ⟨result, .member named again later, resultRelated⟩

/-- The members may be gathered in any order. -/
theorem Gathers.rearranged {members others : List Member}
    (rearranges : AlikeMembers members others) :
    ∀ {state other last : σ}, Gathers does state members last →
      related state other →
        ∃ result, Gathers does other others result ∧ related last result := by
  induction rearranges with
  | nil =>
      intro state other last gathers isRelated
      exact gathers.follow orderly isRelated
  | cons sameName alikeValues _ induction =>
      intro state other last gathers isRelated
      cases gathers with
      | member named done later =>
          obtain ⟨next, again, nextRelated⟩ :=
            orderly.follows isRelated alikeValues done
          obtain ⟨result, gathered, resultRelated⟩ :=
            induction later nextRelated
          exact ⟨result, .member (sameName ▸ named) again gathered,
            resultRelated⟩
  | swap apart rest =>
      intro state other last gathers isRelated
      cases gathers with
      | @member _ _ _ name _ _ named done gathers =>
          cases gathers with
          | @member _ _ _ next _ _ nextNamed nextDone later =>
              have different : name ≠ next := by
                rintro rfl
                exact apart _ named nextNamed
              obtain ⟨between, moved, first, second, movedRelated⟩ :=
                orderly.commutes different done nextDone
              obtain ⟨result, later, lastRelated⟩ :=
                later.follow orderly movedRelated
              have swapped : Gathers does state _ result :=
                .member nextNamed first (.member named second later)
              obtain ⟨final, gathered, finalRelated⟩ :=
                swapped.follow orderly isRelated
              exact ⟨final, gathered, orderly.trans lastRelated finalRelated⟩
  | trans _ _ first second =>
      intro state other last gathers isRelated
      obtain ⟨middle, gathered, middleRelated⟩ := first gathers isRelated
      obtain ⟨result, gathered, resultRelated⟩ :=
        second gathered (orderly.refl other)
      exact ⟨result, gathered, orderly.trans middleRelated resultRelated⟩

end Gathering

/-- The entries of an object stand in the order of its members. -/
theorem orderly_entries {α : Type} {denotes : List Char → α → Prop}
    {related : α → α → Prop} (relatedSelf : ∀ value, related value value)
    (keeps : ∀ {text other : List Char} {value : α}, Alike text other →
      denotes text value → ∃ result, denotes other result ∧
        related value result) :
    Orderly (Enters denotes)
      (Rearranges Prod.fst Prod.snd (· ≠ ·) related) where
  refl := .refl relatedSelf
  trans := .trans
  follows := by
    rintro entries others _ name text again rearranges alike
      ⟨value, said, rfl⟩
    obtain ⟨result, saidAgain, isRelated⟩ := keeps alike said
    exact ⟨_, ⟨result, saidAgain, rfl⟩, .cons rfl isRelated rearranges⟩
  commutes := by
    rintro entries _ _ name other text otherText different
      ⟨value, said, rfl⟩ ⟨otherValue, otherSaid, rfl⟩
    exact ⟨_, _, ⟨otherValue, otherSaid, rfl⟩, ⟨value, said, rfl⟩,
      .swap (Ne.symm different) entries⟩

end OperatorConsole.Json
