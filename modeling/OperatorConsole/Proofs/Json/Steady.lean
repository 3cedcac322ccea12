import OperatorConsole.Proofs.Json.Rearranged

/-!
# Steady readers

A reader is steady if rearranging its text makes no difference to it, or none
but one that is known.  Scalars cannot be rearranged.  A reader of containers is
steady if what reads the contents is, and a reader of any value is, but for the
order of the entries.
-/

namespace OperatorConsole.Json

section Steady

variable {α β : Type} {depth : Nat} {related : α → α → Prop}
  {relatedLater : β → β → Prop}

/-- A reader makes related values of texts that are alike, wherever they
stand. -/
structure Steady (reader : Reader α) (depth : Nat)
    (related : α → α → Prop) : Prop where
  parses : Parses reader depth (Alone reader depth)
  keeps : ∀ {text other : List Char} {value : α}, Alike text other →
    Alone reader depth text value →
      ∃ result, Alone reader depth other result ∧ related value result

theorem Parses.steady {reader : Reader α} {denotes : List Char → α → Prop}
    (parses : Parses reader depth denotes)
    (keeps : ∀ {text other : List Char} {value : α}, Alike text other →
      denotes text value → ∃ result, denotes other result ∧
        related value result) : Steady reader depth related where
  parses := parses.alone
  keeps := by
    intro text other value alike alone
    obtain ⟨result, said, isRelated⟩ :=
      keeps alike (parses.alone_iff.mp alone)
    exact ⟨result, parses.alone_iff.mpr said, isRelated⟩

/-- Texts of scalars are not rearranged. -/
theorem Parses.steady_of_isScalar {reader : Reader α}
    {denotes : List Char → α → Prop} (parses : Parses reader depth denotes)
    (isScalar : ∀ {text : List Char} {value : α}, denotes text value →
      IsScalar text) : Steady reader depth Eq := by
  refine parses.steady ?_
  intro text other value alike said
  obtain rfl := alike.eq_of_isScalar (isScalar said)
  exact ⟨value, said, rfl⟩

/-- What is made of a value is related if the values are. -/
theorem Steady.andThen {reader : Reader α}
    (steady : Steady reader depth related)
    {next : WithRest α → Except Fault (WithRest β)} (makes : α → β → Prop)
    (later : ∀ value cs rest result,
      next (value, cs) = .ok (result, rest) ↔ makes value result ∧ rest = cs)
    (keeps : ∀ left right made, related left right → makes left made →
      ∃ again, makes right again ∧ relatedLater made again) :
    Steady (fun depth cs => reader depth cs >>= next) depth relatedLater := by
  refine (steady.parses.andThen makes later).steady ?_
  rintro text other made alike ⟨value, said, isMade⟩
  obtain ⟨result, again, isRelated⟩ := steady.keeps alike said
  obtain ⟨remade, makesAgain, madeRelated⟩ := keeps _ _ _ isRelated isMade
  exact ⟨remade, ⟨result, again, makesAgain⟩, madeRelated⟩

theorem Steady.andThen_eq {reader : Reader α} (steady : Steady reader depth Eq)
    {next : WithRest α → Except Fault (WithRest β)} (makes : α → β → Prop)
    (later : ∀ value cs rest result,
      next (value, cs) = .ok (result, rest) ↔ makes value result ∧ rest = cs) :
    Steady (fun depth cs => reader depth cs >>= next) depth Eq := by
  refine steady.andThen makes later ?_
  rintro left _ made rfl isMade
  exact ⟨made, isMade, rfl⟩

theorem Steady.into {reader : Reader α} (steady : Steady reader depth related)
    {store : α → β}
    (keeps : ∀ left right, related left right →
      relatedLater (store left) (store right)) :
    Steady (reader.into store) depth relatedLater := by
  refine (steady.parses.into store).steady ?_
  rintro text other _ alike ⟨value, said, rfl⟩
  obtain ⟨result, again, isRelated⟩ := steady.keeps alike said
  exact ⟨store result, ⟨result, again, rfl⟩, keeps _ _ isRelated⟩

theorem Steady.into_eq {reader : Reader α} (steady : Steady reader depth Eq)
    (store : α → β) : Steady (reader.into store) depth Eq :=
  steady.into fun _ _ => congrArg store

/-! ## Scalars -/

theorem isScalar_quoted (content : List Char) : IsScalar (quoted content) := by
  simp [IsScalar, quoted]

theorem IsNumberFor.isScalar {text : List Char} {number : Number}
    (isFor : IsNumberFor text number) : IsScalar text := by
  cases isFor with
  | positive isMagnitude _ =>
      obtain ⟨c, more, rfl, digit⟩ := isMagnitude.head
      have notList : c ≠ '[' := ne_of_isDigit digit rfl
      have notObject : c ≠ '{' := ne_of_isDigit digit rfl
      simp [IsScalar, notList, notObject]
  | negative _ _ => simp [IsScalar]

theorem steady_stringAs (expected : String) (depth : Nat) :
    Steady (stringAs expected) depth Eq := by
  refine (parses_stringAs expected depth).steady_of_isScalar ?_
  rintro text value ⟨content, _, rfl⟩
  exact isScalar_quoted content

theorem steady_string (depth : Nat) : Steady string depth Eq :=
  steady_stringAs "a string" depth

theorem steady_whole (least greatest : Int) (expected : String) (depth : Nat) :
    Steady (whole least greatest expected) depth Eq :=
  (parses_whole least greatest expected depth).steady_of_isScalar
    fun said => said.1.isScalar

theorem steady_optionalString (depth : Nat) :
    Steady (optional string) depth Eq := by
  have parses := (parses_string depth).optional (by
    rintro text value ⟨content, _, rfl⟩
    simp [quoted])
  refine parses.steady_of_isScalar ?_
  rintro text value (⟨rfl, _⟩ | ⟨_, _, content, _, rfl⟩)
  · simp [IsScalar]
  · exact isScalar_quoted content

/-! ## Containers -/

/-- What is read from the contents of a list is related to what is read from
those of one with items that are alike. -/
def SteadyItems (first : Bool)
    (contents : List Char → Except Fault (WithRest α))
    (related : α → α → Prop) : Prop :=
  ∃ means, ParsesItems first contents means ∧
    ∀ {items others : List (List Char)} {value : α},
      List.Forall₂ Alike items others → means items value →
        ∃ result, means others result ∧ related value result

/-- What is read from the contents of an object is related to what is read from
them in another order. -/
def SteadyMembers (contents : List Char → Except Fault (WithRest α))
    (related : α → α → Prop) : Prop :=
  ∃ means, ParsesMembers contents means ∧
    ∀ {members others : List Member} {value : α},
      AlikeMembers members others → means members value →
        ∃ result, means others result ∧ related value result

theorem exists_readsList {ofList : Option (Reader α)}
    (lists : ∀ contents, ofList = some contents →
      SteadyItems true (contents depth) related) :
    ∃ means, ReadsList depth means ofList ∧
      ∀ {items others : List (List Char)} {value : α},
        List.Forall₂ Alike items others → means items value →
          ∃ result, means others result ∧ related value result := by
  cases ofList with
  | none =>
      exact ⟨fun _ _ => False, fun _ _ impossible => impossible,
        fun _ impossible => impossible.elim⟩
  | some contents => exact lists contents rfl

theorem exists_readsObject {ofObject : Option (Reader α)}
    (objects : ∀ contents, ofObject = some contents →
      SteadyMembers (contents depth) related) :
    ∃ means, ReadsObject depth means ofObject ∧
      ∀ {members others : List Member} {value : α},
        AlikeMembers members others → means members value →
          ∃ result, means others result ∧ related value result := by
  cases ofObject with
  | none =>
      exact ⟨fun _ _ => False, fun _ _ impossible => impossible,
        fun _ impossible => impossible.elim⟩
  | some contents => exact objects contents rfl

theorem steady_container {expected : String}
    {ofList ofObject : Option (Reader α)}
    (lists : ∀ contents, ofList = some contents →
      SteadyItems true (contents (depth - 1)) related)
    (objects : ∀ contents, ofObject = some contents →
      SteadyMembers (contents (depth - 1)) related) :
    Steady (container expected ofList ofObject) depth related := by
  obtain ⟨listMeans, readsList, keepsList⟩ := exists_readsList lists
  obtain ⟨objectMeans, readsObject, keepsObject⟩ := exists_readsObject objects
  refine (parses_container readsList readsObject).steady ?_
  rintro text other value alike ⟨deep, ⟨items, isList, meant⟩ |
    ⟨members, isObject, meant⟩⟩
  · obtain ⟨others, isOther, itemwise⟩ := alike.exists_items isList
    obtain ⟨result, again, isRelated⟩ := keepsList itemwise meant
    exact ⟨result, ⟨deep, .inl ⟨others, isOther, again⟩⟩, isRelated⟩
  · obtain ⟨others, isOther, rearranges⟩ := alike.exists_members isObject
    obtain ⟨result, again, isRelated⟩ := keepsObject rearranges meant
    exact ⟨result, ⟨deep, .inr ⟨others, isOther, again⟩⟩, isRelated⟩

theorem steady_listOrObject {expected : String}
    {listContents objectContents : Reader α}
    (items : ∀ depth, SteadyItems true (listContents depth) related)
    (members : ∀ depth, SteadyMembers (objectContents depth) related)
    (depth : Nat) :
    Steady (container expected (some listContents) (some objectContents)) depth
      related := by
  refine steady_container ?_ ?_
  · rintro _ ⟨⟩
    exact items (depth - 1)
  · rintro _ ⟨⟩
    exact members (depth - 1)

/-! ## Items -/

section Items

variable {first : Bool}

theorem steadyItems_end {value : α} (relatedSelf : related value value) :
    SteadyItems first (fun cs => .ok (value, cs)) related := by
  refine ⟨_, parsesItems_end value, ?_⟩
  rintro items others _ itemwise ⟨rfl, rfl⟩
  obtain rfl := List.forall₂_nil_left_iff.mp itemwise
  exact ⟨value, ⟨rfl, rfl⟩, relatedSelf⟩

theorem steadyItems_fail {fault : List Char → Fault} :
    SteadyItems first (fun cs => .error (fault cs)) related :=
  ⟨_, parsesItems_fail, fun _ impossible => impossible.elim⟩

theorem SteadyItems.into {contents : List Char → Except Fault (WithRest α)}
    (steady : SteadyItems first contents related) {store : α → β}
    (keeps : ∀ left right, related left right →
      relatedLater (store left) (store right)) :
    SteadyItems first
      (fun cs => do
        let (value, cs) ← contents cs
        return (store value, cs)) relatedLater := by
  obtain ⟨means, parses, again⟩ := steady
  refine ⟨_, parses.into store, ?_⟩
  rintro items others _ itemwise ⟨value, meant, rfl⟩
  obtain ⟨result, meantAgain, isRelated⟩ := again itemwise meant
  exact ⟨store result, ⟨result, meantAgain, rfl⟩, keeps _ _ isRelated⟩

/-- Items that are alike are said of values that are related, one by one. -/
theorem exists_forall₂ {denotes : List Char → α → Prop}
    (keeps : ∀ {text other : List Char} {value : α}, Alike text other →
      denotes text value → ∃ result, denotes other result ∧
        related value result)
    {items others : List (List Char)} {values : List α}
    (itemwise : List.Forall₂ Alike items others)
    (said : List.Forall₂ denotes items values) :
    ∃ results, List.Forall₂ denotes others results ∧
      List.Forall₂ related values results := by
  induction itemwise generalizing values with
  | nil =>
      cases said
      exact ⟨[], .nil, .nil⟩
  | cons alike _ induction =>
      cases said with
      | cons valueSaid said =>
          obtain ⟨result, again, isRelated⟩ := keeps alike valueSaid
          obtain ⟨results, saidAgain, areRelated⟩ := induction said
          exact ⟨result :: results, .cons again saidAgain,
            .cons isRelated areRelated⟩

section OneItem

variable {item : Reader α} (steady : Steady item depth Eq) {index : Nat}
  (isFirst : (index == 0) = first)

include steady isFirst

theorem Steady.itemAt?
    {next : WithRest (Option α) → Except Fault (WithRest β)}
    (later : ∀ found,
      SteadyItems false (fun cs => next (found, cs)) relatedLater) :
    SteadyItems first (fun cs => Json.itemAt? index item depth cs >>= next)
      relatedLater := by
  choose means parses again using later
  refine ⟨_, steady.parses.itemAt? isFirst parses, ?_⟩
  rintro items others made itemwise
    (⟨rfl, meant⟩ | ⟨text, more, value, rfl, said, meant⟩)
  · obtain rfl := List.forall₂_nil_left_iff.mp itemwise
    obtain ⟨result, meantAgain, isRelated⟩ := again none .nil meant
    exact ⟨result, .inl ⟨rfl, meantAgain⟩, isRelated⟩
  · obtain ⟨other, behind, alike, behindAlike, rfl⟩ :=
      List.forall₂_cons_left_iff.mp itemwise
    obtain ⟨_, saidAgain, rfl⟩ := steady.keeps alike said
    obtain ⟨result, meantAgain, isRelated⟩ := again _ behindAlike meant
    exact ⟨result, .inr ⟨other, behind, value, rfl, saidAgain, meantAgain⟩,
      isRelated⟩

theorem Steady.itemAt (expected : String)
    {next : WithRest α → Except Fault (WithRest β)}
    (later : ∀ value,
      SteadyItems false (fun cs => next (value, cs)) relatedLater) :
    SteadyItems first
      (fun cs => Json.itemAt index expected item depth cs >>= next)
      relatedLater := by
  rw [itemAt_bind]
  refine steady.itemAt? isFirst fun found => ?_
  cases found with
  | none => exact steadyItems_fail
  | some value => exact later value

end OneItem

theorem Steady.itemsFrom {item : Reader α} (steady : Steady item depth related)
    (first : Bool) :
    SteadyItems first
      (fun cs => Json.itemsFrom item depth (cs.length + 1) first cs)
      (List.Forall₂ related) :=
  ⟨_, steady.parses.itemsFrom first, exists_forall₂ steady.keeps⟩

theorem Steady.listOf {item : Reader α}
    (steady : ∀ depth, Steady item depth related) (depth : Nat) :
    Steady (listOf item) depth (List.Forall₂ related) := by
  refine steady_container ?_ ?_
  · rintro _ ⟨⟩
    exact (steady _).itemsFrom true
  · rintro _ ⟨⟩

end Items

theorem Steady.listOf_eq {item : Reader α}
    (steady : ∀ depth, Steady item depth Eq) (depth : Nat) :
    Steady (Json.listOf item) depth Eq := by
  have itemwise := Steady.listOf steady depth
  rwa [List.forall₂_eq_eq_eq] at itemwise

/-! ## Members -/

theorem steady_members {plan : α → String → MemberPlan α}
    {does : α → String → List Char → α → Prop}
    (obeys : ∀ state name,
      (plan state name).Obeys depth state (does state name))
    (orderly : Orderly does related) (start : α) :
    SteadyMembers (members plan start depth) related :=
  ⟨_, parsesMembers_of_obeys start obeys, fun rearranges gathers =>
    gathers.rearranged orderly rearranges (orderly.refl start)⟩

theorem SteadyMembers.andThen
    {contents : List Char → Except Fault (WithRest α)}
    (steady : SteadyMembers contents related)
    {next : WithRest α → Except Fault (WithRest β)} (makes : α → β → Prop)
    (later : ∀ value cs rest result,
      next (value, cs) = .ok (result, rest) ↔ makes value result ∧ rest = cs)
    (keeps : ∀ left right made, related left right → makes left made →
      ∃ again, makes right again ∧ relatedLater made again) :
    SteadyMembers (fun cs => contents cs >>= next) relatedLater := by
  obtain ⟨means, parses, again⟩ := steady
  refine ⟨_, parses.andThen makes later, ?_⟩
  rintro members others made rearranges ⟨value, meant, isMade⟩
  obtain ⟨result, meantAgain, isRelated⟩ := again rearranges meant
  obtain ⟨remade, makesAgain, madeRelated⟩ := keeps _ _ _ isRelated isMade
  exact ⟨remade, ⟨result, meantAgain, makesAgain⟩, madeRelated⟩

theorem SteadyMembers.andThen_eq
    {contents : List Char → Except Fault (WithRest α)}
    (steady : SteadyMembers contents Eq)
    {next : WithRest α → Except Fault (WithRest β)} (makes : α → β → Prop)
    (later : ∀ value cs rest result,
      next (value, cs) = .ok (result, rest) ↔ makes value result ∧ rest = cs) :
    SteadyMembers (fun cs => contents cs >>= next) Eq := by
  refine steady.andThen makes later ?_
  rintro left _ made rfl isMade
  exact ⟨made, isMade, rfl⟩

/-- The entries of an object change their order with its members. -/
abbrev AlikeEntries (related : α → α → Prop) :
    List (String × α) → List (String × α) → Prop :=
  Rearranges Prod.fst Prod.snd (· ≠ ·) related

theorem Steady.mapOf {item : Reader α}
    (steady : ∀ depth, Steady item depth related)
    (relatedSelf : ∀ value, related value value) (depth : Nat) :
    Steady (mapOf item) depth (AlikeEntries related) := by
  refine steady_container ?_ ?_
  · rintro _ ⟨⟩
  · rintro _ ⟨⟩
    have item := steady (depth - 1)
    refine ⟨_, (parsesMembers_entries item.parses).into List.reverse, ?_⟩
    rintro members others _ rearranges ⟨entries, gathers, rfl⟩
    obtain ⟨result, again, isRelated⟩ := gathers.rearranged
      (orderly_entries relatedSelf item.keeps) rearranges .nil
    exact ⟨_, ⟨result, again, rfl⟩, isRelated.reverse relatedSelf Ne.symm⟩

end Steady

/-! ## Any value -/

/-- Values that differ in the order of entries. -/
inductive Value.Alike : Value → Value → Prop where
  | same (value : Value) : Value.Alike value value
  | array {items others : List Value}
      (itemwise : List.Forall₂ Value.Alike items others) :
      Value.Alike (.array items) (.array others)
  | object {entries others : List (String × Value)}
      (rearranges : Rearranges Prod.fst Prod.snd (· ≠ ·) Value.Alike
        entries others) :
      Value.Alike (.object entries) (.object others)

theorem IsValueFor.rearranged {inner : List Char → Value → Prop} {depth : Nat}
    (keeps : 1 < depth → ∀ {text other : List Char} {value : Value},
      Alike text other → inner text value →
        ∃ result, inner other result ∧ value.Alike result)
    {text other : List Char} {value : Value} (alike : Alike text other)
    (isFor : IsValueFor inner depth text value) :
    ∃ result, IsValueFor inner depth other result ∧ value.Alike result := by
  have fixed (isScalar : IsScalar text) :
      ∃ result, IsValueFor inner depth other result ∧ value.Alike result := by
    obtain rfl := alike.eq_of_isScalar isScalar
    exact ⟨value, isFor, .same value⟩
  cases isFor with
  | null | true | false => exact fixed (by simp [IsScalar])
  | number isFor => exact fixed isFor.isScalar
  | string spells => exact fixed (isScalar_quoted _)
  | list deep isList means =>
      obtain ⟨others, isOther, itemwise⟩ := alike.exists_items isList
      obtain ⟨results, meansAgain, areAlike⟩ :=
        exists_forall₂ (keeps deep) itemwise means
      exact ⟨_, .list deep isOther meansAgain, .array areAlike⟩
  | object deep isObject gathers =>
      obtain ⟨others, isOther, rearranges⟩ := alike.exists_members isObject
      obtain ⟨result, gathered, areAlike⟩ := gathers.rearranged
        (orderly_entries Value.Alike.same (keeps deep)) rearranges .nil
      exact ⟨_, .object deep isOther gathered,
        .object (areAlike.reverse Value.Alike.same Ne.symm)⟩

theorem steady_value (depth : Nat) : Steady value depth Value.Alike := by
  induction depth with
  | zero =>
      refine (parses_value 0).steady (IsValueFor.rearranged ?_)
      exact fun deep => absurd deep (by decide)
  | succ depth induction =>
      exact (parses_value (depth + 1)).steady
        (IsValueFor.rearranged fun _ => induction.keeps)

/-! ## Strings as values -/

theorem alone_string_iff {depth : Nat} {text : List Char} {word : String} :
    Alone value depth text (.string word) ↔ Alone string depth text word := by
  rw [(parses_value depth).alone_iff, (parses_string depth).alone_iff]
  constructor
  · intro isFor
    cases isFor with
    | string spells => exact ⟨_, spells, rfl⟩
  · rintro ⟨content, spells, rfl⟩
    exact .string spells

/-! ## Texts -/

/-- JSON texts that differ in the order of members, and in blanks. -/
def Rearranged (left right : String) : Prop :=
  ∃ value other, IsValue value ∧ Padded value left.toList ∧
    Padded other right.toList ∧ Alike value other

theorem Padded.unique {value other text : List Char} (isValue : IsValue value)
    (isOther : IsValue other) (padded : Padded value text)
    (otherPadded : Padded other text) : value = other := by
  obtain ⟨before, after, blank, afterBlank, rfl⟩ := padded
  obtain ⟨between, behind, betweenBlank, behindBlank, same⟩ := otherPadded
  exact (value_unique blank betweenBlank isValue isOther
    afterBlank.delimited_end behindBlank.delimited_end same).1

section Texts

variable {α : Type} {reader : Reader α}

theorem Parses.readText_eq_ok_iff
    (parses : Parses reader depthLimit (Alone reader depthLimit))
    {text : String} {found : α} :
    readText reader text = .ok found ↔
      ∃ value, Padded value text.toList ∧
        Alone reader depthLimit value found := by
  rw [Json.readText_eq_ok_iff]
  constructor
  · rintro ⟨rest, blank, read⟩
    obtain ⟨before, value, beforeBlank, alone, split⟩ := parses.taken read
    exact ⟨value, ⟨before, rest, beforeBlank, blank, split⟩, alone⟩
  · rintro ⟨value, ⟨before, rest, beforeBlank, blank, split⟩, alone⟩
    rw [split]
    exact ⟨rest, blank, parses.result beforeBlank alone blank.delimited_end⟩

/-- A steady reader reads the same from a text that is rearranged. -/
theorem Steady.readText_eq_ok (steady : Steady reader depthLimit Eq)
    {left right : String} {found : α} (rearranged : Rearranged left right)
    (read : readText reader left = .ok found) :
    readText reader right = .ok found := by
  obtain ⟨value, other, isValue, padded, otherPadded, alike⟩ := rearranged
  obtain ⟨same, samePadded, alone⟩ :=
    steady.parses.readText_eq_ok_iff.mp read
  obtain rfl := padded.unique isValue alone.1 samePadded
  obtain ⟨_, again, rfl⟩ := steady.keeps alike alone
  exact steady.parses.readText_eq_ok_iff.mpr ⟨other, otherPadded, again⟩

end Texts

end OperatorConsole.Json
