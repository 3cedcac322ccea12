import OperatorConsole.Proofs.Json.Lists
import OperatorConsole.Proofs.Json.Numbers

/-!
# What readers take

A reader takes the text of one value, with blanks in front of it, and makes the
same of that text wherever it stands.  This holds of numbers and of any value,
and a reader of containers inherits it from what reads the contents.
-/

namespace OperatorConsole.Json

/-! ## Texts that are read alone -/

/-- A value that stands alone is read like this. -/
def Alone {α : Type} (reader : Reader α) (depth : Nat) (text : List Char)
    (value : α) : Prop :=
  IsValue text ∧ reader depth text = .ok (value, [])

theorem delimited_nil : Delimited [] := by
  intro c first
  cases first

theorem Blanks.delimited_end {text : List Char} (blank : Blanks text) :
    Delimited text := by
  have delimited := blank.delimited delimited_nil
  rwa [List.append_nil] at delimited

namespace Parses

variable {α : Type} {reader : Reader α} {depth : Nat}
  {denotes : List Char → α → Prop} {text : List Char} {value : α}

theorem alone_iff (parses : Parses reader depth denotes) :
    Alone reader depth text value ↔ denotes text value := by
  constructor
  · rintro ⟨isValue, read⟩
    obtain ⟨before, inner, blank, said, same⟩ := parses.taken read
    rw [List.append_nil] at same
    cases before with
    | nil => exact same ▸ said
    | cons c before =>
        -- a value does not begin with a blank
        obtain ⟨first, more, begins, visible, _⟩ := isValue.begins
        rw [begins, List.cons_append] at same
        have isBlank := blank c List.mem_cons_self
        rw [← (List.cons.inj same).1, visible] at isBlank
        cases isBlank
  · intro said
    have read := parses.result blanks_nil said delimited_nil
    rw [List.nil_append, List.append_nil] at read
    exact ⟨parses.isValue said, read⟩

/-- What is made of a text does not depend on where it stands. -/
theorem alone (parses : Parses reader depth denotes) :
    Parses reader depth (Alone reader depth) :=
  parses.congr fun _ _ => parses.alone_iff.symm

end Parses

/-! ## Scalars -/

theorem parses_whole (least greatest : Int) (expected : String)
    (depth : Nat) :
    Parses (whole least greatest expected) depth fun text value =>
      IsNumberFor text (.whole value) ∧ least ≤ value ∧ value ≤ greatest where
  isValue := fun said => .number said.1.isNumber
  taken := by
    intro cs rest value read
    obtain ⟨before, blank, split⟩ := exists_blanks cs
    unfold whole at read
    split at read
    · cases read
    · next stands =>
        obtain ⟨⟨number, tail⟩, taken, bounded⟩ := bind_eq_ok.mp read
        obtain ⟨rfl, rfl, within⟩ := boundedNumber_eq_ok_iff.mp bounded
        obtain ⟨text, isMagnitude, rfl, stops⟩ := numberBody_taken taken
        refine ⟨before, _, blank, ⟨.negative isMagnitude stops, within⟩, ?_⟩
        rw [split, stands, List.cons_append]
    · next c later notMinus stands =>
        split at read
        · obtain ⟨⟨number, tail⟩, taken, bounded⟩ := bind_eq_ok.mp read
          obtain ⟨rfl, rfl, within⟩ := boundedNumber_eq_ok_iff.mp bounded
          obtain ⟨text, isMagnitude, same, stops⟩ := numberBody_taken taken
          refine ⟨before, _, blank, ⟨.positive isMagnitude stops, within⟩, ?_⟩
          rw [split, stands, same]
        · exact absurd read mismatch_ne_ok
  result := by
    rintro before text rest value blank ⟨isFor, within⟩ delimited
    have bounded : boundedNumber least greatest expected (.whole value) rest =
        .ok (value, rest) := boundedNumber_eq_ok_iff.mpr ⟨rfl, rfl, within⟩
    have same (cs : List Char) : whole least greatest expected depth
        (before ++ cs) = whole least greatest expected depth cs := by
      rw [whole, skipBlanks_append blank]
      rfl
    rw [same]
    cases isFor with
    | negative isMagnitude stops =>
        rw [List.cons_append, whole_minus, stops delimited]
        exact bounded
    | positive isMagnitude stops =>
        have taken := stops delimited
        obtain ⟨c, more, rfl, digit⟩ := isMagnitude.head
        rw [List.cons_append] at taken ⊢
        rw [whole_digit least greatest expected depth digit, taken]
        exact bounded

section Null

variable {before cs tail rest : List Char}

theorem eq_null_append (split : cs = before ++ skipBlanks cs)
    (stands : skipBlanks cs = 'n' :: tail)
    (ended : word "ull".toList tail = .ok rest) :
    cs = before ++ ("null".toList ++ rest) := by
  rw [split, stands, word_eq_ok_iff.mp ended]
  rfl

theorem skipBlanks_null (blank : Blanks before) (rest : List Char) :
    skipBlanks (before ++ ("null".toList ++ rest)) =
      'n' :: ("ull".toList ++ rest) :=
  skipBlanks_blanks blank (by decide) ("ull".toList ++ rest)

end Null

theorem parses_unit (depth : Nat) :
    Parses unit depth fun text _ => text = "null".toList where
  isValue := by
    rintro text value rfl
    exact .word (by decide)
  taken := by
    intro cs rest value read
    obtain ⟨before, blank, split⟩ := exists_blanks cs
    unfold unit at read
    split at read
    · cases read
    · next stands =>
        obtain ⟨tail, ended, same⟩ := bind_eq_ok.mp read
        cases same
        exact ⟨before, _, blank, rfl, eq_null_append split stands ended⟩
    · exact absurd read mismatch_ne_ok
  result := by
    rintro before text rest value blank rfl _
    rw [unit, skipBlanks_null blank]
    exact bind_eq_ok.mpr ⟨rest, word_eq_ok_iff.mpr rfl, rfl⟩

section Containers

variable {α β : Type} {depth : Nat}

/-- The text of `null`, or one that does not begin like it. -/
theorem Parses.optional {reader : Reader α} {denotes : List Char → α → Prop}
    (parses : Parses reader depth denotes)
    (apart : ∀ {text : List Char} {value : α}, denotes text value →
      text.head? ≠ some 'n') :
    Parses (Json.optional reader) depth fun text value =>
      (text = "null".toList ∧ value = none) ∨
        ∃ found, value = some found ∧ denotes text found where
  isValue := by
    rintro text value (⟨rfl, _⟩ | ⟨found, _, said⟩)
    · exact .word (by decide)
    · exact parses.isValue said
  taken := by
    intro cs rest value read
    obtain ⟨before, blank, split⟩ := exists_blanks cs
    unfold Json.optional at read
    split at read
    · next stands =>
        obtain ⟨tail, ended, same⟩ := bind_eq_ok.mp read
        cases same
        exact ⟨before, _, blank, .inl ⟨rfl, rfl⟩,
          eq_null_append split stands ended⟩
    · obtain ⟨⟨found, tail⟩, inner, same⟩ := bind_eq_ok.mp read
      cases same
      obtain ⟨between, text, betweenBlank, said, behind⟩ := parses.taken inner
      refine ⟨before ++ between, text, blank.append betweenBlank,
        .inr ⟨found, rfl, said⟩, ?_⟩
      rw [split, behind, List.append_assoc]
  result := by
    rintro before text rest value blank (⟨rfl, rfl⟩ | ⟨found, rfl, said⟩)
      delimited
    · rw [Json.optional, skipBlanks_null blank]
      exact bind_eq_ok.mpr ⟨rest, word_eq_ok_iff.mpr rfl, rfl⟩
    · have inner := parses.result blanks_nil said delimited
      have other := apart said
      obtain ⟨c, more, rfl, visible, _⟩ := (parses.isValue said).begins
      have stands := skipBlanks_blanks blank visible (more ++ rest)
      unfold Json.optional
      rw [List.cons_append, stands]
      split
      · next same =>
          rw [(List.cons.inj same).1] at other
          exact absurd rfl other
      · exact bind_eq_ok.mpr ⟨_, inner, rfl⟩

/-- What was read is put to use. -/
theorem Parses.andThen {reader : Reader α} {denotes : List Char → α → Prop}
    (parses : Parses reader depth denotes)
    {next : WithRest α → Except Fault (WithRest β)}
    (makes : α → β → Prop)
    (later : ∀ value cs rest result,
      next (value, cs) = .ok (result, rest) ↔ makes value result ∧ rest = cs) :
    Parses (fun depth cs => reader depth cs >>= next) depth
      fun text result => ∃ value, denotes text value ∧ makes value result where
  isValue := by
    rintro text _ ⟨value, said, _⟩
    exact parses.isValue said
  taken := by
    intro cs rest result read
    obtain ⟨⟨value, tail⟩, inner, goesOn⟩ := bind_eq_ok.mp read
    obtain ⟨before, text, blank, said, rfl⟩ := parses.taken inner
    obtain ⟨made, rfl⟩ := (later _ _ _ _).mp goesOn
    exact ⟨before, text, blank, ⟨value, said, made⟩, rfl⟩
  result := by
    rintro before text rest result blank ⟨value, said, made⟩ delimited
    exact bind_eq_ok.mpr
      ⟨_, parses.result blank said delimited, (later _ _ _ _).mpr ⟨made, rfl⟩⟩

/-! ## Containers -/

/-- What is read from the contents of an object is what its members mean. -/
structure ParsesMembers (contents : List Char → Except Fault (WithRest α))
    (means : List Member → α → Prop) : Prop where
  taken : ∀ {cs rest : List Char} {value : α},
    contents cs = .ok (value, rest) →
      ∃ members text after, Ahead true members text ∧ means members value ∧
        rest = '}' :: after ∧ cs = text ++ '}' :: after
  result : ∀ {members : List Member} {text : List Char} {value : α}
    (after : List Char), Ahead true members text → means members value →
      contents (text ++ '}' :: after) = .ok (value, '}' :: after)

theorem parsesMembers_of_obeys {plan : α → String → MemberPlan α}
    {does : α → String → List Char → α → Prop} (start : α)
    (obeys : ∀ state name,
      (plan state name).Obeys depth state (does state name)) :
    ParsesMembers (members plan start depth) (Gathers does start) where
  taken := (members_eq_ok_iff obeys).mp
  result := fun after ahead gathers =>
    (members_eq_ok_iff obeys).mpr ⟨_, _, after, ahead, gathers, rfl, rfl⟩

/-- What the members come to is put to use. -/
theorem ParsesMembers.andThen
    {contents : List Char → Except Fault (WithRest α)}
    {means : List Member → α → Prop} (parses : ParsesMembers contents means)
    {next : WithRest α → Except Fault (WithRest β)}
    (makes : α → β → Prop)
    (later : ∀ value cs rest result,
      next (value, cs) = .ok (result, rest) ↔ makes value result ∧ rest = cs) :
    ParsesMembers (fun cs => contents cs >>= next)
      fun members result =>
        ∃ value, means members value ∧ makes value result where
  taken := by
    intro cs rest result read
    obtain ⟨⟨value, tail⟩, inner, goesOn⟩ := bind_eq_ok.mp read
    obtain ⟨members, text, after, ahead, meant, rfl, rfl⟩ :=
      parses.taken inner
    obtain ⟨made, rfl⟩ := (later _ _ _ _).mp goesOn
    exact ⟨members, text, after, ahead, ⟨value, meant, made⟩, rfl, rfl⟩
  result := by
    rintro members text result after ahead ⟨value, meant, made⟩
    exact bind_eq_ok.mpr
      ⟨_, parses.result after ahead meant, (later _ _ _ _).mpr ⟨made, rfl⟩⟩

theorem ParsesMembers.into {contents : Reader α}
    {means : List Member → α → Prop}
    (parses : ParsesMembers (contents depth) means) (store : α → β) :
    ParsesMembers (contents.into store depth) fun members stored =>
      ∃ value, means members value ∧ store value = stored where
  taken := by
    intro cs rest stored read
    obtain ⟨⟨value, _⟩, inner, ended⟩ := bind_eq_ok.mp read
    cases ended
    obtain ⟨members, text, after, ahead, meant, rfl, rfl⟩ :=
      parses.taken inner
    exact ⟨members, text, after, ahead, ⟨value, meant, rfl⟩, rfl, rfl⟩
  result := by
    rintro members text _ after ahead ⟨value, meant, rfl⟩
    exact bind_eq_ok.mpr ⟨_, parses.result after ahead meant, rfl⟩

/-- A container that may be a list has a meaning for lists. -/
def ReadsList (depth : Nat) (means : List (List Char) → α → Prop) :
    Option (Reader α) → Prop
  | some contents => ParsesItems true (contents depth) means
  | none => ∀ items value, ¬means items value

/-- A container that may be an object has a meaning for objects. -/
def ReadsObject (depth : Nat) (means : List Member → α → Prop) :
    Option (Reader α) → Prop
  | some contents => ParsesMembers (contents depth) means
  | none => ∀ members value, ¬means members value

theorem parses_container {expected : String}
    {ofList ofObject : Option (Reader α)}
    {listMeans : List (List Char) → α → Prop}
    {objectMeans : List Member → α → Prop}
    (lists : ReadsList (depth - 1) listMeans ofList)
    (objects : ReadsObject (depth - 1) objectMeans ofObject) :
    Parses (container expected ofList ofObject) depth fun text value =>
      1 < depth ∧
        ((∃ items, IsList items text ∧ listMeans items value) ∨
          ∃ members, IsObject members text ∧ objectMeans members value) where
  isValue := by
    rintro text value ⟨_, ⟨items, isList, _⟩ | ⟨members, isObject, _⟩⟩
    · exact isList.isValue
    · exact .object isObject
  taken := by
    intro cs rest value read
    obtain ⟨before, inside, blank, ⟨contents, rfl, nested, rfl⟩ |
      ⟨contents, rfl, nested, rfl⟩⟩ := container_eq_ok_iff.mp read
    · obtain ⟨deep, inner, contained, closed⟩ := nested_eq_ok_iff.mp nested
      obtain ⟨items, text, ahead, meant, rfl⟩ :=
        ParsesItems.taken lists contained closed
      refine ⟨before, _, blank,
        ⟨deep, .inl ⟨items, ⟨text, ahead, rfl⟩, meant⟩⟩, by simp⟩
    · obtain ⟨deep, inner, contained, closed⟩ := nested_eq_ok_iff.mp nested
      obtain ⟨members, text, after, ahead, meant, rfl, rfl⟩ :=
        ParsesMembers.taken objects contained
      -- the closing brace is next, so nothing is skipped before it
      obtain rfl : after = rest := congrArg Prod.snd closed
      refine ⟨before, _, blank, ⟨deep, .inr ⟨members,
        isObject_iff.mpr ⟨text, ahead, rfl⟩, meant⟩⟩, by simp⟩
  result := by
    rintro before _ rest value blank ⟨deep, ⟨items, ⟨text, ahead, rfl⟩,
      meant⟩ | ⟨members, isObject, meant⟩⟩ _
    · cases ofList with
      | none => exact absurd meant (lists items value)
      | some contents =>
          obtain ⟨inner, contained, closed⟩ :=
            ParsesItems.result lists rest ahead meant
          refine container_eq_ok_iff.mpr ⟨before, text ++ ']' :: rest, blank,
            .inl ⟨contents, rfl, ?_, by simp⟩⟩
          exact nested_eq_ok_iff.mpr ⟨deep, inner, contained, closed⟩
    · obtain ⟨text, ahead, rfl⟩ := isObject_iff.mp isObject
      cases ofObject with
      | none => exact absurd meant (objects members value)
      | some contents =>
          have contained := ParsesMembers.result objects rest ahead meant
          refine container_eq_ok_iff.mpr ⟨before, text ++ '}' :: rest, blank,
            .inr ⟨contents, rfl, ?_, by simp⟩⟩
          exact nested_eq_ok_iff.mpr ⟨deep, _, contained, rfl⟩

/-- A member is put in front of the entries that have been read. -/
def Enters (denotes : List Char → α → Prop) (entries : List (String × α))
    (name : String) (text : List Char) (next : List (String × α)) : Prop :=
  ∃ value, denotes text value ∧ (name, value) :: entries = next

/-- The entries of an object, last first. -/
theorem parsesMembers_entries {item : Reader α}
    {denotes : List Char → α → Prop} (parses : Parses item depth denotes) :
    ParsesMembers
      (members
        (fun (entries : List (String × α)) name =>
          .read (item.into fun value => (name, value) :: entries)) [] depth)
      (Gathers (Enters denotes) []) :=
  parsesMembers_of_obeys [] fun entries name =>
    parses.into fun value => (name, value) :: entries

end Containers

/-! ## Any value -/

/-- What a value is read as, given what those that stand in it are. -/
inductive IsValueFor (inner : List Char → Value → Prop) (depth : Nat) :
    List Char → Value → Prop where
  | null : IsValueFor inner depth "null".toList .null
  | true : IsValueFor inner depth "true".toList (.boolean true)
  | false : IsValueFor inner depth "false".toList (.boolean false)
  | number {text : List Char} {number : Number}
      (isFor : IsNumberFor text number) :
      IsValueFor inner depth text (.number number)
  | string {content : List Char} {value : String}
      (spells : Spells content value.toList) :
      IsValueFor inner depth (quoted content) (.string value)
  | list {items : List (List Char)} {text : List Char} {values : List Value}
      (deep : 1 < depth) (isList : IsList items text)
      (means : List.Forall₂ inner items values) :
      IsValueFor inner depth text (.array values)
  | object {members : List Member} {text : List Char}
      {entries : List (String × Value)} (deep : 1 < depth)
      (isObject : IsObject members text)
      (gathers : Gathers (Enters inner) [] members entries) :
      IsValueFor inner depth text (.object entries.reverse)

theorem IsValueFor.isValue {inner : List Char → Value → Prop} {depth : Nat}
    {text : List Char} {value : Value}
    (isFor : IsValueFor inner depth text value) : IsValue text := by
  cases isFor with
  | null | true | false => exact .word (by decide)
  | number isFor => exact .number isFor.isNumber
  | string spells => exact .string spells.isString
  | list _ isList _ => exact isList.isValue
  | object _ isObject _ => exact .object isObject

section AnyValue

variable {inner : Nat} {denotes : List Char → Value → Prop}
  (parses : Parses value inner denotes) {cs rest : List Char} {found : Value}

include parses

/-- The depth is given to a value by what stands around it. -/
theorem parses_inner : Parses (fun _ cs => valueFrom inner cs) inner denotes :=
  ⟨parses.isValue, parses.taken, parses.result⟩

theorem nestedList_eq_ok_iff :
    nested closeList
        ((items fun _ cs => valueFrom inner cs).into Value.array)
        (inner + 1) ('[' :: cs) = .ok (found, rest) ↔
      1 < inner + 1 ∧ ∃ items values text, IsList items ('[' :: text) ∧
        List.Forall₂ denotes items values ∧ found = .array values ∧
        cs = text ++ rest := by
  have contents :=
    ((parses_inner parses).itemsFrom true).into Value.array
  rw [nested_eq_ok_iff]
  constructor
  · rintro ⟨deep, between, contained, closed⟩
    obtain ⟨items, text, ahead, ⟨values, meant, rfl⟩, rfl⟩ :=
      contents.taken contained closed
    exact ⟨deep, items, values, text ++ [']'], ⟨text, ahead, rfl⟩, meant, rfl,
      by simp⟩
  · rintro ⟨deep, items, values, _, ⟨text, ahead, same⟩, meant, rfl, rfl⟩
    obtain rfl := (List.cons.inj same).2
    obtain ⟨between, contained, closed⟩ :=
      contents.result rest ahead ⟨values, meant, rfl⟩
    refine ⟨deep, between, ?_, closed⟩
    rw [List.append_assoc]
    exact contained

theorem nestedObject_eq_ok_iff :
    nested closeObject
        ((members
          (fun (entries : List (String × Value)) name =>
            .read fun _ cs => do
              let (value, cs) ← valueFrom inner cs
              return ((name, value) :: entries, cs)) []).into
          fun entries => .object entries.reverse)
        (inner + 1) ('{' :: cs) = .ok (found, rest) ↔
      1 < inner + 1 ∧ ∃ members entries text,
        IsObject members ('{' :: text) ∧
        Gathers (Enters denotes) [] members entries ∧
        found = .object entries.reverse ∧ cs = text ++ rest := by
  have contents := (parsesMembers_entries (parses_inner parses)).into
    fun entries => Value.object entries.reverse
  rw [nested_eq_ok_iff]
  constructor
  · rintro ⟨deep, between, contained, closed⟩
    obtain ⟨members, text, after, ahead, ⟨entries, gathers, rfl⟩, rfl, rfl⟩ :=
      contents.taken contained
    obtain rfl : after = rest := congrArg Prod.snd closed
    exact ⟨deep, members, entries, text ++ ['}'],
      isObject_iff.mpr ⟨text, ahead, rfl⟩, gathers, rfl, by simp⟩
  · rintro ⟨deep, members, entries, _, isObject, gathers, rfl, rfl⟩
    obtain ⟨text, ahead, same⟩ := isObject_iff.mp isObject
    obtain rfl := (List.cons.inj same).2
    have contained := contents.result rest ahead ⟨entries, gathers, rfl⟩
    refine ⟨deep, '}' :: rest, ?_, rfl⟩
    rw [List.append_assoc]
    exact contained

end AnyValue

theorem valueFrom_digit {depth : Nat} {cs more : List Char} {c : Char}
    (stands : skipBlanks cs = c :: more) (digit : c.isDigit = true) :
    valueFrom depth cs =
      (do
        let (value, rest) ← numberBody false (c :: more)
        return (.number value, rest)) := by
  have differs {mark : Char} {rest : List Char} (other : mark.isDigit = false)
      (same : skipBlanks cs = mark :: rest) : False := by
    rw [stands] at same
    exact ne_of_isDigit digit other (List.cons.inj same).1
  unfold valueFrom
  split
  · next none => cases stands.symm.trans none
  · next same => exact (differs rfl same).elim
  · next same => exact (differs rfl same).elim
  · next same => exact (differs rfl same).elim
  · next same => exact (differs rfl same).elim
  · next same => exact (differs rfl same).elim
  · next same => exact (differs rfl same).elim
  · next same => exact (differs rfl same).elim
  · next same =>
      obtain ⟨rfl, rfl⟩ := List.cons.inj (stands.symm.trans same)
      rw [if_pos digit]

section Step

variable {depth : Nat} {denotes : List Char → Value → Prop}
  (inside : ∀ inner, depth = inner + 1 → Parses value inner denotes)
  {cs rest : List Char} {found : Value}

include inside

theorem exists_value_of_read (read : value depth cs = .ok (found, rest)) :
    ∃ before text, Blanks before ∧ IsValueFor denotes depth text found ∧
      cs = before ++ (text ++ rest) := by
  obtain ⟨before, blank, split⟩ := exists_blanks cs
  have takes {text : List Char}
      (isFor : IsValueFor denotes depth text found)
      (stands : skipBlanks cs = text ++ rest) :
      ∃ before text, Blanks before ∧ IsValueFor denotes depth text found ∧
        cs = before ++ (text ++ rest) :=
    ⟨before, text, blank, isFor, by rw [← stands, ← split]⟩
  unfold value valueFrom at read
  split at read
  · cases read
  · next stands =>
      obtain ⟨tail, ended, same⟩ := bind_eq_ok.mp read
      cases same
      rw [word_eq_ok_iff.mp ended] at stands
      exact takes .null stands
  · next stands =>
      obtain ⟨tail, ended, same⟩ := bind_eq_ok.mp read
      cases same
      rw [word_eq_ok_iff.mp ended] at stands
      exact takes .true stands
  · next stands =>
      obtain ⟨tail, ended, same⟩ := bind_eq_ok.mp read
      cases same
      rw [word_eq_ok_iff.mp ended] at stands
      exact takes .false stands
  · next stands =>
      obtain ⟨⟨number, tail⟩, taken, same⟩ := bind_eq_ok.mp read
      cases same
      obtain ⟨text, isMagnitude, rfl, stops⟩ := numberBody_taken taken
      exact takes (.number (.negative isMagnitude stops)) stands
  · next stands =>
      obtain ⟨⟨text, tail⟩, taken, same⟩ := bind_eq_ok.mp read
      cases same
      obtain ⟨content, spells, rfl⟩ := stringBody_eq_ok_iff.mp taken
      refine takes (.string spells) ?_
      rw [stands]
      simp [quoted]
  · next stands =>
      cases depth with
      | zero => cases read
      | succ inner =>
          obtain ⟨deep, items, values, text, isList, means, rfl, rfl⟩ :=
            (nestedList_eq_ok_iff (inside inner rfl)).mp read
          exact takes (.list deep isList means) stands
  · next stands =>
      cases depth with
      | zero => cases read
      | succ inner =>
          obtain ⟨deep, members, entries, text, isObject, gathers, rfl, rfl⟩ :=
            (nestedObject_eq_ok_iff (inside inner rfl)).mp read
          exact takes (.object deep isObject gathers) stands
  · next stands =>
      split at read
      · obtain ⟨⟨number, tail⟩, taken, same⟩ := bind_eq_ok.mp read
        cases same
        obtain ⟨text, isMagnitude, begins, stops⟩ := numberBody_taken taken
        exact takes (.number (.positive isMagnitude stops))
          (stands.trans begins)
      · cases read

theorem read_value {before text : List Char} (blank : Blanks before)
    (isFor : IsValueFor denotes depth text found)
    (delimited : Delimited rest) :
    value depth (before ++ (text ++ rest)) = .ok (found, rest) := by
  have isValue := isFor.isValue
  have stands : skipBlanks (before ++ (text ++ rest)) = text ++ rest := by
    obtain ⟨c, more, rfl, visible, _⟩ := isValue.begins
    exact skipBlanks_blanks blank visible (more ++ rest)
  cases isFor with
  | null =>
      unfold value valueFrom
      rw [stands]
      exact bind_eq_ok.mpr ⟨rest, word_eq_ok_iff.mpr rfl, rfl⟩
  | true =>
      unfold value valueFrom
      rw [stands]
      exact bind_eq_ok.mpr ⟨rest, word_eq_ok_iff.mpr rfl, rfl⟩
  | false =>
      unfold value valueFrom
      rw [stands]
      exact bind_eq_ok.mpr ⟨rest, word_eq_ok_iff.mpr rfl, rfl⟩
  | number isFor =>
      cases isFor with
      | negative isMagnitude stops =>
          unfold value valueFrom
          rw [stands]
          exact bind_eq_ok.mpr ⟨_, stops delimited, rfl⟩
      | positive isMagnitude stops =>
          have taken := stops delimited
          obtain ⟨c, more, rfl, digit⟩ := isMagnitude.head
          rw [value, valueFrom_digit stands digit]
          exact bind_eq_ok.mpr ⟨_, taken, rfl⟩
  | string spells =>
      unfold value valueFrom
      rw [stands]
      refine bind_eq_ok.mpr
        ⟨_, stringBody_eq_ok_iff.mpr ⟨_, spells, ?_⟩, rfl⟩
      simp
  | list deep isList means =>
      cases depth with
      | zero => exact absurd deep (by decide)
      | succ inner =>
          obtain ⟨text, ahead, rfl⟩ := isList
          unfold value valueFrom
          rw [stands]
          exact (nestedList_eq_ok_iff (inside inner rfl)).mpr
            ⟨deep, _, _, text ++ [']'], ⟨text, ahead, rfl⟩, means, rfl, rfl⟩
  | object deep isObject gathers =>
      cases depth with
      | zero => exact absurd deep (by decide)
      | succ inner =>
          obtain ⟨text, rfl⟩ := isObject.begins
          unfold value valueFrom
          rw [stands]
          exact (nestedObject_eq_ok_iff (inside inner rfl)).mpr
            ⟨deep, _, _, text, isObject, gathers, rfl, rfl⟩

end Step

theorem parses_value (depth : Nat) :
    Parses value depth (IsValueFor (Alone value (depth - 1)) depth) := by
  induction depth with
  | zero =>
      have inside (inner : Nat) (same : 0 = inner + 1) :
          Parses value inner (Alone value (0 - 1)) := by cases same
      exact ⟨IsValueFor.isValue, exists_value_of_read inside,
        read_value inside⟩
  | succ depth induction =>
      have inside (inner : Nat) (same : depth + 1 = inner + 1) :
          Parses value inner (Alone value (depth + 1 - 1)) := by
        cases same
        exact induction.alone
      exact ⟨IsValueFor.isValue, exists_value_of_read inside,
        read_value inside⟩

end OperatorConsole.Json
