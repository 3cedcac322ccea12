import OperatorConsole.Json.Reader
import OperatorConsole.Proofs.Except
import OperatorConsole.Proofs.Json.Scalar

/-!
# Reading JSON back

What is written without blanks is read back.  The rules follow the readers: one
for each scalar, and one for each kind of container, which takes one level more
than its contents.
-/

namespace OperatorConsole.Json

/-- A reader gets a value out of a text, given more than so many levels and
whatever stands behind. -/
structure Reads {α : Type} (reader : Reader α) (levels : Nat)
    (text : List Char) (value : α) : Prop where
  /-- The text can stand in a list. -/
  begins : ∃ c more, text = c :: more ∧ isBlank c = false ∧ c ≠ ']'
  result : ∀ depth rest, levels < depth → Stops rest →
    reader depth (text ++ rest) = .ok (value, rest)

@[simp] theorem skipBlanks_cons {c : Char} (visible : isBlank c = false)
    (rest : List Char) : skipBlanks (c :: rest) = c :: rest := by
  simp [skipBlanks, visible]

/-! ## Scalars -/

theorem reads_string (levels : Nat) (value : String) :
    Reads string levels (stringText value) value where
  begins := ⟨'"', _, rfl, by decide, by decide⟩
  result := by
    intro depth rest _ _
    have split : stringText value ++ rest =
        '"' :: (value.toList.flatMap escapeChar ++ '"' :: rest) := by
      simp [stringText]
    rw [string, stringAs, split, skipBlanks_cons (by decide)]
    exact stringBody_escaped value rest

theorem reads_boolean (levels : Nat) (value : Bool) :
    Reads boolean levels (Value.boolean value).compact value := by
  cases value with
  | true => exact ⟨⟨'t', _, rfl, by decide, by decide⟩, fun _ _ _ _ => rfl⟩
  | false => exact ⟨⟨'f', _, rfl, by decide, by decide⟩, fun _ _ _ _ => rfl⟩

theorem reads_null {α : Type} (reader : Reader α) (levels : Nat) :
    Reads (optional reader) levels Value.null.compact none where
  begins := ⟨'n', _, rfl, by decide, by decide⟩
  result := fun _ _ _ _ => rfl

/-- A value that is not absent must not look like `null`. -/
theorem Reads.present {α : Type} {reader : Reader α} {levels : Nat}
    {text : List Char} {value : α} (reads : Reads reader levels text value)
    (notNull : text.head? ≠ some 'n') :
    Reads (optional reader) levels text (some value) where
  begins := reads.begins
  result := by
    intro depth rest enough stops
    obtain ⟨c, more, split, visible, _⟩ := reads.begins
    have result := reads.result depth rest enough stops
    subst split
    rw [List.cons_append] at result ⊢
    rw [optional, skipBlanks_cons visible]
    split
    · next same =>
        obtain ⟨rfl, _⟩ := List.cons.inj same
        exact absurd rfl notNull
    · rw [result]
      rfl

theorem Reads.into {α σ : Type} {reader : Reader α} {levels : Nat}
    {text : List Char} {value : α} (reads : Reads reader levels text value)
    (store : α → σ) :
    Reads (reader.into store) levels text (store value) where
  begins := reads.begins
  result := by
    intro depth rest enough stops
    rw [Reader.into, reads.result depth rest enough stops]
    rfl

/-- A string is also read as a value of any type. -/
theorem reads_stringValue (levels : Nat) (text : String) :
    Reads value levels (stringText text) (.string text) where
  begins := ⟨'"', _, rfl, by decide, by decide⟩
  result := by
    intro depth rest _ _
    have split : stringText text ++ rest =
        '"' :: (text.toList.flatMap escapeChar ++ '"' :: rest) := by
      simp [stringText]
    rw [value, split, valueFrom, skipBlanks_cons (by decide)]
    exact bind_eq_ok.mpr ⟨_, stringBody_escaped text rest, rfl⟩

theorem boundedNumber_of_within {least greatest value : Int}
    {expected : String} (within : least ≤ value ∧ value ≤ greatest)
    (rest : List Char) :
    boundedNumber least greatest expected (.whole value) rest =
      .ok (value, rest) := by
  rw [boundedNumber, if_pos within]

section Whole

variable (least greatest : Int) (expected : String) (depth : Nat)

theorem whole_minus (cs : List Char) :
    whole least greatest expected depth ('-' :: cs) =
      (numberBody true cs).bind fun read =>
        boundedNumber least greatest expected read.1 read.2 := rfl

theorem whole_digit {c : Char} (digit : c.isDigit = true) (cs : List Char) :
    whole least greatest expected depth (c :: cs) =
      (numberBody false (c :: cs)).bind fun read =>
        boundedNumber least greatest expected read.1 read.2 := by
  rw [whole, skipBlanks_cons (isBlank_of_isDigit digit)]
  split
  · next none => cases none
  · next minus =>
      obtain ⟨rfl, _⟩ := List.cons.inj minus
      cases digit
  · next same =>
      obtain ⟨rfl, rfl⟩ := List.cons.inj same
      rw [if_pos digit]
      rfl

end Whole

theorem compact_number (value : Number) :
    (Value.number value).compact = value.text.toList := rfl

/-- A whole number of at most 64 bits is read back within its bounds. -/
theorem reads_whole {least greatest value : Int} (expected : String)
    (levels : Nat) (within : least ≤ value ∧ value ≤ greatest)
    (exact : -(Nat.pow 2 63 : Nat) ≤ value ∧ value ≤ significandBound) :
    Reads (whole least greatest expected) levels
      (Value.number (.whole value)).compact value := by
  have small : value.natAbs ≤ significandBound := by
    have least : Nat.pow 2 63 ≤ significandBound := by decide
    omega
  rcases Int.lt_or_le value 0 with negative | positive
  · rw [compact_number, Number.text, toList_wholeText_of_neg negative]
    refine ⟨⟨'-', _, rfl, by decide, by decide⟩, ?_⟩
    intro depth rest _ stops
    rw [List.cons_append, whole_minus, numberBody_toDigits small true stops,
      wholeNumber_of_neg negative exact.1]
    exact boundedNumber_of_within within rest
  · rw [compact_number, Number.text, toList_wholeText_of_nonneg positive]
    obtain ⟨c, more, digits, digit⟩ := exists_toDigits value.natAbs
    refine ⟨⟨c, more, digits, isBlank_of_isDigit digit,
      ne_of_isDigit digit rfl⟩, ?_⟩
    intro depth rest _ stops
    have read := numberBody_toDigits small false stops
    rw [digits, List.cons_append] at read
    rw [digits, List.cons_append, whole_digit _ _ _ _ digit, read,
      wholeNumber_of_nonneg positive]
    exact boundedNumber_of_within within rest

/-! ## Brackets -/

section Brackets

variable {α : Type} {contents : Reader α} {levels : Nat} {inner : List Char}
  {value : α} (expected : String) (other : Option (Reader α))

theorem reads_inList
    (read : ∀ depth rest, levels < depth →
      contents depth (inner ++ ']' :: rest) = .ok (value, ']' :: rest)) :
    Reads (container expected (some contents) other) (levels + 1)
      ('[' :: inner ++ [']']) value where
  begins := ⟨'[', _, rfl, by decide, by decide⟩
  result := by
    intro depth rest enough _
    have split : '[' :: inner ++ [']'] ++ rest =
        '[' :: (inner ++ ']' :: rest) := by simp
    have entered : container expected (some contents) other depth
        ('[' :: (inner ++ ']' :: rest)) =
          nested closeList contents depth ('[' :: (inner ++ ']' :: rest)) :=
      rfl
    rw [split, entered, nested, if_neg (by omega), List.drop_one,
      List.tail_cons, read (depth - 1) rest (by omega)]
    rfl

theorem reads_inObject
    (read : ∀ depth rest, levels < depth →
      contents depth (inner ++ '}' :: rest) =
        .ok (value, '}' :: rest)) :
    Reads (container expected other (some contents)) (levels + 1)
      ('{' :: inner ++ ['}']) value where
  begins := ⟨'{', _, rfl, by decide, by decide⟩
  result := by
    intro depth rest enough _
    have split : '{' :: inner ++ ['}'] ++ rest =
        '{' :: (inner ++ '}' :: rest) := by simp
    have entered : container expected other (some contents) depth
        ('{' :: (inner ++ '}' :: rest)) =
          nested closeObject contents depth
            ('{' :: (inner ++ '}' :: rest)) := rfl
    rw [split, entered, nested, if_neg (by omega), List.drop_one,
      List.tail_cons, read (depth - 1) rest (by omega)]
    rfl

end Brackets

/-! ## Lists -/

theorem compactItems_cons (first : Value) (others : List Value) :
    compactItems (first :: others) =
      first.compact ++ others.flatMap fun item => ',' :: item.compact := by
  induction others generalizing first with
  | nil => exact (List.append_nil _).symm
  | cons second others induction =>
      rw [List.flatMap_cons, List.cons_append, ← induction second]
      rfl

section Items

variable {α : Type} {item : Reader α} {levels : Nat}

theorem Reads.moreItems_first {text : List Char} {value : α}
    (reads : Reads item levels text value) (tail : List Char) :
    moreItems true (text ++ tail) = .ok (true, text ++ tail) := by
  obtain ⟨c, more, rfl, visible, goesOn⟩ := reads.begins
  rw [List.cons_append, moreItems, skipBlanks_cons visible]
  split
  · next none => cases none
  · next ended =>
      obtain ⟨rfl, _⟩ := List.cons.inj ended
      exact absurd rfl goesOn
  · next same =>
      obtain ⟨rfl, rfl⟩ := List.cons.inj same
      rfl

theorem Reads.moreItems_later {text : List Char} {value : α}
    (reads : Reads item levels text value) (tail : List Char) :
    moreItems false (',' :: (text ++ tail)) = .ok (true, text ++ tail) := by
  obtain ⟨c, more, rfl, visible, goesOn⟩ := reads.begins
  have comma : isBlank ',' = false := by decide
  have notEnd : ',' ≠ ']' := by decide
  simp [moreItems, skipBlanks_cons comma, skipBlanks_cons visible, goesOn]

theorem itemsFrom_cons {depth fuel : Nat} {first : Bool} {cs text : List Char}
    {tail last : List Char} {value : α} {values : List α}
    (goesOn : moreItems first cs = .ok (true, text ++ tail))
    (read : item depth (text ++ tail) = .ok (value, tail))
    (others : itemsFrom item depth fuel false tail = .ok (values, last)) :
    itemsFrom item depth (fuel + 1) first cs =
      .ok (value :: values, last) := by
  exact bind_eq_ok.mpr ⟨_, goesOn, bind_eq_ok.mpr ⟨_, read,
    bind_eq_ok.mpr ⟨_, others, rfl⟩⟩⟩

variable {write : α → Value}

/-- The items behind the first one, each after a comma. -/
def othersText (write : α → Value) (values : List α) : List Char :=
  values.flatMap fun value => ',' :: (write value).compact

theorem stops_othersText (values : List α) (rest : List Char) :
    Stops (othersText write values ++ ']' :: rest) := by
  cases values with
  | nil => exact stops_cons (.inr (.inl rfl))
  | cons => exact stops_cons (.inl rfl)

theorem length_le_othersText (write : α → Value) (values : List α) :
    values.length ≤ (othersText write values).length := by
  induction values with
  | nil => exact Nat.zero_le _
  | cons value values induction =>
      simp only [othersText, List.flatMap_cons, List.length_append,
        List.length_cons] at induction ⊢
      omega

theorem itemsFrom_others {depth : Nat} (enough : levels < depth)
    (rest : List Char) (values : List α) :
    ∀ fuel : Nat, values.length < fuel →
      (∀ value ∈ values, Reads item levels (write value).compact value) →
      itemsFrom item depth fuel false
          (othersText write values ++ ']' :: rest) =
        .ok (values, ']' :: rest) := by
  induction values with
  | nil =>
      intro fuel more _
      cases fuel with
      | zero => cases more
      | succ fuel => rfl
  | cons value values induction =>
      intro fuel more reads
      cases fuel with
      | zero => cases more
      | succ fuel =>
          have first := reads value List.mem_cons_self
          have later := induction fuel (Nat.lt_of_succ_lt_succ more)
            fun other member => reads other (List.mem_cons_of_mem _ member)
          have split : othersText write (value :: values) ++ ']' :: rest =
              ',' :: ((write value).compact ++
                (othersText write values ++ ']' :: rest)) := by
            simp [othersText]
          rw [split]
          exact itemsFrom_cons (first.moreItems_later _)
            (first.result depth _ enough (stops_othersText values rest)) later

theorem items_written {depth : Nat} (enough : levels < depth)
    (rest : List Char) {values : List α}
    (reads : ∀ value ∈ values,
      Reads item levels (write value).compact value) :
    items item depth (compactItems (values.map write) ++ ']' :: rest) =
      .ok (values, ']' :: rest) := by
  unfold items
  cases values with
  | nil => rfl
  | cons value values =>
      have first := reads value List.mem_cons_self
      have split : compactItems ((value :: values).map write) ++ ']' :: rest =
          (write value).compact ++
            (othersText write values ++ ']' :: rest) := by
        rw [List.map_cons, compactItems_cons, List.append_assoc,
          List.flatMap_map]
        rfl
      rw [split]
      refine itemsFrom_cons (first.moreItems_first _)
        (first.result depth _ enough (stops_othersText values rest)) ?_
      refine itemsFrom_others enough rest values _ ?_
        fun other member => reads other (List.mem_cons_of_mem _ member)
      have long := length_le_othersText write values
      simp only [List.length_append, List.length_cons]
      omega

/-- A list is read back if each of its items is. -/
theorem reads_list {values : List α}
    (reads : ∀ value ∈ values,
      Reads item levels (write value).compact value) :
    Reads (listOf item) (levels + 1)
      (Value.array (values.map write)).compact values :=
  reads_inList "a sequence" none
    fun _ rest enough => items_written enough rest reads

end Items

/-! ## Objects -/

def memberText (member : String × Value) : List Char :=
  stringText member.1 ++ ':' :: member.2.compact

theorem compactMembers_cons (first : String × Value)
    (others : List (String × Value)) :
    compactMembers (first :: others) =
      memberText first ++ others.flatMap fun member =>
        ',' :: memberText member := by
  induction others generalizing first with
  | nil => exact (List.append_nil _).symm
  | cons second others induction =>
      rw [List.flatMap_cons, List.cons_append, ← induction second]
      simp [compactMembers, memberText]

/-- A plan reads these members one after the other, which leads from one state
to another one. -/
inductive Fills {σ : Type} (plan : σ → String → MemberPlan σ)
    (levels : Nat) : σ → List (String × Value) → σ → Prop where
  | none (state : σ) : Fills plan levels state [] state
  | member {state next last : σ} {name : String} {value : Value}
      {reader : Reader σ} {others : List (String × Value)} :
      plan state name = .read reader →
      Reads reader levels value.compact next →
      Fills plan levels next others last →
      Fills plan levels state ((name, value) :: others) last

/-- A member whose value is put into the state. -/
theorem Fills.stored {α σ : Type} {plan : σ → String → MemberPlan σ}
    {levels : Nat} {state last : σ} {name : String} {written : Value}
    {reader : Reader α} {store : α → σ} {value : α}
    {others : List (String × Value)} (next : σ)
    (planned : plan state name = .read (reader.into store))
    (reads : Reads reader levels written.compact value)
    (same : store value = next) (later : Fills plan levels next others last) :
    Fills plan levels state ((name, written) :: others) last :=
  .member planned (same ▸ reads.into store) later

section Members

variable {σ : Type} {plan : σ → String → MemberPlan σ} {levels : Nat}

theorem membersFrom_cons {depth fuel : Nat} {first : Bool}
    {cs tail after : List Char} {state next last : σ} {name : String}
    {value : Value} {reader : Reader σ}
    (goesOn : moreMembers first cs =
      .ok (true, memberText (name, value) ++ tail))
    (planned : plan state name = .read reader)
    (read : reader depth (value.compact ++ tail) = .ok (next, tail))
    (others : membersFrom plan depth fuel false next tail =
      .ok (last, after)) :
    membersFrom plan depth (fuel + 1) first state cs = .ok (last, after) := by
  have named : stringBody ((memberText (name, value) ++ tail).drop 1) =
      .ok (name, ':' :: (value.compact ++ tail)) := by
    have body := stringBody_escaped name (':' :: (value.compact ++ tail))
    simpa [memberText, stringText] using body
  have past : colon (':' :: (value.compact ++ tail)) =
      .ok (value.compact ++ tail) := rfl
  simp only [membersFrom, goesOn, named, planned, past, read, bind,
    Except.bind, if_true]
  exact others

def othersMembers (members : List (String × Value)) : List Char :=
  members.flatMap fun member => ',' :: memberText member

theorem stops_othersMembers (members : List (String × Value))
    (rest : List Char) :
    Stops (othersMembers members ++ '}' :: rest) := by
  cases members with
  | nil => exact stops_cons (.inr (.inr rfl))
  | cons => exact stops_cons (.inl rfl)

theorem membersFrom_others {depth : Nat} (enough : levels < depth)
    (rest : List Char) {state last : σ} {members : List (String × Value)}
    (fills : Fills plan levels state members last) :
    ∀ fuel : Nat, members.length < fuel →
      membersFrom plan depth fuel false state
          (othersMembers members ++ '}' :: rest) =
        .ok (last, '}' :: rest) := by
  induction fills with
  | none state =>
      intro fuel more
      cases fuel with
      | zero => cases more
      | succ fuel => rfl
  | @member state next last name value reader others planned reads _ induction =>
      intro fuel more
      cases fuel with
      | zero => cases more
      | succ fuel =>
          have later := induction fuel (Nat.lt_of_succ_lt_succ more)
          have stops := stops_othersMembers others rest
          have goesOn : moreMembers false
              (othersMembers ((name, value) :: others) ++ '}' :: rest) =
                .ok (true, memberText (name, value) ++
                  (othersMembers others ++ '}' :: rest)) := by
            rw [othersMembers, List.flatMap_cons, List.append_assoc]
            rfl
          exact membersFrom_cons goesOn planned
            (reads.result depth _ enough stops) later

theorem length_le_othersMembers (members : List (String × Value)) :
    members.length ≤ (othersMembers members).length := by
  induction members with
  | nil => exact Nat.zero_le _
  | cons member members induction =>
      simp only [othersMembers, List.flatMap_cons, List.length_append,
        List.length_cons] at induction ⊢
      omega

theorem members_written {start last : σ} {depth : Nat}
    (enough : levels < depth) (rest : List Char)
    {written : List (String × Value)}
    (fills : Fills plan levels start written last) :
    members plan start depth (compactMembers written ++ '}' :: rest) =
      .ok (last, '}' :: rest) := by
  unfold members
  cases fills with
  | none => rfl
  | @member _ next _ name value reader others planned reads fills =>
      have split : compactMembers ((name, value) :: others) ++
          '}' :: rest = memberText (name, value) ++
            (othersMembers others ++ '}' :: rest) := by
        rw [compactMembers_cons, List.append_assoc]
        rfl
      rw [split]
      have long := length_le_othersMembers others
      refine membersFrom_cons rfl planned (reads.result depth _ enough
        (stops_othersMembers others rest)) ?_
      refine membersFrom_others enough rest fills _ ?_
      simp only [List.length_append, List.length_cons]
      omega

/-- The members of an object of values of one type are gathered last first. -/
theorem fills_entries {α : Type} {item : Reader α} {write : α → Value}
    (entries : List (String × α)) :
    ∀ seen : List (String × α),
      (∀ entry ∈ entries, Reads item levels (write entry.2).compact entry.2) →
      Fills (fun (found : List (String × α)) name =>
          .read (item.into fun value => (name, value) :: found))
        levels seen (entries.map fun entry => (entry.1, write entry.2))
        (entries.reverse ++ seen) := by
  induction entries with
  | nil => exact fun seen _ => .none seen
  | cons entry entries induction =>
      intro seen reads
      have first := reads entry List.mem_cons_self
      have later := induction (entry :: seen)
        fun other member => reads other (List.mem_cons_of_mem _ member)
      rw [List.reverse_cons, List.append_assoc]
      exact .stored (entry :: seen) rfl first rfl later

/-- An object of values of one type is read back if each of them is. -/
theorem reads_map {α : Type} {item : Reader α} {write : α → Value}
    {entries : List (String × α)}
    (reads : ∀ entry ∈ entries,
      Reads item levels (write entry.2).compact entry.2) :
    Reads (mapOf item) (levels + 1)
      (Value.object (entries.map fun entry =>
        (entry.1, write entry.2))).compact entries := by
  refine reads_inObject "a map" none ?_
  intro depth rest enough
  have read := members_written enough rest (fills_entries entries [] reads)
  refine bind_eq_ok.mpr ⟨_, read, ?_⟩
  simp [pure, Except.pure]

end Members

/-! ## Texts -/

/-- The text of a value is read as that value. -/
theorem readText_written {α : Type} {reader : Reader α} {levels : Nat}
    {written : Value} {value : α}
    (reads : Reads reader levels written.compact value)
    (flat : levels < depthLimit) :
    readText reader written.compactText = .ok value := by
  have read := reads.result depthLimit [] flat stops_nil
  rw [List.append_nil] at read
  rw [readText, Value.compactText, String.toList_ofList, read]
  rfl

end OperatorConsole.Json
