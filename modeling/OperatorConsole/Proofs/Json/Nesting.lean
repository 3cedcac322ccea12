import OperatorConsole.Proofs.Json.Skipping

/-!
# Skipping values

A value of any depth is skipped by a machine that holds the containers it is in
on a stack.  What it skips is a value, followed by a text that closes these
containers; and it skips every value of the grammar that is delimited.
-/

namespace OperatorConsole.Json

theorem Padded.of_blanks {before after : List Char} (front : Blanks before)
    (back : Blanks after) (inner : List Char) :
    Padded inner (before ++ (inner ++ after)) :=
  ⟨before, after, front, back, rfl⟩

/-- What is left of a padded text is the text with the blanks behind it. -/
theorem Padded.exists_skipBlanks {c : Char} {more text : List Char}
    (padded : Padded (c :: more) text) (visible : isBlank c = false) :
    ∃ after, skipBlanks text = c :: more ++ after := by
  obtain ⟨before, after, blank, _, rfl⟩ := padded
  exact ⟨after, skipBlanks_blanks blank visible (more ++ after)⟩

/-! ## Names -/

section Names

variable {cs rest front name : List Char}

theorem colon_eq_ok_iff :
    colon cs = .ok rest ↔
      ∃ before, Blanks before ∧ cs = before ++ ':' :: rest := by
  constructor
  · intro read
    obtain ⟨before, blank, split⟩ := exists_blanks cs
    unfold colon at read
    split at read
    · cases read
    · next stands =>
        cases read
        exact ⟨before, blank, by rw [← stands, ← split]⟩
    · cases read
  · rintro ⟨before, blank, rfl⟩
    rw [colon, skipBlanks_blanks blank (by decide)]
    rfl

theorem skipName_eq_ok_iff :
    skipName cs = .ok rest ↔ ∃ name front, IsString name ∧
      Padded (quoted name) front ∧ cs = front ++ ':' :: rest := by
  constructor
  · intro skipped
    obtain ⟨before, blank, split⟩ := exists_blanks cs
    unfold skipName at skipped
    split at skipped
    · cases skipped
    · next stands =>
        obtain ⟨tail, inside, behind⟩ := bind_eq_ok.mp skipped
        obtain ⟨name, isString, rfl⟩ := isString_of_skipString inside
        obtain ⟨after, afterBlank, rfl⟩ := colon_eq_ok_iff.mp behind
        refine ⟨name, _, isString, .of_blanks blank afterBlank _, ?_⟩
        rw [split, stands]
        simp [quoted]
    · cases skipped
  · rintro ⟨name, _, isString, ⟨before, after, blank, afterBlank, rfl⟩, rfl⟩
    have text : before ++ (quoted name ++ after) ++ ':' :: rest =
        before ++ '"' :: (name ++ '"' :: (after ++ ':' :: rest)) := by
      simp [quoted]
    rw [text, skipName, skipBlanks_blanks blank (by decide)]
    exact bind_eq_ok.mpr ⟨_, skipString_of_isString isString _,
      colon_eq_ok_iff.mpr ⟨after, afterBlank, rfl⟩⟩

theorem skipName_skipBlanks (cs : List Char) :
    skipName (skipBlanks cs) = skipName cs := by
  rw [skipName, skipBlanks_skipBlanks, skipName]

end Names

/-! ## What is skipped -/

/-- A text that follows a value and closes the containers which it is in. -/
inductive Closes : List Frame → List Char → Prop where
  | none : Closes [] []
  | endList {outer : List Frame} {before text : List Char}
      (blank : Blanks before) (closes : Closes outer text) :
      Closes (.list :: outer) (before ++ ']' :: text)
  | nextItem {outer : List Frame} {before front value text : List Char}
      (blank : Blanks before) (frontBlank : Blanks front)
      (isValue : IsValue value) (closes : Closes (.list :: outer) text) :
      Closes (.list :: outer) (before ++ ',' :: (front ++ (value ++ text)))
  | endObject {outer : List Frame} {before text : List Char}
      (blank : Blanks before) (closes : Closes outer text) :
      Closes (.object :: outer) (before ++ '}' :: text)
  | nextMember {outer : List Frame}
      {before name named front value text : List Char}
      (blank : Blanks before) (isString : IsString name)
      (padded : Padded (quoted name) named) (frontBlank : Blanks front)
      (isValue : IsValue value) (closes : Closes (.object :: outer) text) :
      Closes (.object :: outer)
        (before ++ ',' :: (named ++ ':' :: (front ++ (value ++ text))))

/-- With a value before it, a text that closes a list makes items. -/
theorem Closes.items {outer : List Frame} {text : List Char}
    (closes : Closes (.list :: outer) text) :
    ∃ tail after, Closes outer after ∧ text = tail ++ ']' :: after ∧
      ∀ front value, Blanks front → IsValue value →
        IsItems (front ++ (value ++ tail)) := by
  generalize same : Frame.list :: outer = frames at closes
  induction closes with
  | endList blank closes _ =>
      cases same
      exact ⟨_, _, closes, rfl, fun front value frontBlank isValue =>
        .last isValue (.of_blanks frontBlank blank value)⟩
  | @nextItem _ before next item _ blank nextBlank isItem _ induction =>
      cases same
      obtain ⟨tail, after, closed, rfl, areItems⟩ := induction rfl
      refine ⟨before ++ ',' :: (next ++ (item ++ tail)), after, closed,
        by simp, ?_⟩
      intro front value frontBlank isValue
      have others := IsItems.more isValue (.of_blanks frontBlank blank value)
        (areItems next item nextBlank isItem)
      simpa using others
  | none | endObject | nextMember => cases same

/-- With a member before it, a text that closes an object makes members. -/
theorem Closes.members {outer : List Frame} {text : List Char}
    (closes : Closes (.object :: outer) text) :
    ∃ tail after, Closes outer after ∧ text = tail ++ '}' :: after ∧
      ∀ name named front value, IsString name → Padded (quoted name) named →
        Blanks front → IsValue value →
        ∃ members, IsMembers members
          (named ++ ':' :: (front ++ (value ++ tail))) := by
  generalize same : Frame.object :: outer = frames at closes
  induction closes with
  | endObject blank closes _ =>
      cases same
      exact ⟨_, _, closes, rfl,
        fun name named front value isString padded frontBlank isValue =>
          ⟨_, .last isString padded isValue
            (.of_blanks frontBlank blank value)⟩⟩
  | @nextMember _ before nextName nextNamed next item _ blank nextIsString
      nextPadded nextBlank isItem _ induction =>
      cases same
      obtain ⟨tail, after, closed, rfl, areMembers⟩ := induction rfl
      refine ⟨before ++ ',' :: (nextNamed ++ ':' :: (next ++ (item ++ tail))),
        after, closed, by simp, ?_⟩
      intro name named front value isString padded frontBlank isValue
      obtain ⟨members, others⟩ := areMembers nextName nextNamed next item
        nextIsString nextPadded nextBlank isItem
      have more := IsMembers.more isString padded isValue
        (.of_blanks frontBlank blank value) others
      exact ⟨_, by simpa using more⟩
  | none | endList | nextItem => cases same

/-- A value in some containers is skipped together with their rest. -/
def SkipsValue (fuel : Nat) : Prop :=
  ∀ {frames : List Frame} {cs rest : List Char}, cs.length < fuel →
    skipFrom fuel frames cs = .ok rest →
      ∃ before value text, Blanks before ∧ IsValue value ∧
        Closes frames text ∧ cs = before ++ (value ++ (text ++ rest))

def SkipsRest (fuel : Nat) : Prop :=
  ∀ {frames : List Frame} {cs rest : List Char}, cs.length < fuel →
    leaveFrom fuel frames cs = .ok rest →
      ∃ text, Closes frames text ∧ cs = text ++ rest

/-- What is left after blanks, and how much of it there can be. -/
theorem exists_blanks_before {cs rest : List Char} {c : Char}
    (stands : skipBlanks cs = c :: rest) :
    ∃ before, Blanks before ∧ cs = before ++ c :: rest ∧
      rest.length < cs.length := by
  obtain ⟨before, blank, split⟩ := exists_blanks cs
  rw [stands] at split
  refine ⟨before, blank, split, ?_⟩
  rw [split, List.length_append, List.length_cons]
  omega

theorem IsObject.begins {members : List Member} {text : List Char}
    (isObject : IsObject members text) : ∃ more, text = '{' :: more := by
  cases isObject with
  | empty _ => exact ⟨_, rfl⟩
  | members _ => exact ⟨_, rfl⟩

/-- A character with which a number can begin. -/
structure BeginsNumber (c : Char) : Prop where
  visible : isBlank c = false
  notList : c ≠ '['
  notObject : c ≠ '{'
  notListEnd : c ≠ ']'
  notObjectEnd : c ≠ '}'

theorem IsNumber.head {text : List Char} (isNumber : IsNumber text) :
    ∃ c more, text = c :: more ∧ BeginsNumber c := by
  cases isNumber with
  | negative _ =>
      exact ⟨'-', _, rfl, by decide, by decide, by decide, by decide,
        by decide⟩
  | positive isMagnitude =>
      obtain ⟨c, more, rfl, digit⟩ := isMagnitude.head
      exact ⟨c, more, rfl, isBlank_of_isDigit digit, ne_of_isDigit digit rfl,
        ne_of_isDigit digit rfl, ne_of_isDigit digit rfl,
        ne_of_isDigit digit rfl⟩

/-- A value begins with none of the marks that may stand between values. -/
theorem IsValue.begins {value : List Char} (isValue : IsValue value) :
    ∃ c more, value = c :: more ∧ isBlank c = false ∧ c ≠ ']' ∧ c ≠ '}' := by
  cases isValue with
  | word isName =>
      simp only [literalNames, List.mem_cons, List.not_mem_nil, or_false]
        at isName
      rcases isName with rfl | rfl | rfl
      · exact ⟨'n', _, rfl, by decide, by decide, by decide⟩
      · exact ⟨'t', _, rfl, by decide, by decide, by decide⟩
      · exact ⟨'f', _, rfl, by decide, by decide, by decide⟩
  | string _ => exact ⟨'"', _, rfl, by decide, by decide, by decide⟩
  | emptyList _ => exact ⟨'[', _, rfl, by decide, by decide, by decide⟩
  | list _ => exact ⟨'[', _, rfl, by decide, by decide, by decide⟩
  | object isObject =>
      obtain ⟨more, rfl⟩ := isObject.begins
      exact ⟨'{', more, rfl, by decide, by decide, by decide⟩
  | number isNumber =>
      obtain ⟨c, more, rfl, isFirst⟩ := isNumber.head
      exact ⟨c, more, rfl, isFirst.visible, isFirst.notListEnd,
        isFirst.notObjectEnd⟩

section Steps

variable {fuel : Nat} {frames : List Frame} {cs inside : List Char}

theorem skipFrom_list (stands : skipBlanks cs = '[' :: inside) :
    skipFrom (fuel + 1) frames cs =
      match skipBlanks inside with
      | [] => .error (.atNext .endInList [])
      | ']' :: rest => leaveFrom fuel frames rest
      | rest => skipFrom fuel (.list :: frames) rest := by
  rw [skipFrom, stands]
  rfl

theorem skipFrom_object (stands : skipBlanks cs = '{' :: inside) :
    skipFrom (fuel + 1) frames cs =
      match skipBlanks inside with
      | [] => .error (.atNext .endInObject [])
      | '}' :: rest => leaveFrom fuel frames rest
      | rest => skipName rest >>= skipFrom fuel (.object :: frames) := by
  rw [skipFrom, stands]
  rfl

end Steps

section Sound

variable {fuel : Nat} {frames : List Frame} {cs inside rest : List Char}

theorem skipsValue_list (value : SkipsValue fuel) (others : SkipsRest fuel)
    (short : inside.length < fuel) (stands : skipBlanks cs = '[' :: inside)
    (skipped : skipFrom (fuel + 1) frames cs = .ok rest) :
    ∃ list text, IsValue ('[' :: list) ∧ Closes frames text ∧
      inside = list ++ (text ++ rest) := by
  obtain ⟨between, blank, split⟩ := exists_blanks inside
  have long := congrArg List.length split
  rw [List.length_append] at long
  rw [skipFrom_list stands] at skipped
  split at skipped
  · cases skipped
  · next behind =>
      rw [behind, List.length_cons] at long
      obtain ⟨text, closes, rfl⟩ := others (by omega) skipped
      refine ⟨_, text, .emptyList blank, closes, ?_⟩
      rw [split, behind]
      simp
  · obtain ⟨front, item, text, frontBlank, isItem, closes, behind⟩ :=
      value (by omega) skipped
    obtain ⟨tail, after, closed, rfl, areItems⟩ := closes.items
    have items := areItems _ item (blank.append frontBlank) isItem
    refine ⟨_, after, .list items, closed, ?_⟩
    rw [split, behind]
    simp

theorem skipsValue_object (value : SkipsValue fuel) (others : SkipsRest fuel)
    (short : inside.length < fuel) (stands : skipBlanks cs = '{' :: inside)
    (skipped : skipFrom (fuel + 1) frames cs = .ok rest) :
    ∃ object text, IsValue ('{' :: object) ∧ Closes frames text ∧
      inside = object ++ (text ++ rest) := by
  obtain ⟨between, blank, split⟩ := exists_blanks inside
  have long := congrArg List.length split
  rw [List.length_append] at long
  rw [skipFrom_object stands] at skipped
  split at skipped
  · cases skipped
  · next behind =>
      rw [behind, List.length_cons] at long
      obtain ⟨text, closes, rfl⟩ := others (by omega) skipped
      refine ⟨_, text, .object (.empty blank), closes, ?_⟩
      rw [split, behind]
      simp
  · obtain ⟨tail, named, later⟩ := bind_eq_ok.mp skipped
    rw [skipName_skipBlanks] at named
    obtain ⟨name, head, isString, padded, rfl⟩ := skipName_eq_ok_iff.mp named
    rw [List.length_append, List.length_cons] at short
    obtain ⟨front, item, text, frontBlank, isItem, closes, rfl⟩ :=
      value (by omega) later
    obtain ⟨tail, after, closed, rfl, areMembers⟩ := closes.members
    obtain ⟨members, are⟩ :=
      areMembers name head front item isString padded frontBlank isItem
    exact ⟨_, after, .object (.members are), closed, by simp⟩

theorem skipsValue_scalar (others : SkipsRest fuel)
    (short : cs.length < fuel + 1)
    (skipped : (skipScalar (skipBlanks cs) >>= leaveFrom fuel frames) =
      .ok rest) :
    ∃ before item text, Blanks before ∧ IsValue item ∧ Closes frames text ∧
      cs = before ++ (item ++ (text ++ rest)) := by
  obtain ⟨before, blank, split⟩ := exists_blanks cs
  obtain ⟨tail, scalar, later⟩ := bind_eq_ok.mp skipped
  obtain ⟨item, isItem, stands⟩ := isValue_of_skipScalar scalar
  obtain ⟨c, more, same, _⟩ := isItem.begins
  rw [stands] at split
  rw [split, same, List.length_append, List.length_append, List.length_cons]
    at short
  obtain ⟨text, closes, rfl⟩ := others (by omega) later
  exact ⟨before, item, text, blank, isItem, closes, split⟩

theorem skipsRest_list (value : SkipsValue fuel) (others : SkipsRest fuel)
    (short : cs.length < fuel + 1)
    (skipped : leaveFrom (fuel + 1) (.list :: frames) cs = .ok rest) :
    ∃ text, Closes (.list :: frames) text ∧ cs = text ++ rest := by
  rw [leaveFrom] at skipped
  split at skipped
  · cases skipped
  · next stands =>
      obtain ⟨before, blank, rfl, fewer⟩ := exists_blanks_before stands
      obtain ⟨front, item, text, frontBlank, isItem, closes, rfl⟩ :=
        value (by omega) skipped
      exact ⟨_, .nextItem blank frontBlank isItem closes, by simp⟩
  · next stands =>
      obtain ⟨before, blank, rfl, fewer⟩ := exists_blanks_before stands
      obtain ⟨text, closes, rfl⟩ := others (by omega) skipped
      exact ⟨_, .endList blank closes, by simp⟩
  · cases skipped

theorem skipsRest_object (value : SkipsValue fuel) (others : SkipsRest fuel)
    (short : cs.length < fuel + 1)
    (skipped : leaveFrom (fuel + 1) (.object :: frames) cs = .ok rest) :
    ∃ text, Closes (.object :: frames) text ∧ cs = text ++ rest := by
  rw [leaveFrom] at skipped
  split at skipped
  · cases skipped
  · next stands =>
      obtain ⟨before, blank, rfl, fewer⟩ := exists_blanks_before stands
      obtain ⟨tail, named, later⟩ := bind_eq_ok.mp skipped
      obtain ⟨name, head, isString, padded, rfl⟩ := skipName_eq_ok_iff.mp named
      have split : (head ++ ':' :: tail).length =
          head.length + (tail.length + 1) := List.length_append
      obtain ⟨front, item, text, frontBlank, isItem, closes, rfl⟩ :=
        value (by omega) later
      exact ⟨_, .nextMember blank isString padded frontBlank isItem closes,
        by simp⟩
  · next stands =>
      obtain ⟨before, blank, rfl, fewer⟩ := exists_blanks_before stands
      obtain ⟨text, closes, rfl⟩ := others (by omega) skipped
      exact ⟨_, .endObject blank closes, by simp⟩
  · cases skipped

end Sound

/-- Every step takes a character, so the fuel lasts and each call is about fewer
characters than the one before. -/
theorem skips_sound (fuel : Nat) : SkipsValue fuel ∧ SkipsRest fuel := by
  induction fuel with
  | zero =>
      exact ⟨fun short => absurd short (Nat.not_lt_zero _),
        fun short => absurd short (Nat.not_lt_zero _)⟩
  | succ fuel induction =>
      obtain ⟨value, others⟩ := induction
      constructor
      · intro frames cs rest short skipped
        have step := skipped
        rw [skipFrom] at step
        split at step
        · next stands =>
            obtain ⟨before, blank, rfl, fewer⟩ := exists_blanks_before stands
            obtain ⟨list, text, isValue, closes, rfl⟩ :=
              skipsValue_list value others (by omega) stands skipped
            exact ⟨before, _, text, blank, isValue, closes, rfl⟩
        · next stands =>
            obtain ⟨before, blank, rfl, fewer⟩ := exists_blanks_before stands
            obtain ⟨object, text, isValue, closes, rfl⟩ :=
              skipsValue_object value others (by omega) stands skipped
            exact ⟨before, _, text, blank, isValue, closes, rfl⟩
        · exact skipsValue_scalar others short step
      · intro frames cs rest short skipped
        cases frames with
        | nil =>
            cases skipped
            exact ⟨[], .none, rfl⟩
        | cons frame outer =>
            cases frame with
            | list => exact skipsRest_list value others short skipped
            | object => exact skipsRest_object value others short skipped

/-! ## What can be skipped -/

theorem Stops.delimited {rest : List Char} (stops : Stops rest) :
    Delimited rest := by
  intro c first
  rcases stops c first with rfl | rfl | rfl
  all_goals decide

theorem Blanks.delimited {before rest : List Char} (blank : Blanks before)
    (delimited : Delimited rest) : Delimited (before ++ rest) := by
  cases before with
  | nil => exact delimited
  | cons c before =>
      intro first member
      cases member
      have isBlank := blank c List.mem_cons_self
      simp only [Json.isBlank, Bool.or_eq_true, decide_eq_true_eq] at isBlank
      rcases isBlank with ((rfl | rfl) | rfl) | rfl
      all_goals decide

/-- The machine has come to the end of a value, with fuel for what follows. -/
def GoesOn (frames : List Frame) (rest : List Char)
    (result : Except Fault (List Char)) : Prop :=
  ∃ fuel, rest.length < fuel ∧ result = leaveFrom fuel frames rest

section Marks

variable {outer : List Frame} {before rest : List Char}
  {result : Except Fault (List Char)}

/-- What is left behind a mark is shorter, so one step less of fuel lasts. -/
theorem exists_fuel_behind (before : List Char) {c : Char} {fuel : Nat}
    (enough : (before ++ c :: rest).length < fuel) :
    ∃ left, fuel = left + 1 ∧ rest.length < left := by
  rw [List.length_append, List.length_cons] at enough
  exact ⟨fuel - 1, by omega, by omega⟩

theorem GoesOn.exists_fuel {c : Char} {frames : List Frame}
    (goesOn : GoesOn frames (before ++ c :: rest) result) :
    ∃ fuel, rest.length < fuel ∧
      result = leaveFrom (fuel + 1) frames (before ++ c :: rest) := by
  obtain ⟨_, enough, rfl⟩ := goesOn
  obtain ⟨fuel, rfl, lasts⟩ := exists_fuel_behind before enough
  exact ⟨fuel, lasts, rfl⟩

theorem GoesOn.endList (blank : Blanks before)
    (goesOn : GoesOn (.list :: outer) (before ++ ']' :: rest) result) :
    GoesOn outer rest result := by
  obtain ⟨fuel, lasts, rfl⟩ := goesOn.exists_fuel
  refine ⟨fuel, lasts, ?_⟩
  rw [leaveFrom, skipBlanks_blanks blank (by decide)]
  rfl

theorem GoesOn.nextItem (blank : Blanks before)
    (goesOn : GoesOn (.list :: outer) (before ++ ',' :: rest) result) :
    ∃ fuel, rest.length < fuel ∧
      result = skipFrom fuel (.list :: outer) rest := by
  obtain ⟨fuel, lasts, rfl⟩ := goesOn.exists_fuel
  refine ⟨fuel, lasts, ?_⟩
  rw [leaveFrom, skipBlanks_blanks blank (by decide)]
  rfl

theorem GoesOn.endObject (blank : Blanks before)
    (goesOn : GoesOn (.object :: outer) (before ++ '}' :: rest) result) :
    GoesOn outer rest result := by
  obtain ⟨fuel, lasts, rfl⟩ := goesOn.exists_fuel
  refine ⟨fuel, lasts, ?_⟩
  rw [leaveFrom, skipBlanks_blanks blank (by decide)]
  rfl

theorem GoesOn.nextMember (blank : Blanks before)
    (goesOn : GoesOn (.object :: outer) (before ++ ',' :: rest) result) :
    ∃ fuel, rest.length < fuel ∧
      result = skipName rest >>= skipFrom fuel (.object :: outer) := by
  obtain ⟨fuel, lasts, rfl⟩ := goesOn.exists_fuel
  refine ⟨fuel, lasts, ?_⟩
  rw [leaveFrom, skipBlanks_blanks blank (by decide)]
  rfl

end Marks

/-- Blanks before a value make no difference while there is fuel. -/
theorem skipFrom_blanks {fuel : Nat} {before cs : List Char}
    (blank : Blanks before) (enough : (before ++ cs).length < fuel)
    (frames : List Frame) :
    skipFrom fuel frames (before ++ cs) = skipFrom fuel frames cs := by
  cases fuel with
  | zero => exact absurd enough (Nat.not_lt_zero _)
  | succ fuel => rw [skipFrom, skipBlanks_append blank, skipFrom]

section Fuel

variable {fuel : Nat} {front cs : List Char}

theorem fewer_of_append (enough : (front ++ cs).length < fuel) :
    cs.length < fuel := by
  rw [List.length_append] at enough
  omega

theorem fewer_of_cons {c : Char} (enough : (c :: cs).length < fuel) :
    cs.length < fuel :=
  Nat.lt_of_succ_lt enough

end Fuel

theorem IsItems.begins {items : List Char} (areItems : IsItems items) :
    ∃ before c more, Blanks before ∧ items = before ++ c :: more ∧
      isBlank c = false ∧ c ≠ ']' := by
  have first {value text : List Char} (isValue : IsValue value)
      (padded : Padded value text) :
      ∃ before c more, Blanks before ∧ text = before ++ c :: more ∧
        isBlank c = false ∧ c ≠ ']' := by
    obtain ⟨before, after, blank, _, rfl⟩ := padded
    obtain ⟨c, more, rfl, visible, notEnd, _⟩ := isValue.begins
    exact ⟨before, c, _, blank, rfl, visible, notEnd⟩
  cases areItems with
  | last isValue padded => exact first isValue padded
  | @more _ _ others isValue padded _ =>
      obtain ⟨before, c, more, blank, rfl, visible, notEnd⟩ :=
        first isValue padded
      exact ⟨before, c, more ++ ',' :: others, blank, by simp, visible,
        notEnd⟩

theorem IsMembers.begins {members : List Member} {text : List Char}
    (areMembers : IsMembers members text) :
    ∃ before more, Blanks before ∧ text = before ++ '"' :: more := by
  have first {name front : List Char} (named : Padded (quoted name) front)
      (back : List Char) : ∃ before more, Blanks before ∧
        front ++ ':' :: back = before ++ '"' :: more := by
    obtain ⟨before, after, blank, _, rfl⟩ := named
    exact ⟨before, name ++ '"' :: (after ++ ':' :: back), blank,
      by simp [quoted]⟩
  cases areMembers with
  | last _ named _ _ => exact first named _
  | more _ named _ _ _ => exact first named _

section Complete

variable {fuel : Nat} {frames : List Frame} {cs rest : List Char}

theorem goesOn_scalar {c : Char} {more : List Char}
    (visible : isBlank c = false) (notList : c ≠ '[') (notObject : c ≠ '{')
    (skipped : skipScalar (c :: (more ++ rest)) = .ok rest)
    (enough : (c :: (more ++ rest)).length < fuel) :
    GoesOn frames rest (skipFrom fuel frames (c :: (more ++ rest))) := by
  cases fuel with
  | zero => exact absurd enough (Nat.not_lt_zero _)
  | succ fuel =>
      refine ⟨fuel, ?_, ?_⟩
      · rw [List.length_cons, List.length_append] at enough
        omega
      · rw [skipFrom, skipBlanks_cons visible]
        split
        · next same => exact absurd (List.cons.inj same).1 notList
        · next same => exact absurd (List.cons.inj same).1 notObject
        · rw [skipped]
          rfl

theorem goesOn_emptyList {between : List Char} (blank : Blanks between)
    (enough : ('[' :: (between ++ ']' :: rest)).length < fuel) :
    GoesOn frames rest
      (skipFrom fuel frames ('[' :: (between ++ ']' :: rest))) := by
  obtain ⟨fuel, rfl, lasts⟩ := exists_fuel_behind [] enough
  refine ⟨fuel, ?_, ?_⟩
  · rw [List.length_append, List.length_cons] at lasts
    omega
  · rw [skipFrom_list (skipBlanks_cons (by decide) _),
      skipBlanks_blanks blank (by decide)]
    rfl

theorem goesOn_emptyObject {between : List Char} (blank : Blanks between)
    (enough : ('{' :: (between ++ '}' :: rest)).length < fuel) :
    GoesOn frames rest
      (skipFrom fuel frames ('{' :: (between ++ '}' :: rest))) := by
  obtain ⟨fuel, rfl, lasts⟩ := exists_fuel_behind [] enough
  refine ⟨fuel, ?_, ?_⟩
  · rw [List.length_append, List.length_cons] at lasts
    omega
  · rw [skipFrom_object (skipBlanks_cons (by decide) _),
      skipBlanks_blanks blank (by decide)]
    rfl

/-- A list is entered with its first item next. -/
theorem exists_skipFrom_items {items : List Char} (areItems : IsItems items)
    (enough : ('[' :: (items ++ rest)).length < fuel) :
    ∃ left, (items ++ rest).length < left ∧
      skipFrom fuel frames ('[' :: (items ++ rest)) =
        skipFrom left (.list :: frames) (items ++ rest) := by
  obtain ⟨fuel, rfl, lasts⟩ := exists_fuel_behind [] enough
  refine ⟨fuel, lasts, ?_⟩
  obtain ⟨before, c, more, blank, rfl, visible, notEnd⟩ := areItems.begins
  rw [List.append_assoc] at lasts ⊢
  rw [skipFrom_list (skipBlanks_cons (by decide) _),
    skipFrom_blanks blank lasts, List.cons_append,
    skipBlanks_blanks blank visible]
  split
  · next none => cases none
  · next ended => exact absurd (List.cons.inj ended).1 notEnd
  · rfl

/-- An object is entered with its first name next. -/
theorem exists_skipFrom_members {members : List Member} {text : List Char}
    (areMembers : IsMembers members text)
    (enough : ('{' :: (text ++ rest)).length < fuel) :
    ∃ left, (text ++ rest).length < left ∧
      skipFrom fuel frames ('{' :: (text ++ rest)) =
        skipName (text ++ rest) >>= skipFrom left (.object :: frames) := by
  obtain ⟨fuel, rfl, lasts⟩ := exists_fuel_behind [] enough
  refine ⟨fuel, lasts, ?_⟩
  obtain ⟨before, more, blank, rfl⟩ := areMembers.begins
  rw [skipFrom_object (skipBlanks_cons (by decide) _),
    ← skipName_skipBlanks (before ++ '"' :: more ++ rest), List.append_assoc,
    List.cons_append, skipBlanks_blanks blank (by decide)]
  rfl

/-- The name of a member is skipped, and the value stands next. -/
theorem skipName_member {name front : List Char} (isString : IsString name)
    (named : Padded (quoted name) front) (cs : List Char) :
    (skipName (front ++ ':' :: cs) >>= skipFrom fuel frames) =
      skipFrom fuel frames cs := by
  rw [skipName_eq_ok_iff.mpr ⟨name, front, isString, named, rfl⟩]
  rfl

end Complete

/-! The recursion is along the text, as the machine follows it. -/

mutual

theorem goesOn_value : ∀ {value : List Char}, IsValue value →
    ∀ {fuel : Nat} {frames : List Frame} {rest : List Char},
      Delimited rest → (value ++ rest).length < fuel →
        GoesOn frames rest (skipFrom fuel frames (value ++ rest))
  | _, .word isName, _, _, _, _, enough => by
      simp only [literalNames, List.mem_cons, List.not_mem_nil, or_false]
        at isName
      rcases isName with rfl | rfl | rfl
      all_goals
        exact goesOn_scalar (by decide) (by decide) (by decide)
          (word_eq_ok_iff.mpr rfl) enough
  | _, .number isNumber, _, _, _, delimited, enough => by
      have skipped := skipScalar_of_isNumber isNumber delimited
      obtain ⟨c, more, rfl, isFirst⟩ := isNumber.head
      exact goesOn_scalar isFirst.visible isFirst.notList isFirst.notObject
        skipped enough
  | _, .string isString, _, _, rest, _, enough => by
      refine goesOn_scalar (by decide) (by decide) (by decide) ?_ enough
      rw [List.append_assoc]
      exact skipString_of_isString isString rest
  | _, .emptyList blank, _, _, _, _, enough => by
      rw [List.cons_append, List.append_assoc] at enough ⊢
      exact goesOn_emptyList blank enough
  | _, .list areItems, _, _, _, _, enough => by
      rw [List.cons_append, List.append_assoc] at enough ⊢
      obtain ⟨left, lasts, same⟩ := exists_skipFrom_items areItems enough
      rw [same]
      exact goesOn_items areItems lasts
  | _, .object isObject, _, _, _, _, enough => by
      exact goesOn_object isObject enough

theorem goesOn_items : ∀ {items : List Char}, IsItems items →
    ∀ {fuel : Nat} {outer : List Frame} {rest : List Char},
      (items ++ ']' :: rest).length < fuel →
        GoesOn outer rest
          (skipFrom fuel (.list :: outer) (items ++ ']' :: rest))
  | _, .last isValue padded, _, _, rest, enough => by
      obtain ⟨before, after, blank, afterBlank, rfl⟩ := padded
      rw [List.append_assoc, List.append_assoc] at enough ⊢
      rw [skipFrom_blanks blank enough]
      have stops : Stops (']' :: rest) := stops_cons (.inr (.inl rfl))
      have ends := afterBlank.delimited stops.delimited
      exact (goesOn_value isValue ends (fewer_of_append enough)).endList
        afterBlank
  | _, @IsItems.more value _ others isValue padded areOthers, _, _, rest,
      enough => by
      obtain ⟨before, after, blank, afterBlank, rfl⟩ := padded
      have text : before ++ (value ++ after) ++ ',' :: others ++ ']' :: rest =
          before ++ (value ++ (after ++ ',' :: (others ++ ']' :: rest))) := by
        simp
      rw [text] at enough ⊢
      rw [skipFrom_blanks blank enough]
      have stops : Stops (',' :: (others ++ ']' :: rest)) :=
        stops_cons (.inl rfl)
      have ends := afterBlank.delimited stops.delimited
      obtain ⟨left, lasts, same⟩ :=
        (goesOn_value isValue ends (fewer_of_append enough)).nextItem
          afterBlank
      rw [same]
      exact goesOn_items areOthers lasts

theorem goesOn_object : ∀ {members : List Member} {text : List Char},
    IsObject members text →
    ∀ {fuel : Nat} {frames : List Frame} {rest : List Char},
      (text ++ rest).length < fuel →
        GoesOn frames rest (skipFrom fuel frames (text ++ rest))
  | _, _, .empty blank, _, _, _, enough => by
      rw [List.cons_append, List.append_assoc] at enough ⊢
      exact goesOn_emptyObject blank enough
  | _, _, .members areMembers, _, _, _, enough => by
      rw [List.cons_append, List.append_assoc] at enough ⊢
      obtain ⟨left, lasts, same⟩ := exists_skipFrom_members areMembers enough
      rw [same]
      exact goesOn_members areMembers lasts

theorem goesOn_members : ∀ {members : List Member} {text : List Char},
    IsMembers members text →
    ∀ {fuel : Nat} {outer : List Frame} {rest : List Char},
      (text ++ '}' :: rest).length < fuel →
        GoesOn outer rest
          (skipName (text ++ '}' :: rest) >>=
            skipFrom fuel (.object :: outer))
  | _, _, @IsMembers.last _ value front _ isString named isValue padded, _, _,
      rest, enough => by
      obtain ⟨before, after, blank, afterBlank, rfl⟩ := padded
      have text : front ++ ':' :: (before ++ (value ++ after)) ++
            '}' :: rest =
          front ++ ':' :: (before ++ (value ++ (after ++ '}' :: rest))) := by
        simp
      rw [text] at enough ⊢
      have fewer := fewer_of_cons (fewer_of_append enough)
      rw [skipName_member isString named, skipFrom_blanks blank fewer]
      have stops : Stops ('}' :: rest) := stops_cons (.inr (.inr rfl))
      have ends := afterBlank.delimited stops.delimited
      exact (goesOn_value isValue ends (fewer_of_append fewer)).endObject
        afterBlank
  | _, _, @IsMembers.more _ value front _ others _ isString named isValue padded
      areOthers, _, _, rest, enough => by
      obtain ⟨before, after, blank, afterBlank, rfl⟩ := padded
      have text : front ++ ':' :: (before ++ (value ++ after) ++
            ',' :: others) ++ '}' :: rest =
          front ++ ':' :: (before ++ (value ++ (after ++
            ',' :: (others ++ '}' :: rest)))) := by
        simp
      rw [text] at enough ⊢
      have fewer := fewer_of_cons (fewer_of_append enough)
      rw [skipName_member isString named, skipFrom_blanks blank fewer]
      have stops : Stops (',' :: (others ++ '}' :: rest)) :=
        stops_cons (.inl rfl)
      have ends := afterBlank.delimited stops.delimited
      obtain ⟨left, lasts, same⟩ :=
        (goesOn_value isValue ends (fewer_of_append fewer)).nextMember
          afterBlank
      rw [same]
      exact goesOn_members areOthers lasts

end

/-! ## One value -/

theorem isValue_of_skipValue {cs rest : List Char}
    (skipped : skipValue cs = .ok rest) :
    ∃ before value, Blanks before ∧ IsValue value ∧
      cs = before ++ (value ++ rest) := by
  obtain ⟨before, value, text, blank, isValue, closes, rfl⟩ :=
    (skips_sound (2 * cs.length + 2)).1 (by omega) skipped
  cases closes
  exact ⟨before, value, blank, isValue, rfl⟩

theorem skipValue_of_isValue {before value rest : List Char}
    (blank : Blanks before) (isValue : IsValue value)
    (delimited : Delimited rest) :
    skipValue (before ++ (value ++ rest)) = .ok rest := by
  have enough : (before ++ (value ++ rest)).length <
      2 * (before ++ (value ++ rest)).length + 2 := by omega
  rw [skipValue, skipFrom_blanks blank enough]
  obtain ⟨fuel, _, same⟩ : GoesOn [] rest _ :=
    goesOn_value isValue delimited (fewer_of_append enough)
  rw [same]
  cases fuel with
  | zero => rfl
  | succ fuel => rfl

/-! Whether a text is a value can be decided by skipping it. -/

theorem skipBlanks_eq_nil_iff {cs : List Char} :
    skipBlanks cs = [] ↔ Blanks cs := by
  constructor
  · intro nothing
    obtain ⟨before, blank, split⟩ := exists_blanks cs
    rw [nothing, List.append_nil] at split
    rwa [split]
  · intro blank
    have skipped := skipBlanks_append blank []
    rwa [List.append_nil] at skipped

theorem isValue_iff {value : List Char} :
    IsValue value ↔
      skipBlanks value = value ∧ (skipValue value).toOption = some [] := by
  rw [toOption_eq_some_iff]
  constructor
  · intro isValue
    have skipped := skipValue_of_isValue blanks_nil isValue stops_nil.delimited
    rw [List.nil_append, List.append_nil] at skipped
    obtain ⟨c, more, rfl, visible, _⟩ := isValue.begins
    exact ⟨skipBlanks_cons visible more, skipped⟩
  · rintro ⟨noBlanks, skipped⟩
    obtain ⟨before, inner, blank, isValue, same⟩ :=
      isValue_of_skipValue skipped
    obtain ⟨c, more, rfl, visible, _⟩ := isValue.begins
    rw [List.append_nil] at same
    rw [same, skipBlanks_blanks blank visible] at noBlanks
    rwa [same, ← noBlanks]

instance (value : List Char) : Decidable (IsValue value) :=
  decidable_of_iff _ isValue_iff.symm

theorem isText_iff {text : List Char} :
    IsText text ↔ (skipValue text).toOption.map skipBlanks = some [] := by
  rw [Option.map_eq_some_iff]
  constructor
  · rintro ⟨value, isValue, before, after, blank, afterBlank, rfl⟩
    have delimited := afterBlank.delimited stops_nil.delimited
    rw [List.append_nil] at delimited
    exact ⟨after,
      toOption_eq_some_iff.mpr (skipValue_of_isValue blank isValue delimited),
      skipBlanks_eq_nil_iff.mpr afterBlank⟩
  · rintro ⟨after, skipped, nothing⟩
    obtain ⟨before, value, blank, isValue, same⟩ :=
      isValue_of_skipValue (toOption_eq_some_iff.mp skipped)
    exact ⟨value, isValue, before, after, blank,
      skipBlanks_eq_nil_iff.mp nothing, same⟩

instance (text : List Char) : Decidable (IsText text) :=
  decidable_of_iff _ isText_iff.symm

end OperatorConsole.Json
