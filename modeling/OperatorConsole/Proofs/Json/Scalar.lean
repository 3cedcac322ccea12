import OperatorConsole.Proofs.Json.Strings

/-!
# Reading scalars back

Strings and whole numbers are read as what was written, whatever comes behind
them, as long as that begins with a mark that ends a value.
-/

namespace OperatorConsole.Json

/-- Nothing follows, or a mark that ends a value. -/
def Stops (rest : List Char) : Prop :=
  ∀ c ∈ rest.head?, c = ',' ∨ c = ']' ∨ c = '}'

theorem stops_nil : Stops [] := by
  intro c member
  cases member

theorem stops_cons {c : Char} {rest : List Char}
    (mark : c = ',' ∨ c = ']' ∨ c = '}') : Stops (c :: rest) := by
  intro first member
  rw [List.head?_cons, Option.mem_some_iff] at member
  exact member ▸ mark

/-! ## Strings -/

theorem hexValue?_digitChar : ∀ digit < 16,
    Text.hexValue? (Nat.digitChar digit) = some digit := by
  decide

theorem exists_controlEscape {c : Char} (control : c.toNat < 0x20) :
    ∃ digits, IsUnit digits c.toNat ∧
      controlEscape c = '\\' :: 'u' :: digits := by
  have zero : Text.hexValue? '0' = some 0 := by decide
  have high := hexValue?_digitChar (c.toNat / 16) (by omega)
  have low := hexValue?_digitChar (c.toNat % 16) (by omega)
  have isUnit := IsUnit.digits zero zero high low
  have whole : ((0 * 16 + 0) * 16 + c.toNat / 16) * 16 + c.toNat % 16 =
      c.toNat := by omega
  rw [whole] at isUnit
  exact ⟨_, isUnit, rfl⟩

/-- However a character is written inside a string, it is spelled there. -/
theorem spells_escapeChar (c : Char) {content cs : List Char}
    (spells : Spells content cs) :
    Spells (escapeChar c ++ content) (c :: cs) := by
  by_cases special : c = '"' ∨ c = '\\' ∨ c = '\x08' ∨ c = '\x0c' ∨
      c = '\n' ∨ c = '\r' ∨ c = '\t'
  · rcases special with rfl | rfl | rfl | rfl | rfl | rfl | rfl
    all_goals exact .letter (by decide) spells
  · obtain ⟨notQuote, notSlash, others⟩ :
        c ≠ '"' ∧ c ≠ '\\' ∧ _ := by simpa only [not_or] using special
    have plain : escapeChar c =
        if c.toNat < 0x20 then controlEscape c else [c] := by
      simp only [escapeChar, notQuote, notSlash, others, if_false]
    rw [plain]
    split
    · next control =>
        obtain ⟨digits, isUnit, escape⟩ := exists_controlEscape control
        rw [escape]
        exact .unit isUnit spells
    · next visible =>
        exact .plain ⟨Nat.le_of_not_lt visible, notQuote, notSlash⟩ spells

theorem spells_escaped (cs : List Char) : Spells (cs.flatMap escapeChar) cs := by
  induction cs with
  | nil => exact .nil
  | cons c cs induction =>
      rw [List.flatMap_cons]
      exact spells_escapeChar c induction

theorem stringBody_escaped (value : String) (rest : List Char) :
    stringBody (value.toList.flatMap escapeChar ++ '"' :: rest) =
      .ok (value, rest) :=
  stringBody_eq_ok_iff.mpr ⟨_, spells_escaped value.toList, rfl⟩

/-! ## Whole numbers -/

theorem le_ofDigitChars (digits : List Char) :
    ∀ start : Nat, start ≤ Nat.ofDigitChars 10 digits start := by
  induction digits with
  | nil => simp
  | cons digit digits induction =>
      intro start
      rw [Nat.ofDigitChars_cons]
      exact Nat.le_trans (by omega) (induction _)

/-- Digits that make a number within the bound are all kept. -/
theorem absorb_eq {digits : List Char} :
    ∀ {significand : Nat},
      Nat.ofDigitChars 10 digits significand ≤ significandBound →
      absorb significand digits =
        (Nat.ofDigitChars 10 digits significand, 0) := by
  induction digits with
  | nil => simp [absorb]
  | cons digit digits induction =>
      intro significand small
      rw [Nat.ofDigitChars_cons] at small ⊢
      have grown : significand * 10 + digitValue digit =
          10 * significand + (digit.toNat - '0'.toNat) := by
        rw [Nat.mul_comm, digitValue]
        rfl
      have within := Nat.le_trans (le_ofDigitChars digits _) small
      rw [← induction small, absorb, List.foldl_cons]
      simp only [grown, within, and_self, if_true]
      rfl

theorem isDigit_of_mem_toDigits {n : Nat} {c : Char}
    (member : c ∈ Nat.toDigits 10 n) : c.isDigit = true :=
  Nat.isDigit_of_mem_toDigits (by decide) (by decide) member

theorem head?_toDigits_ne_zero {n : Nat} (positive : 0 < n) :
    (Nat.toDigits 10 n).head? ≠ some '0' := by
  induction n using Nat.strongRecOn with
  | ind n induction =>
      by_cases small : n < 10
      · rw [Nat.toDigits_of_lt_base small]
        simp only [List.head?_cons, ne_eq, Option.some.injEq,
          Nat.digitChar_eq_zero]
        omega
      · have higher := induction (n / 10) (by omega) (by omega)
        rw [Nat.toDigits_of_base_le (by decide) (by omega), List.head?_append]
        cases first : (Nat.toDigits 10 (n / 10)).head? with
        | none =>
            exact absurd (List.head?_eq_none_iff.mp first) Nat.toDigits_ne_nil
        | some c =>
            rw [first] at higher
            simpa using higher

theorem Stops.not_isDigit {rest : List Char} (stops : Stops rest) :
    rest.head?.any Char.isDigit = false := by
  cases rest with
  | nil => rfl
  | cons c rest =>
      rcases stops c rfl with rfl | rfl | rfl
      · rfl
      · rfl
      · rfl

section Digits

variable {digits rest : List Char}

theorem takeWhile_digits (areDigits : ∀ c ∈ digits, c.isDigit = true)
    (ended : rest.head?.any Char.isDigit = false) :
    (digits ++ rest).takeWhile Char.isDigit = digits := by
  rw [List.takeWhile_append_of_pos areDigits]
  cases rest with
  | nil => simp
  | cons c rest =>
      have notDigit : c.isDigit = false := by simpa using ended
      simp [notDigit]

theorem dropWhile_digits (areDigits : ∀ c ∈ digits, c.isDigit = true)
    (ended : rest.head?.any Char.isDigit = false) :
    (digits ++ rest).dropWhile Char.isDigit = rest := by
  rw [List.dropWhile_append_of_pos areDigits]
  cases rest with
  | nil => rfl
  | cons c rest =>
      have notDigit : c.isDigit = false := by simpa using ended
      simp [notDigit]

end Digits

theorem numberTail_of_stops {rest : List Char} (stops : Stops rest)
    (negative : Bool) (significand : Nat) :
    numberTail negative significand 0 rest =
      .ok (wholeNumber negative significand, rest) := by
  cases rest with
  | nil => rfl
  | cons c rest =>
      rcases stops c rfl with rfl | rfl | rfl
      · rfl
      · rfl
      · rfl

theorem numberBody_toDigits {n : Nat} (small : n ≤ significandBound)
    (negative : Bool) {rest : List Char} (stops : Stops rest) :
    numberBody negative (Nat.toDigits 10 n ++ rest) =
      .ok (wholeNumber negative n, rest) := by
  have ended := stops.not_isDigit
  rcases Nat.eq_zero_or_pos n with rfl | positive
  · rw [Nat.toDigits_zero, List.singleton_append, numberBody, ended]
    exact numberTail_of_stops stops negative 0
  · match digits : Nat.toDigits 10 n with
    | [] => exact absurd digits Nat.toDigits_ne_nil
    | c :: more =>
        have notZero : c ≠ '0' := by
          have notZero := head?_toDigits_ne_zero positive
          rw [digits] at notZero
          simpa using notZero
        have areDigits : ∀ digit ∈ c :: more, digit.isDigit = true := by
          intro digit member
          exact isDigit_of_mem_toDigits (digits ▸ member)
        have firstDigit := areDigits c List.mem_cons_self
        have otherDigits : ∀ digit ∈ more, digit.isDigit = true :=
          fun digit member => areDigits digit (List.mem_cons_of_mem _ member)
        have taken := takeWhile_digits otherDigits ended
        have dropped := dropWhile_digits otherDigits ended
        have value : Nat.ofDigitChars 10 (c :: more) 0 = n := by
          rw [← digits, Nat.ofDigitChars_ten_toDigits]
        have kept : absorb 0 (c :: more) = (n, 0) := by
          rw [absorb_eq (by rw [value]; exact small), value]
        rw [List.cons_append, numberBody.eq_def]
        split
        · next none => cases none
        · next zero =>
            obtain ⟨rfl, _⟩ := List.cons.inj zero
            exact absurd rfl notZero
        · next same =>
            obtain ⟨rfl, rfl⟩ := List.cons.inj same
            rw [if_pos firstDigit, taken, kept, dropped]
            exact numberTail_of_stops stops negative n

theorem toList_wholeText_of_neg {value : Int} (negative : value < 0) :
    (wholeText value).toList = '-' :: Nat.toDigits 10 value.natAbs := by
  rw [wholeText, if_pos negative, String.toList_append, Nat.toList_repr]
  rfl

theorem toList_wholeText_of_nonneg {value : Int} (positive : 0 ≤ value) :
    (wholeText value).toList = Nat.toDigits 10 value.natAbs := by
  rw [wholeText, if_neg (by omega), Nat.toList_repr]

theorem isBlank_of_isDigit {c : Char} (digit : c.isDigit = true) :
    isBlank c = false := by
  cases blank : isBlank c with
  | false => rfl
  | true =>
      simp only [isBlank, Bool.or_eq_true, decide_eq_true_eq] at blank
      rcases blank with ((rfl | rfl) | rfl) | rfl
      all_goals cases digit

theorem ne_of_isDigit {c mark : Char} (digit : c.isDigit = true)
    (other : mark.isDigit = false) : c ≠ mark := by
  rintro rfl
  rw [digit] at other
  cases other

theorem exists_toDigits (n : Nat) :
    ∃ c more, Nat.toDigits 10 n = c :: more ∧ c.isDigit = true := by
  match digits : Nat.toDigits 10 n with
  | [] => exact absurd digits Nat.toDigits_ne_nil
  | c :: more =>
      have member : c ∈ Nat.toDigits 10 n := digits ▸ List.mem_cons_self
      exact ⟨c, more, rfl, isDigit_of_mem_toDigits member⟩

theorem head?_wholeText_ne (value : Int) :
    (wholeText value).toList.head? ≠ some 'n' := by
  rcases Int.lt_or_le value 0 with negative | positive
  · rw [toList_wholeText_of_neg negative]
    simp
  · obtain ⟨c, more, digits, digit⟩ := exists_toDigits value.natAbs
    rw [toList_wholeText_of_nonneg positive, digits]
    simpa using ne_of_isDigit digit rfl

theorem wholeNumber_of_neg {value : Int} (negative : value < 0)
    (least : -(Nat.pow 2 63 : Nat) ≤ value) :
    wholeNumber true value.natAbs = .whole value := by
  rw [wholeNumber, if_neg (by simp), if_neg (by omega)]
  congr 1
  omega

theorem wholeNumber_of_nonneg {value : Int} (positive : 0 ≤ value) :
    wholeNumber false value.natAbs = .whole value := by
  rw [wholeNumber, if_pos (by simp)]
  congr 1
  omega

end OperatorConsole.Json
