import OperatorConsole.Proofs.Json.Skipping

/-!
# Reading numbers

A number that is read is one of the grammar.  It is read as the same number
wherever its text stands, unless what follows goes on with it.
-/

namespace OperatorConsole.Json

/-- This text is read as this number, and nothing behind it is taken. -/
def StopsAfter (read : List Char → Except Fault (WithRest Number))
    (text : List Char) (number : Number) : Prop :=
  ∀ {back : List Char}, Delimited back →
    read (text ++ back) = .ok (number, back)

section Powers

variable {cs rest : List Char} {value power : Nat}

theorem powerDigits_digit {c : Char} (digit : c.isDigit = true)
    (within : ¬powerBound < value * 10 + digitValue c) (cs : List Char) :
    powerDigits value (c :: cs) =
      powerDigits (value * 10 + digitValue c) cs := by
  rw [powerDigits, if_pos digit]
  exact if_neg within

theorem powerDigits_beyond {c : Char} (digit : c.isDigit = true)
    (beyond : powerBound < value * 10 + digitValue c) (cs : List Char) :
    powerDigits value (c :: cs) = .error cs := by
  rw [powerDigits, if_pos digit]
  exact if_pos beyond

theorem powerDigits_end {back : List Char} (delimited : Delimited back) :
    powerDigits value back = .ok (value, back) := by
  cases back with
  | nil => rfl
  | cons c back =>
      have notDigit : ¬c.isDigit = true := by simp [(delimited c rfl).1]
      rw [powerDigits, if_neg notDigit]

theorem powerDigits_taken (read : powerDigits value cs = .ok (power, rest)) :
    ∃ digits, (∀ c ∈ digits, c.isDigit = true) ∧ cs = digits ++ rest ∧
      rest.head?.any Char.isDigit = false ∧
      ∀ {back : List Char}, Delimited back →
        powerDigits value (digits ++ back) = .ok (power, back) := by
  induction cs generalizing value with
  | nil =>
      cases read
      exact ⟨[], by simp, rfl, rfl, powerDigits_end⟩
  | cons c cs induction =>
      by_cases digit : c.isDigit = true
      · by_cases beyond : powerBound < value * 10 + digitValue c
        · rw [powerDigits_beyond digit beyond] at read
          cases read
        · rw [powerDigits_digit digit beyond] at read
          obtain ⟨digits, areDigits, rfl, ended, again⟩ := induction read
          refine ⟨c :: digits, List.forall_mem_cons.mpr ⟨digit, areDigits⟩,
            rfl, ended, fun delimited => ?_⟩
          rw [List.cons_append, powerDigits_digit digit beyond]
          exact again delimited
      · rw [powerDigits, if_neg digit] at read
        cases read
        exact ⟨[], by simp, rfl, by simpa using digit, powerDigits_end⟩

/-- The digits after one that makes the power too great are not looked at. -/
theorem powerDigits_refused (read : powerDigits value cs = .error rest) :
    ∃ digits, IsDigits digits ∧ cs = digits ++ rest ∧
      ∀ back, powerDigits value (digits ++ back) = .error back := by
  induction cs generalizing value with
  | nil => cases read
  | cons c cs induction =>
      by_cases digit : c.isDigit = true
      · by_cases beyond : powerBound < value * 10 + digitValue c
        · rw [powerDigits_beyond digit beyond] at read
          cases read
          exact ⟨[c], ⟨List.cons_ne_nil _ _, by simp [digit]⟩, rfl,
            powerDigits_beyond digit beyond⟩
        · rw [powerDigits_digit digit beyond] at read
          obtain ⟨digits, isDigits, rfl, again⟩ := induction read
          refine ⟨c :: digits, ⟨List.cons_ne_nil _ _,
            List.forall_mem_cons.mpr ⟨digit, isDigits.areDigits⟩⟩, rfl,
            fun back => ?_⟩
          rw [List.cons_append, powerDigits_digit digit beyond]
          exact again back
      · rw [powerDigits, if_neg digit] at read
        cases read

theorem IsDigits.begins {digits : List Char} (isDigits : IsDigits digits)
    (back : List Char) :
    (digits ++ back).head?.any Char.isDigit = true := by
  obtain ⟨c, others, rfl⟩ := List.exists_cons_of_ne_nil isDigits.notEmpty
  simpa using isDigits.areDigits c List.mem_cons_self

theorem exists_powerSign (cs : List Char) :
    ∃ sign, (sign = [] ∨ sign = ['+'] ∨ sign = ['-']) ∧
      cs = sign ++ (powerSign cs).2 ∧
      ∀ {later : List Char}, later.head?.any Char.isDigit = true →
        powerSign (sign ++ later) = ((powerSign cs).1, later) := by
  have bare {later : List Char} (digit : later.head?.any Char.isDigit = true) :
      powerSign later = (true, later) := by
    unfold powerSign
    split
    · cases digit
    · cases digit
    · rfl
  unfold powerSign
  split
  · exact ⟨['+'], .inr (.inl rfl), rfl, fun _ => rfl⟩
  · exact ⟨['-'], .inr (.inr rfl), rfl, fun _ => rfl⟩
  · exact ⟨[], .inl rfl, rfl, bare⟩

end Powers

section Parts

variable {negative : Bool} {significand dropped : Nat} {scale : Int}
  {cs rest : List Char} {number : Number}

theorem floating_taken
    (read : floating negative significand scale cs = .ok (number, rest)) :
    rest = cs ∧ ∀ back,
      floating negative significand scale back = .ok (number, back) := by
  unfold floating at read ⊢
  split at read
  · next found =>
      cases read
      exact ⟨rfl, fun back => rfl⟩
  · cases read

/-- What becomes of the digits of a power of ten. -/
theorem exponentPart_digits {upward : Bool} {digits : List Char}
    (signed : powerSign cs = (upward, digits))
    (begins : digits.head?.any Char.isDigit = true) :
    exponentPart negative significand scale cs =
      match powerDigits 0 digits with
      | .ok (power, rest) =>
          floating negative significand
            (scale + if upward then (power : Int) else -power) rest
      | .error rest =>
          if significand ≠ 0 ∧ upward then
            .error (.here .numberOutOfRange rest)
          else .ok (.floating negative .zero, rest.dropWhile Char.isDigit) := by
  cases digits with
  | nil => cases begins
  | cons c later =>
      have digit : c.isDigit = true := by simpa using begins
      unfold exponentPart
      simp only [signed, digit]
      rfl

theorem begins_of_exponentPart
    (read : exponentPart negative significand scale cs =
      .ok (number, rest)) :
    (powerSign cs).2.head?.any Char.isDigit = true := by
  unfold exponentPart at read
  cases behind : (powerSign cs).2 with
  | nil =>
      simp only [behind] at read
      cases read
  | cons c later =>
      by_cases digit : c.isDigit = true
      · simpa using digit
      · simp [behind, digit] at read

theorem exponentPart_taken {mark : Char} (isMark : mark = 'e' ∨ mark = 'E')
    (read : exponentPart negative significand scale cs =
      .ok (number, rest)) :
    ∃ text, IsExponent (mark :: text) ∧ cs = text ++ rest ∧
      StopsAfter (exponentPart negative significand scale) text number := by
  obtain ⟨sign, isSign, split, signed⟩ := exists_powerSign cs
  have begins := begins_of_exponentPart read
  rw [exponentPart_digits (Prod.eta _).symm begins] at read
  split at read
  · next power tail powers =>
      obtain ⟨digits, areDigits, same, ended, taken⟩ :=
        powerDigits_taken powers
      obtain ⟨rfl, anywhere⟩ := floating_taken read
      have isDigits : IsDigits digits := by
        refine ⟨?_, areDigits⟩
        rintro rfl
        rw [same, List.nil_append, ended] at begins
        cases begins
      refine ⟨sign ++ digits, .some isMark isSign isDigits, ?_, ?_⟩
      · rw [List.append_assoc, ← same, ← split]
      · intro back delimited
        have front := isDigits.begins back
        rw [List.append_assoc, exponentPart_digits (signed front) front,
          taken delimited]
        exact anywhere back
  · next tail powers =>
      obtain ⟨digits, isDigits, same, refused⟩ := powerDigits_refused powers
      split at read
      · cases read
      · next small =>
          cases read
          -- the digits that are not looked at belong to the number, too
          have ignored := areDigits_takeWhile tail
          have all : IsDigits (digits ++ tail.takeWhile Char.isDigit) := by
            refine ⟨by simp [isDigits.notEmpty], ?_⟩
            exact List.forall_mem_append.mpr ⟨isDigits.areDigits, ignored⟩
          refine ⟨sign ++ (digits ++ tail.takeWhile Char.isDigit),
            .some isMark isSign all, ?_, ?_⟩
          · rw [List.append_assoc, List.append_assoc,
              List.takeWhile_append_dropWhile, ← same, ← split]
          · intro back delimited
            have front := all.begins back
            rw [List.append_assoc, exponentPart_digits (signed front) front,
              List.append_assoc, refused]
            simp only [if_neg small]
            rw [dropWhile_digits ignored delimited.notDigit]

theorem fractionPart_digits {digits back : List Char}
    (isDigits : IsDigits digits) :
    back.head?.any Char.isDigit = false →
    fractionPart negative significand scale (digits ++ back) =
      match back with
      | 'e' :: later | 'E' :: later =>
          exponentPart negative (absorb significand digits).1
            (scale -
              (digits.length - (absorb significand digits).2 : Nat)) later
      | later =>
          floating negative (absorb significand digits).1
            (scale -
              (digits.length - (absorb significand digits).2 : Nat)) later := by
  intro ended
  have notEmpty : digits.isEmpty = false :=
    List.isEmpty_eq_false_iff.mpr isDigits.notEmpty
  rw [fractionPart, takeWhile_digits isDigits.areDigits ended,
    dropWhile_digits isDigits.areDigits ended]
  exact (if_neg (by simp [notEmpty])).trans rfl

theorem head?_dropWhile_digits (cs : List Char) :
    (cs.dropWhile Char.isDigit).head?.any Char.isDigit = false := by
  have stops := List.head?_dropWhile_not Char.isDigit cs
  cases behind : cs.dropWhile Char.isDigit with
  | nil => rfl
  | cons c later =>
      rw [behind] at stops
      simpa using stops

theorem fractionPart_taken
    (read : fractionPart negative significand scale cs =
      .ok (number, rest)) :
    ∃ text, IsTail ('.' :: text) ∧ cs = text ++ rest ∧
      StopsAfter (fractionPart negative significand scale) text number := by
  have split : cs.takeWhile Char.isDigit ++ cs.dropWhile Char.isDigit = cs :=
    List.takeWhile_append_dropWhile
  have isDigits : IsDigits (cs.takeWhile Char.isDigit) := by
    refine ⟨fun none => ?_, areDigits_takeWhile cs⟩
    rw [fractionPart, none] at read
    simp at read
  have ended := head?_dropWhile_digits cs
  rw [← split, fractionPart_digits isDigits ended] at read
  split at read
  · next later behind =>
      obtain ⟨text, isExponent, rfl, taken⟩ :=
        exponentPart_taken (.inl rfl) read
      refine ⟨_, .fraction isDigits isExponent, ?_, fun delimited => ?_⟩
      · rw [List.append_assoc, List.cons_append, ← behind, split]
      · rw [List.append_assoc, List.cons_append,
          fractionPart_digits isDigits rfl]
        exact taken delimited
  · next later behind =>
      obtain ⟨text, isExponent, rfl, taken⟩ :=
        exponentPart_taken (.inr rfl) read
      refine ⟨_, .fraction isDigits isExponent, ?_, fun delimited => ?_⟩
      · rw [List.append_assoc, List.cons_append, ← behind, split]
      · rw [List.append_assoc, List.cons_append,
          fractionPart_digits isDigits rfl]
        exact taken delimited
  · obtain ⟨rfl, anywhere⟩ := floating_taken read
    refine ⟨_, .fraction isDigits .none, ?_, fun {back} delimited => ?_⟩
    · rw [List.append_nil, split]
    · rw [List.append_nil, fractionPart_digits isDigits delimited.notDigit]
      split
      · exact absurd rfl (delimited 'e' rfl).2.2.1
      · exact absurd rfl (delimited 'E' rfl).2.2.2
      · exact anywhere back

theorem numberTail_taken
    (read : numberTail negative significand dropped cs =
      .ok (number, rest)) :
    ∃ tail, IsTail tail ∧ cs = tail ++ rest ∧
      StopsAfter (numberTail negative significand dropped) tail number := by
  unfold numberTail at read
  split at read
  · obtain ⟨text, isTail, rfl, taken⟩ := fractionPart_taken read
    exact ⟨_, isTail, rfl, taken⟩
  · obtain ⟨text, isExponent, rfl, taken⟩ :=
      exponentPart_taken (.inl rfl) read
    exact ⟨_, .exponent isExponent, rfl, taken⟩
  · obtain ⟨text, isExponent, rfl, taken⟩ :=
      exponentPart_taken (.inr rfl) read
    exact ⟨_, .exponent isExponent, rfl, taken⟩
  · have bare {back : List Char} (delimited : Delimited back) :
        numberTail negative significand dropped back =
          if dropped = 0 then .ok (wholeNumber negative significand, back)
          else floating negative significand dropped back := by
      unfold numberTail
      split
      · exact absurd rfl (delimited '.' rfl).2.1
      · exact absurd rfl (delimited 'e' rfl).2.2.1
      · exact absurd rfl (delimited 'E' rfl).2.2.2
      · rfl
    split at read
    · next none =>
        cases read
        refine ⟨[], .exponent .none, rfl, fun delimited => ?_⟩
        rw [List.nil_append, bare delimited, if_pos none]
    · next some =>
        obtain ⟨rfl, anywhere⟩ := floating_taken read
        refine ⟨[], .exponent .none, rfl, fun {back} delimited => ?_⟩
        rw [List.nil_append, bare delimited, if_neg some]
        exact anywhere back

theorem numberBody_digits {c : Char} {others : List Char} (notZero : c ≠ '0')
    (isDigit : c.isDigit = true)
    (areDigits : ∀ other ∈ others, other.isDigit = true)
    {back : List Char} (ended : back.head?.any Char.isDigit = false) :
    numberBody negative (c :: (others ++ back)) =
      numberTail negative (absorb 0 (c :: others)).1
        (absorb 0 (c :: others)).2 back := by
  unfold numberBody
  split
  · next none => cases none
  · next zero => exact absurd (List.cons.inj zero).1 notZero
  · next same =>
      obtain ⟨rfl, rfl⟩ := List.cons.inj same
      rw [if_pos isDigit, takeWhile_digits areDigits ended,
        dropWhile_digits areDigits ended]

theorem numberBody_taken
    (read : numberBody negative cs = .ok (number, rest)) :
    ∃ text, IsMagnitude text ∧ cs = text ++ rest ∧
      StopsAfter (numberBody negative) text number := by
  unfold numberBody at read
  split at read
  · cases read
  · split at read
    · cases read
    · obtain ⟨tail, isTail, rfl, taken⟩ := numberTail_taken read
      refine ⟨_, .parts .zero isTail, rfl, fun delimited => ?_⟩
      have ended := isTail.notDigit delimited
      rw [List.append_assoc, List.cons_append, List.nil_append, numberBody,
        ended]
      exact taken delimited
  · next c others notZero =>
      split at read
      · next digit =>
          have split : others.takeWhile Char.isDigit ++
              others.dropWhile Char.isDigit = others :=
            List.takeWhile_append_dropWhile
          have areDigits := areDigits_takeWhile others
          obtain ⟨tail, isTail, behind, taken⟩ := numberTail_taken read
          refine ⟨_, .parts (.digits notZero digit areDigits) isTail, ?_,
            fun delimited => ?_⟩
          · rw [List.append_assoc, ← behind, List.cons_append, split]
          · rw [List.append_assoc, List.cons_append,
              numberBody_digits notZero digit areDigits
                (isTail.notDigit delimited)]
            exact taken delimited
      · cases read

end Parts

/-- What a number of the grammar is read as. -/
inductive IsNumberFor : List Char → Number → Prop where
  | positive {text : List Char} {number : Number}
      (isMagnitude : IsMagnitude text)
      (stops : StopsAfter (numberBody false) text number) :
      IsNumberFor text number
  | negative {text : List Char} {number : Number}
      (isMagnitude : IsMagnitude text)
      (stops : StopsAfter (numberBody true) text number) :
      IsNumberFor ('-' :: text) number

theorem IsNumberFor.isNumber {text : List Char} {number : Number}
    (isFor : IsNumberFor text number) : IsNumber text := by
  cases isFor with
  | positive isMagnitude _ => exact .positive isMagnitude
  | negative isMagnitude _ => exact .negative isMagnitude

end OperatorConsole.Json
