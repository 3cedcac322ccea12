import OperatorConsole.Proofs.Json.Reader
import OperatorConsole.Proofs.Json.Strings

/-!
# Skipping scalars

Words and numbers that are skipped are those of the grammar.  A number ends
where no digit, point or exponent follows, so it is skipped as a whole only
before a text that begins with none of these.
-/

namespace OperatorConsole.Json

/-! ## Blanks -/

section Blanks

variable {before after cs : List Char}

theorem blanks_nil : Blanks [] := by
  intro c member
  cases member

theorem Blanks.append (front : Blanks before) (back : Blanks after) :
    Blanks (before ++ after) := by
  intro c member
  rcases List.mem_append.mp member with inFront | inBack
  · exact front c inFront
  · exact back c inBack

theorem exists_blanks (cs : List Char) :
    ∃ before, Blanks before ∧ cs = before ++ skipBlanks cs := by
  refine ⟨cs.takeWhile isBlank, List.all_eq_true.mp List.all_takeWhile, ?_⟩
  rw [skipBlanks, List.takeWhile_append_dropWhile]

theorem skipBlanks_append (blank : Blanks before) (cs : List Char) :
    skipBlanks (before ++ cs) = skipBlanks cs :=
  List.dropWhile_append_of_pos blank

theorem skipBlanks_blanks (blank : Blanks before) {c : Char}
    (visible : isBlank c = false) (cs : List Char) :
    skipBlanks (before ++ c :: cs) = c :: cs := by
  rw [skipBlanks_append blank, skipBlanks_cons visible]

theorem skipBlanks_skipBlanks (cs : List Char) :
    skipBlanks (skipBlanks cs) = skipBlanks cs := by
  obtain ⟨before, blank, split⟩ := exists_blanks cs
  conv => rhs; rw [split]
  rw [skipBlanks_append blank]

end Blanks

/-! ## Words -/

theorem word_eq_ok_iff {expected : List Char} :
    ∀ {cs rest : List Char},
      word expected cs = .ok rest ↔ cs = expected ++ rest := by
  induction expected with
  | nil =>
      intro cs rest
      exact Except.ok.injEq cs rest ▸ Iff.rfl
  | cons c expected induction =>
      intro cs rest
      cases cs with
      | nil =>
          constructor
          · intro read
            cases read
          · intro same
            cases same
      | cons first cs =>
          rw [word]
          split
          · next same =>
              rw [induction, same, List.cons_append, List.cons.injEq]
              simp
          · next different =>
              constructor
              · intro read
                cases read
              · intro same
                exact absurd (List.cons.inj same).1 different

/-! ## Numbers -/

/-- No number goes on here. -/
def Delimited (rest : List Char) : Prop :=
  ∀ c ∈ rest.head?, c.isDigit = false ∧ c ≠ '.' ∧ c ≠ 'e' ∧ c ≠ 'E'

section Digits

variable {rest : List Char}

theorem areDigits_takeWhile (cs : List Char) :
    ∀ c ∈ cs.takeWhile Char.isDigit, c.isDigit = true :=
  List.all_eq_true.mp List.all_takeWhile

theorem Delimited.notDigit (delimited : Delimited rest) :
    rest.head?.any Char.isDigit = false := by
  cases rest with
  | nil => rfl
  | cons c rest => simpa using (delimited c rfl).1

end Digits

section Tails

variable {cs rest text : List Char}

theorem exists_sign (cs : List Char) :
    ∃ sign, (sign = [] ∨ sign = ['+'] ∨ sign = ['-']) ∧
      cs = sign ++ (powerSign cs).2 := by
  unfold powerSign
  split
  · exact ⟨['+'], .inr (.inl rfl), rfl⟩
  · exact ⟨['-'], .inr (.inr rfl), rfl⟩
  · exact ⟨[], .inl rfl, rfl⟩

theorem powerSign_digits {sign digits : List Char}
    (isSign : sign = [] ∨ sign = ['+'] ∨ sign = ['-'])
    (isDigits : IsDigits digits) (rest : List Char) :
    (powerSign (sign ++ (digits ++ rest))).2 = digits ++ rest := by
  rcases isSign with rfl | rfl | rfl
  · obtain ⟨c, others, rfl⟩ := List.exists_cons_of_ne_nil isDigits.notEmpty
    have digit := isDigits.areDigits c List.mem_cons_self
    have notPlus : c ≠ '+' := ne_of_isDigit digit rfl
    have notMinus : c ≠ '-' := ne_of_isDigit digit rfl
    rw [List.nil_append, List.cons_append]
    unfold powerSign
    split
    · next same => exact absurd (List.cons.inj same).1 notPlus
    · next same => exact absurd (List.cons.inj same).1 notMinus
    · rfl
  · rfl
  · rfl

/-- What is skipped behind the mark of an exponent. -/
theorem isExponent_of_skipExponent {mark : Char}
    (isMark : mark = 'e' ∨ mark = 'E')
    (skipped : skipExponent cs = .ok rest) :
    ∃ text, IsExponent (mark :: text) ∧ cs = text ++ rest := by
  obtain ⟨sign, isSign, split⟩ := exists_sign cs
  unfold skipExponent at skipped
  split at skipped
  · cases skipped
  · next c others behind =>
      split at skipped
      · next digit =>
          cases skipped
          have areDigits :
              ∀ other ∈ c :: others.takeWhile Char.isDigit,
                other.isDigit = true := by
            intro other member
            rcases List.mem_cons.mp member with rfl | later
            · exact digit
            · exact areDigits_takeWhile others other later
          refine ⟨_, .some isMark isSign ⟨List.cons_ne_nil _ _, areDigits⟩, ?_⟩
          rw [split, behind, List.append_assoc, List.cons_append,
            List.takeWhile_append_dropWhile]
      · cases skipped

theorem skipExponent_of_isDigits {sign digits : List Char}
    (isSign : sign = [] ∨ sign = ['+'] ∨ sign = ['-'])
    (isDigits : IsDigits digits) (delimited : Delimited rest) :
    skipExponent (sign ++ (digits ++ rest)) = .ok rest := by
  rw [skipExponent, powerSign_digits isSign isDigits]
  obtain ⟨c, others, rfl⟩ := List.exists_cons_of_ne_nil isDigits.notEmpty
  have digit := isDigits.areDigits c List.mem_cons_self
  rw [List.cons_append]
  dsimp only
  have othersAreDigits := (List.forall_mem_cons.mp isDigits.areDigits).2
  rw [if_pos digit, dropWhile_digits othersAreDigits delimited.notDigit]

theorem isTail_of_skipFraction (skipped : skipFraction cs = .ok rest) :
    ∃ text, IsTail ('.' :: text) ∧ cs = text ++ rest := by
  have split : cs.takeWhile Char.isDigit ++ cs.dropWhile Char.isDigit = cs :=
    List.takeWhile_append_dropWhile
  have exists_tail (exponent : List Char) (isExponent : IsExponent exponent)
      (notEmpty : (cs.takeWhile Char.isDigit).isEmpty = false)
      (behind : cs.dropWhile Char.isDigit = exponent ++ rest) :
      ∃ text, IsTail ('.' :: text) ∧ cs = text ++ rest := by
    refine ⟨_, .fraction ⟨?_, areDigits_takeWhile cs⟩ isExponent, ?_⟩
    · exact List.isEmpty_eq_false_iff.mp notEmpty
    · rw [List.append_assoc, ← behind, split]
  unfold skipFraction at skipped
  dsimp only at skipped
  split at skipped
  · cases skipped
  · next notEmpty =>
      rw [Bool.not_eq_true] at notEmpty
      split at skipped
      · next later behind =>
          obtain ⟨text, isExponent, rfl⟩ :=
            isExponent_of_skipExponent (.inl rfl) skipped
          exact exists_tail _ isExponent notEmpty behind
      · next later behind =>
          obtain ⟨text, isExponent, rfl⟩ :=
            isExponent_of_skipExponent (.inr rfl) skipped
          exact exists_tail _ isExponent notEmpty behind
      · cases skipped
        exact exists_tail [] .none notEmpty rfl

theorem isTail_of_skipNumberTail (skipped : skipNumberTail cs = .ok rest) :
    ∃ tail, IsTail tail ∧ cs = tail ++ rest := by
  unfold skipNumberTail at skipped
  split at skipped
  · obtain ⟨text, isTail, rfl⟩ := isTail_of_skipFraction skipped
    exact ⟨_, isTail, rfl⟩
  · obtain ⟨text, isExponent, rfl⟩ :=
      isExponent_of_skipExponent (.inl rfl) skipped
    exact ⟨_, .exponent isExponent, rfl⟩
  · obtain ⟨text, isExponent, rfl⟩ :=
      isExponent_of_skipExponent (.inr rfl) skipped
    exact ⟨_, .exponent isExponent, rfl⟩
  · cases skipped
    exact ⟨[], .exponent .none, rfl⟩

theorem isMagnitude_of_skipNumber (skipped : skipNumber cs = .ok rest) :
    ∃ text, IsMagnitude text ∧ cs = text ++ rest := by
  unfold skipNumber at skipped
  split at skipped
  · cases skipped
  · split at skipped
    · cases skipped
    · obtain ⟨tail, isTail, rfl⟩ := isTail_of_skipNumberTail skipped
      exact ⟨_, .parts .zero isTail, rfl⟩
  · next c others notZero =>
      split at skipped
      · next digit =>
          obtain ⟨tail, isTail, behind⟩ := isTail_of_skipNumberTail skipped
          have isWhole : IsWhole (c :: others.takeWhile Char.isDigit) :=
            .digits notZero digit (areDigits_takeWhile others)
          refine ⟨_, .parts isWhole isTail, ?_⟩
          rw [List.append_assoc, ← behind, List.cons_append,
            List.takeWhile_append_dropWhile]
      · cases skipped

/-! A number is skipped as a whole if it is delimited. -/

section Whole

variable (delimited : Delimited rest)

include delimited

theorem IsExponent.notDigit {exponent : List Char}
    (isExponent : IsExponent exponent) :
    (exponent ++ rest).head?.any Char.isDigit = false := by
  cases isExponent with
  | none => exact delimited.notDigit
  | some isMark _ _ => rcases isMark with rfl | rfl <;> rfl

theorem IsTail.notDigit {tail : List Char} (isTail : IsTail tail) :
    (tail ++ rest).head?.any Char.isDigit = false := by
  cases isTail with
  | exponent isExponent => exact isExponent.notDigit delimited
  | fraction _ _ => rfl

theorem skipFraction_of_isExponent {digits exponent : List Char}
    (isDigits : IsDigits digits) (isExponent : IsExponent exponent) :
    skipFraction (digits ++ (exponent ++ rest)) = .ok rest := by
  have ended := isExponent.notDigit delimited
  have notEmpty : digits.isEmpty = false :=
    List.isEmpty_eq_false_iff.mpr isDigits.notEmpty
  rw [skipFraction, takeWhile_digits isDigits.areDigits ended,
    dropWhile_digits isDigits.areDigits ended]
  simp only [notEmpty, Bool.false_eq_true, if_false]
  cases isExponent with
  | none =>
      rw [List.nil_append]
      split
      · exact absurd rfl (delimited 'e' rfl).2.2.1
      · exact absurd rfl (delimited 'E' rfl).2.2.2
      · rfl
  | some isMark isSign isDigits =>
      rw [List.cons_append, List.append_assoc]
      rcases isMark with rfl | rfl
      · exact skipExponent_of_isDigits isSign isDigits delimited
      · exact skipExponent_of_isDigits isSign isDigits delimited

theorem skipNumberTail_of_isTail {tail : List Char} (isTail : IsTail tail) :
    skipNumberTail (tail ++ rest) = .ok rest := by
  cases isTail with
  | fraction isDigits isExponent =>
      rw [List.cons_append, List.append_assoc]
      exact skipFraction_of_isExponent delimited isDigits isExponent
  | exponent isExponent =>
      cases isExponent with
      | none =>
          rw [List.nil_append]
          unfold skipNumberTail
          split
          · exact absurd rfl (delimited '.' rfl).2.1
          · exact absurd rfl (delimited 'e' rfl).2.2.1
          · exact absurd rfl (delimited 'E' rfl).2.2.2
          · rfl
      | some isMark isSign isDigits =>
          rw [List.cons_append, List.append_assoc]
          rcases isMark with rfl | rfl
          · exact skipExponent_of_isDigits isSign isDigits delimited
          · exact skipExponent_of_isDigits isSign isDigits delimited

theorem skipNumber_of_isMagnitude (isMagnitude : IsMagnitude text) :
    skipNumber (text ++ rest) = .ok rest := by
  cases isMagnitude with
  | parts isWhole isTail =>
      have ended := isTail.notDigit delimited
      have skipped := skipNumberTail_of_isTail delimited isTail
      rw [List.append_assoc]
      cases isWhole with
      | zero =>
          rw [List.cons_append, List.nil_append, skipNumber, ended]
          exact skipped
      | @digits c others notZero isDigit areDigits =>
          rw [List.cons_append]
          unfold skipNumber
          split
          · next none => cases none
          · next zero => exact absurd (List.cons.inj zero).1 notZero
          · next same =>
              obtain ⟨rfl, rfl⟩ := List.cons.inj same
              rw [if_pos isDigit, dropWhile_digits areDigits ended, skipped]

end Whole

end Tails

/-! ## Scalars -/

theorem isValue_of_skipScalar {cs rest : List Char}
    (skipped : skipScalar cs = .ok rest) :
    ∃ value, IsValue value ∧ cs = value ++ rest := by
  unfold skipScalar at skipped
  split at skipped
  · exact ⟨"null".toList, .word (by decide),
      congrArg ('n' :: ·) (word_eq_ok_iff.mp skipped)⟩
  · exact ⟨"true".toList, .word (by decide),
      congrArg ('t' :: ·) (word_eq_ok_iff.mp skipped)⟩
  · exact ⟨"false".toList, .word (by decide),
      congrArg ('f' :: ·) (word_eq_ok_iff.mp skipped)⟩
  · obtain ⟨text, isMagnitude, rfl⟩ := isMagnitude_of_skipNumber skipped
    exact ⟨_, .number (.negative isMagnitude), rfl⟩
  · obtain ⟨content, isString, rfl⟩ := isString_of_skipString skipped
    exact ⟨_, .string isString, by simp [quoted]⟩
  · split at skipped
    · obtain ⟨text, isMagnitude, same⟩ := isMagnitude_of_skipNumber skipped
      exact ⟨_, .number (.positive isMagnitude), same⟩
    · cases skipped
  · cases skipped

theorem skipScalar_digit {c : Char} (digit : c.isDigit = true)
    (cs : List Char) : skipScalar (c :: cs) = skipNumber (c :: cs) := by
  have differs {mark : Char} {rest : List Char} (other : mark.isDigit = false)
      (same : c :: cs = mark :: rest) : False :=
    ne_of_isDigit digit other (List.cons.inj same).1
  unfold skipScalar
  split
  · next same => exact (differs rfl same).elim
  · next same => exact (differs rfl same).elim
  · next same => exact (differs rfl same).elim
  · next same => exact (differs rfl same).elim
  · next same => exact (differs rfl same).elim
  · next same =>
      obtain ⟨rfl, rfl⟩ := List.cons.inj same
      exact if_pos digit
  · next none => cases none

theorem IsMagnitude.head {text : List Char} (isMagnitude : IsMagnitude text) :
    ∃ c more, text = c :: more ∧ c.isDigit = true := by
  cases isMagnitude with
  | parts isWhole _ =>
      cases isWhole with
      | zero => exact ⟨_, _, rfl, rfl⟩
      | digits _ isDigit _ => exact ⟨_, _, rfl, isDigit⟩

theorem skipScalar_of_isNumber {text rest : List Char}
    (isNumber : IsNumber text) (delimited : Delimited rest) :
    skipScalar (text ++ rest) = .ok rest := by
  cases isNumber with
  | negative isMagnitude =>
      exact skipNumber_of_isMagnitude delimited isMagnitude
  | positive isMagnitude =>
      have skipped := skipNumber_of_isMagnitude delimited isMagnitude
      obtain ⟨c, more, rfl, digit⟩ := isMagnitude.head
      rw [List.cons_append] at skipped ⊢
      rw [skipScalar_digit digit, skipped]

end OperatorConsole.Json
