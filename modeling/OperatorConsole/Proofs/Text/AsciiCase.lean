import OperatorConsole.Proofs.Text.Lowercase

/-!
# Lowercase forms that are ASCII letters

Two letters beyond ASCII have a lowercase form that begins with an ASCII letter:
the Kelvin sign becomes `k`, and U+0130 becomes `i` with a dot above.  A word
that has neither `i` nor `k` is therefore the lowercase form of a text only if
the text spells it in ASCII letters.
-/

namespace OperatorConsole.Text

/-- Small letters that only ASCII letters become. -/
def isUnshared (c : Char) : Bool :=
  'a' ≤ c && c ≤ 'z' && c != 'i' && c != 'k'

/-- The capital letters of ASCII. -/
def CaseRun.isAscii (run : CaseRun) : Bool :=
  run.first == 0x41 && run.last == 0x5a && run.shift == 32

/-- No letter of the run is ASCII, and of its lowercase letters at most `k`. -/
def CaseRun.isBeyondAscii (run : CaseRun) : Bool :=
  0x7f < run.first &&
    (0x7f < run.lowered.first ||
      run.lowered.first == 0x6b && run.lowered.last == 0x6b)

theorem caseRuns_ascii_or_beyond :
    caseRuns.all (fun run => run.isAscii || run.isBeyondAscii) = true := by
  decide +kernel

/-- The capital letters are among the runs. -/
theorem exists_run_of_capital : ∀ codePoint < 0x5b, 0x41 ≤ codePoint →
    (caseRuns.find? (·.covers codePoint)).isSome = true := by
  decide +kernel

theorem isUnshared_iff {c : Char} :
    isUnshared c = true ↔
      (0x61 ≤ c.toNat ∧ c.toNat ≤ 0x7a) ∧ c ≠ 'i' ∧ c.toNat ≠ 0x6b := by
  have small : ('a' ≤ c ∧ c ≤ 'z') ↔ 0x61 ≤ c.toNat ∧ c.toNat ≤ 0x7a := by
    simp only [Char.le_def, UInt32.le_iff_toNat_le]
    exact Iff.rfl
  have kelvin : c = 'k' ↔ c.toNat = 0x6b := Char.toNat_inj.symm
  simp only [isUnshared, Bool.and_eq_true, decide_eq_true_eq, bne_iff_ne, ne_eq,
    and_assoc, kelvin]
  rw [← and_assoc, small, and_assoc]

theorem toLower_of_capital : ∀ codePoint < 0x5b, 0x41 ≤ codePoint →
    (Char.ofNat codePoint).toLower = Char.ofNat (codePoint + 32) := by
  decide +kernel

theorem toLower_of_not_capital {c : Char}
    (notCapital : ¬(0x41 ≤ c.toNat ∧ c.toNat ≤ 0x5a)) : c.toLower = c := by
  refine dif_neg ?_
  simp only [ge_iff_le, UInt32.le_iff_toNat_le]
  exact notCapital

theorem toLower_capital_isLetter : ∀ codePoint < 0x5b, 0x41 ≤ codePoint →
    0x61 ≤ (Char.ofNat codePoint).toLower.toNat ∧
      (Char.ofNat codePoint).toLower.toNat ≤ 0x7a := by
  decide +kernel

/-- Only letters become letters. -/
theorem eq_of_toLower_eq {c d : Char} (lowered : c.toLower = d)
    (noLetter : ¬(0x61 ≤ d.toNat ∧ d.toNat ≤ 0x7a)) : c = d := by
  by_cases capital : 0x41 ≤ c.toNat ∧ c.toNat ≤ 0x5a
  · have letter := toLower_capital_isLetter c.toNat (by omega) capital.1
    rw [Char.ofNat_toNat, lowered] at letter
    exact absurd letter noLetter
  · exact (toLower_of_not_capital capital).symm.trans lowered

theorem not_unshared_of_beyond {c : Char} (beyond : 0x7f < c.toNat) :
    isUnshared c = false := by
  rw [Bool.eq_false_iff, ne_eq, isUnshared_iff]
  omega

/-- A letter that is not ASCII does not become one of the unshared letters. -/
theorem not_unshared_of_beyondAscii {run : CaseRun} {c : Char}
    (known : run ∈ caseRuns) (beyond : run.isBeyondAscii = true)
    (covered : run.covers c.toNat = true) :
    isUnshared (Char.ofNat (c.toNat + run.shift).toNat) = false ∧
      isUnshared c.toLower = false := by
  have inside := covers_lowered_letter known covered
  obtain ⟨above, below, _⟩ := CaseRun.covers_iff.mp inside
  simp only [CaseRun.isBeyondAscii, Bool.and_eq_true, Bool.or_eq_true,
    decide_eq_true_eq, beq_iff_eq] at beyond
  constructor
  · rw [Bool.eq_false_iff, ne_eq, isUnshared_iff]
    omega
  · have far : 0x7f < c.toNat :=
      Nat.lt_of_lt_of_le beyond.1 (CaseRun.covers_iff.mp covered).1
    rw [toLower_of_not_capital (by omega)]
    exact not_unshared_of_beyond far

/-- A character becomes what it becomes in ASCII, or it has nothing to do with
the unshared letters. -/
theorem lowercaseChar_cases (c : Char) :
    lowercaseChar c = [c.toLower] ∨
      ∃ d more, lowercaseChar c = d :: more ∧ isUnshared d = false ∧
        isUnshared c.toLower = false := by
  by_cases dotted : c = '\u0130'
  · subst dotted
    exact .inr ⟨'i', ['\u0307'], rfl, by decide, by decide⟩
  · cases found : caseRuns.find? (·.covers c.toNat) with
    | none =>
        left
        rw [lowercaseChar, if_neg dotted, found, toLower_of_not_capital]
        rintro ⟨above, below⟩
        have covered := exists_run_of_capital c.toNat (by omega) above
        rw [found] at covered
        cases covered
    | some run =>
        have covered := List.find?_some found
        have known := List.mem_of_find?_eq_some found
        have either := List.all_eq_true.mp caseRuns_ascii_or_beyond run known
        rw [lowercaseChar, if_neg dotted, found]
        rcases Bool.or_eq_true _ _ ▸ either with ascii | beyond
        · left
          simp only [CaseRun.isAscii, Bool.and_eq_true, beq_iff_eq] at ascii
          obtain ⟨⟨first, last⟩, shift⟩ := ascii
          obtain ⟨above, below, _⟩ := CaseRun.covers_iff.mp covered
          have capital := toLower_of_capital c.toNat (by omega) (by omega)
          rw [Char.ofNat_toNat] at capital
          rw [capital]
          dsimp only
          rw [shift]
          rfl
        · have notUnshared := not_unshared_of_beyondAscii known beyond covered
          exact .inr ⟨_, [], rfl, notUnshared⟩

theorem lowercaseAfter_cases (before : List Char) (c : Char)
    (after : List Char) :
    lowercaseAfter before (c :: after) =
        c.toLower :: lowercaseAfter (c :: before) after ∨
      ∃ d more, lowercaseAfter before (c :: after) = d :: more ∧
        isUnshared d = false ∧ isUnshared c.toLower = false := by
  rw [lowercaseAfter]
  split
  · next sigma =>
      subst sigma
      refine .inr ⟨_, _, rfl, ?_, by decide⟩
      split
      · decide
      · decide
  · rcases lowercaseChar_cases c with same | ⟨d, more, split, differs⟩
    · left
      rw [same]
      rfl
    · rw [split]
      exact .inr ⟨d, _, rfl, differs⟩

theorem lowercaseAfter_eq_iff {word : List Char}
    (unshared : ∀ d ∈ word, isUnshared d = true) (cs : List Char) :
    ∀ before : List Char,
      lowercaseAfter before cs = word ↔ cs.map Char.toLower = word := by
  induction cs generalizing word with
  | nil => exact fun _ => Iff.rfl
  | cons c after induction =>
      intro before
      rw [List.map_cons]
      rcases lowercaseAfter_cases before c after with same |
        ⟨d, more, step, foreign, otherForeign⟩
      · rw [same]
        cases word with
        | nil => simp
        | cons d word =>
            have others := (List.forall_mem_cons.mp unshared).2
            rw [List.cons.injEq, List.cons.injEq, induction others]
      · -- Neither text begins like the word.
        rw [step]
        constructor
        · rintro rfl
          have first := unshared d List.mem_cons_self
          exact absurd (foreign.symm.trans first) Bool.false_ne_true
        · rintro rfl
          have first := unshared _ List.mem_cons_self
          exact absurd (otherForeign.symm.trans first) Bool.false_ne_true

/-- A word of unshared letters is the lowercase form of those texts only that
spell it in ASCII letters. -/
theorem lowercase_eq_iff {word : String}
    (unshared : ∀ d ∈ word.toList, isUnshared d = true) (text : String) :
    lowercase text = word ↔ asciiLowercase text = word := by
  have chars := lowercaseAfter_eq_iff unshared text.toList []
  rw [lowercase, asciiLowercase, ← String.toList_inj, ← String.toList_inj,
    String.toList_ofList, String.toList_ofList]
  exact chars

end OperatorConsole.Text
