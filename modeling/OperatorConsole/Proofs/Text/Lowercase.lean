import Mathlib.Data.List.Basic
import OperatorConsole.Proofs.Text.Split
import OperatorConsole.Proofs.Text.Trim
import OperatorConsole.Text.Lowercase

/-!
# Lowercase texts

Nothing is left to be lowercased in a lowercase text, and blanks stay where they
are.  Whether a sigma is final is not decided across a blank, so the pieces
between blanks are lowercased each for itself.
-/

namespace OperatorConsole.Text

/-! ## The case data -/

namespace CaseRun

/-- The lowercase letters of a run. -/
def lowered (run : CaseRun) : CaseRun where
  first := (run.first + run.shift).toNat
  last := (run.last + run.shift).toNat
  step := run.step
  shift := 0

def ofRange (range : Nat × Nat) : CaseRun :=
  ⟨range.1, range.2, 1, 0⟩

/-- All code points of the run are even, or all are odd. -/
def isPaired (run : CaseRun) : Bool :=
  run.step == 2 || run.first == run.last

/-- The runs end before each other, or one has the even and the other one the
odd code points. -/
def isApart (left right : CaseRun) : Bool :=
  left.last.blt right.first || right.last.blt left.first ||
    (left.isPaired && right.isPaired &&
      (left.first + right.first) % 2 == 1)

theorem covers_iff {run : CaseRun} {codePoint : Nat} :
    run.covers codePoint = true ↔
      run.first ≤ codePoint ∧ codePoint ≤ run.last ∧
        (codePoint - run.first) % run.step = 0 := by
  simp [covers, and_assoc]

theorem covers_ofRange {range : Nat × Nat} {codePoint : Nat} :
    (ofRange range).covers codePoint = true ↔
      range.1 ≤ codePoint ∧ codePoint ≤ range.2 := by
  simp [covers_iff, ofRange, Nat.mod_one]

theorem mod_two_of_covers {run : CaseRun} {codePoint : Nat}
    (paired : run.isPaired = true) (covered : run.covers codePoint = true) :
    codePoint % 2 = run.first % 2 := by
  obtain ⟨above, below, stepped⟩ := covers_iff.mp covered
  simp only [isPaired, Bool.or_eq_true, beq_iff_eq] at paired
  rcases paired with two | single
  · rw [two] at stepped
    omega
  · omega

theorem not_covers_of_isApart {left right : CaseRun} {codePoint : Nat}
    (apart : left.isApart right = true)
    (covered : left.covers codePoint = true) :
    right.covers codePoint = false := by
  refine Bool.eq_false_iff.mpr fun both => ?_
  obtain ⟨aboveLeft, belowLeft, _⟩ := covers_iff.mp covered
  obtain ⟨aboveRight, belowRight, _⟩ := covers_iff.mp both
  simp only [isApart, Bool.or_eq_true, Bool.and_eq_true, Nat.blt_eq,
    beq_iff_eq] at apart
  rcases apart with (before | after) | ⟨⟨leftPaired, rightPaired⟩, odd⟩
  · omega
  · omega
  · have leftMod := mod_two_of_covers leftPaired covered
    have rightMod := mod_two_of_covers rightPaired both
    omega

/-- The code points of the run's lowercase letters are characters. -/
def isValid (run : CaseRun) : Bool :=
  0 ≤ run.first + run.shift &&
    (run.lowered.last < 0xd800 ||
      0xdfff < run.lowered.first && run.lowered.last < 0x110000)

theorem covers_lowered {run : CaseRun} {codePoint : Nat}
    (valid : run.isValid = true) (covered : run.covers codePoint = true) :
    run.lowered.covers (codePoint + run.shift).toNat = true ∧
      (codePoint + run.shift).toNat.isValidChar := by
  obtain ⟨above, below, stepped⟩ := covers_iff.mp covered
  simp only [isValid, Bool.and_eq_true, Bool.or_eq_true,
    decide_eq_true_eq] at valid
  obtain ⟨positive, range⟩ := valid
  simp only [lowered] at range
  have same : (codePoint + run.shift).toNat - (run.first + run.shift).toNat =
      codePoint - run.first := by
    omega
  constructor
  · refine covers_iff.mpr ⟨?_, ?_, ?_⟩
    · simp only [lowered]
      omega
    · simp only [lowered]
      omega
    · simpa only [lowered, same] using stepped
  · simp only [Nat.isValidChar]
    omega

end CaseRun

/-- A run of letters has lowercase letters that are in no run, and neither the
letters nor their lowercase letters are blank. -/
def CaseRun.isSound (run : CaseRun) : Bool :=
  run.isValid && caseRuns.all run.lowered.isApart &&
    run.lowered.isApart (.ofRange (0x130, 0x130)) &&
    blankRanges.all fun range =>
      run.isApart (.ofRange range) && run.lowered.isApart (.ofRange range)

theorem caseRuns_sound : caseRuns.all CaseRun.isSound = true := by
  decide +kernel

theorem caseRanges_not_blank :
    (casedRanges ++ caseIgnorableRanges).all (fun range =>
      blankRanges.all fun blank =>
        (CaseRun.ofRange blank).isApart (.ofRange range)) = true := by
  decide +kernel

/-! ## Single characters -/

/-- Lowercasing leaves the character alone, wherever it stands. -/
structure IsLower (c : Char) : Prop where
  ordinary : c ≠ '\u0130'
  uncovered : caseRuns.find? (·.covers c.toNat) = none

namespace IsLower

variable {c : Char} (lower : IsLower c)

include lower

theorem lowercaseChar_eq : lowercaseChar c = [c] := by
  rw [lowercaseChar, if_neg lower.ordinary, lower.uncovered]

theorem ne_sigma : c ≠ 'Σ' := by
  rintro rfl
  have none := lower.uncovered
  revert none
  decide +kernel

end IsLower

theorem isBlank_iff_covers {c : Char} :
    isBlank c = true ↔
      ∃ range ∈ blankRanges, (CaseRun.ofRange range).covers c.toNat = true := by
  simp only [isBlank, inRanges_iff, CaseRun.covers_ofRange]

theorem not_isBlank_of_isApart {run : CaseRun} {c : Char}
    (apart : ∀ range ∈ blankRanges, run.isApart (.ofRange range) = true)
    (covered : run.covers c.toNat = true) : isBlank c = false := by
  refine Bool.eq_false_iff.mpr fun blank => ?_
  obtain ⟨range, member, inside⟩ := isBlank_iff_covers.mp blank
  have outside := CaseRun.not_covers_of_isApart (apart range member) covered
  exact Bool.false_ne_true (outside.symm.trans inside)

theorem covers_lowered_letter {run : CaseRun} {c : Char}
    (known : run ∈ caseRuns) (covered : run.covers c.toNat = true) :
    run.lowered.covers (Char.ofNat (c.toNat + run.shift).toNat).toNat =
      true := by
  have sound := List.all_eq_true.mp caseRuns_sound run known
  simp only [CaseRun.isSound, Bool.and_eq_true] at sound
  obtain ⟨inside, isChar⟩ := CaseRun.covers_lowered sound.1.1.1 covered
  have codePoint : (Char.ofNat (c.toNat + run.shift).toNat).toNat =
      (c.toNat + run.shift).toNat := by
    rw [Char.ofNat, dif_pos isChar]
    rfl
  rw [codePoint]
  exact inside

/-- A letter and its lowercase letter. -/
theorem lowercase_letter {run : CaseRun} {c : Char} (known : run ∈ caseRuns)
    (covered : run.covers c.toNat = true) :
    IsLower (Char.ofNat (c.toNat + run.shift).toNat) ∧
      isBlank (Char.ofNat (c.toNat + run.shift).toNat) = false ∧
      isBlank c = false := by
  have sound := List.all_eq_true.mp caseRuns_sound run known
  simp only [CaseRun.isSound, Bool.and_eq_true, List.all_eq_true] at sound
  obtain ⟨⟨⟨_, apart⟩, ordinary⟩, notBlank⟩ := sound
  have inside := covers_lowered_letter known covered
  refine ⟨⟨?_, ?_⟩, ?_, ?_⟩
  · intro same
    have outside := CaseRun.not_covers_of_isApart ordinary inside
    rw [same] at outside
    revert outside
    decide
  · refine List.find?_eq_none.mpr fun other member => ?_
    exact Bool.eq_false_iff.mp
      (CaseRun.not_covers_of_isApart (apart other member) inside)
  · exact not_isBlank_of_isApart (fun range member =>
      (notBlank range member).2) inside
  · exact not_isBlank_of_isApart (fun range member =>
      (notBlank range member).1) covered

/-- What a character may become when it is lowercased. -/
structure Lowers (c : Char) (outputs : List Char) : Prop where
  nonempty : outputs ≠ []
  lower : ∀ d ∈ outputs, IsLower d
  blank : ∀ d ∈ outputs, isBlank d = isBlank c
  same : isBlank c = true → outputs = [c]

theorem Lowers.of_isLower {c : Char} (lower : IsLower c) : Lowers c [c] where
  nonempty := List.cons_ne_nil _ _
  lower := by simpa using lower
  blank := by simp
  same := fun _ => rfl

theorem Lowers.of_letter {c : Char} {outputs : List Char}
    (nonempty : outputs ≠ []) (notBlank : isBlank c = false)
    (letters : ∀ d ∈ outputs, IsLower d ∧ isBlank d = false) :
    Lowers c outputs where
  nonempty := nonempty
  lower := fun d member => (letters d member).1
  blank := fun d member => (letters d member).2.trans notBlank.symm
  same := fun blank => absurd (notBlank.symm.trans blank) Bool.false_ne_true

theorem lowers_lowercaseChar (c : Char) : Lowers c (lowercaseChar c) := by
  by_cases dotted : c = '\u0130'
  · subst dotted
    refine .of_letter (by decide) (by decide) fun d member => ?_
    have either : d = 'i' ∨ d = '\u0307' := by
      simpa [lowercaseChar] using member
    rcases either with rfl | rfl
    · exact ⟨⟨by decide, by decide +kernel⟩, by decide⟩
    · exact ⟨⟨by decide, by decide +kernel⟩, by decide⟩
  · cases found : caseRuns.find? (·.covers c.toNat) with
    | none =>
        rw [lowercaseChar, if_neg dotted, found]
        exact .of_isLower ⟨dotted, found⟩
    | some run =>
        have covered := List.find?_some found
        obtain ⟨lower, lowerNotBlank, notBlank⟩ :=
          lowercase_letter (List.mem_of_find?_eq_some found) covered
        rw [lowercaseChar, if_neg dotted, found]
        exact .of_letter (List.cons_ne_nil _ _) notBlank
          (List.forall_mem_singleton.mpr ⟨lower, lowerNotBlank⟩)

theorem lowers_sigma (isFinal : Bool) :
    Lowers 'Σ' [if isFinal then 'ς' else 'σ'] := by
  refine .of_letter (List.cons_ne_nil _ _) (by decide)
    (List.forall_mem_singleton.mpr ?_)
  cases isFinal with
  | false => exact ⟨⟨by decide, by decide +kernel⟩, by decide⟩
  | true => exact ⟨⟨by decide, by decide +kernel⟩, by decide⟩

theorem isLower_of_isBlank {c : Char} (blank : isBlank c = true) :
    IsLower c := by
  have lowers := lowers_lowercaseChar c
  refine lowers.lower c ?_
  rw [lowers.same blank]
  exact List.mem_singleton_self c

/-! ## Whole texts -/

variable {before cs : List Char}

theorem lowercaseAfter_cons (before : List Char) (c : Char)
    (after : List Char) :
    ∃ outputs, Lowers c outputs ∧
      lowercaseAfter before (c :: after) =
        outputs ++ lowercaseAfter (c :: before) after := by
  rw [lowercaseAfter]
  split
  · next sigma =>
      subst sigma
      exact ⟨_, lowers_sigma _, rfl⟩
  · exact ⟨_, lowers_lowercaseChar c, rfl⟩

theorem lowercaseAfter_eq_nil : lowercaseAfter before cs = [] ↔ cs = [] := by
  cases cs with
  | nil => exact Iff.rfl
  | cons c after =>
      obtain ⟨outputs, lowers, step⟩ := lowercaseAfter_cons before c after
      simp [step, lowers.nonempty]

theorem isLower_of_mem_lowercaseAfter {d : Char} :
    ∀ {before cs : List Char}, d ∈ lowercaseAfter before cs → IsLower d := by
  intro before cs
  induction cs generalizing before with
  | nil => exact fun member => absurd member List.not_mem_nil
  | cons c after induction =>
      obtain ⟨outputs, lowers, step⟩ := lowercaseAfter_cons before c after
      rw [step, List.mem_append]
      rintro (here | later)
      · exact lowers.lower d here
      · exact induction later

theorem lowercaseAfter_cons_of_isLower {c : Char} (lower : IsLower c)
    (before after : List Char) :
    lowercaseAfter before (c :: after) =
      c :: lowercaseAfter (c :: before) after := by
  rw [lowercaseAfter, if_neg lower.ne_sigma, lower.lowercaseChar_eq]
  rfl

theorem lowercaseAfter_of_isLower (lower : ∀ c ∈ cs, IsLower c) :
    lowercaseAfter before cs = cs := by
  induction cs generalizing before with
  | nil => rfl
  | cons c after induction =>
      rw [lowercaseAfter_cons_of_isLower (lower c List.mem_cons_self),
        induction fun d member => lower d (List.mem_cons_of_mem _ member)]

@[simp] theorem lowercaseChars_idem (cs : List Char) :
    lowercaseChars (lowercaseChars cs) = lowercaseChars cs :=
  lowercaseAfter_of_isLower fun _ member =>
    isLower_of_mem_lowercaseAfter member

/-! ## Blanks between texts -/

theorem not_cased_of_isBlank {b : Char} (blank : isBlank b = true) :
    isCased b = false ∧ isCaseIgnorable b = false := by
  obtain ⟨range, member, inside⟩ := isBlank_iff_covers.mp blank
  have outside : ∀ other ∈ casedRanges ++ caseIgnorableRanges,
      ¬(other.1 ≤ b.toNat ∧ b.toNat ≤ other.2) := by
    intro other otherMember
    have apart := List.all_eq_true.mp
      (List.all_eq_true.mp caseRanges_not_blank other otherMember) range member
    rw [← CaseRun.covers_ofRange, Bool.not_eq_true]
    exact CaseRun.not_covers_of_isApart apart inside
  simp only [isCased, isCaseIgnorable, Bool.eq_false_iff, ne_eq, inRanges_iff,
    not_exists, not_and]
  exact ⟨fun other within => not_and.mp
      (outside other (List.mem_append_left _ within)),
    fun other within => not_and.mp
      (outside other (List.mem_append_right _ within))⟩

variable {b : Char} (blank : isBlank b = true)

include blank

/-- Nobody looks for cased characters behind a blank. -/
theorem meetsCased_append_blank (cs rest : List Char) :
    meetsCased (cs ++ b :: rest) = meetsCased cs := by
  obtain ⟨notCased, notIgnorable⟩ := not_cased_of_isBlank blank
  have stops : (b :: rest).dropWhile isCaseIgnorable = b :: rest :=
    List.dropWhile_cons_of_neg (by simp [notIgnorable])
  rw [meetsCased, List.dropWhile_append, meetsCased, stops]
  cases cs.dropWhile isCaseIgnorable with
  | nil => exact notCased
  | cons c rest => rfl

theorem lowercaseAfter_append_blank (outer cs : List Char) :
    ∀ before, lowercaseAfter (before ++ b :: outer) cs =
      lowercaseAfter before cs := by
  induction cs with
  | nil => exact fun _ => rfl
  | cons c after induction =>
      intro before
      rw [lowercaseAfter, lowercaseAfter, isFinalSigma, isFinalSigma,
        meetsCased_append_blank blank, ← List.cons_append, induction]

theorem lowercaseAfter_blank (left right : List Char) :
    ∀ before, lowercaseAfter before (left ++ b :: right) =
      lowercaseAfter before left ++ b :: lowercaseChars right := by
  induction left with
  | nil =>
      intro before
      have behind := lowercaseAfter_append_blank blank before right []
      rw [List.nil_append,
        lowercaseAfter_cons_of_isLower (isLower_of_isBlank blank)]
      exact congrArg (b :: ·) behind
  | cons c left induction =>
      intro before
      rw [List.cons_append, lowercaseAfter, lowercaseAfter, isFinalSigma,
        isFinalSigma, meetsCased_append_blank blank, induction,
        List.append_assoc]

theorem lowercaseChars_blank (left right : List Char) :
    lowercaseChars (left ++ b :: right) =
      lowercaseChars left ++ b :: lowercaseChars right :=
  lowercaseAfter_blank blank left right []

omit blank

theorem lowercaseChars_of_allBlank {cs : List Char} (blanks : AllBlank cs) :
    lowercaseChars cs = cs :=
  lowercaseAfter_of_isLower fun c member => isLower_of_isBlank (blanks c member)

theorem lowercaseChars_around {lead trail : List Char}
    (leadBlank : AllBlank lead) (trailBlank : AllBlank trail)
    (core : List Char) :
    lowercaseChars (lead ++ core ++ trail) =
      lead ++ lowercaseChars core ++ trail := by
  have behind : lowercaseChars (core ++ trail) =
      lowercaseChars core ++ trail := by
    cases trail with
    | nil => rw [List.append_nil, List.append_nil]
    | cons b rest =>
        rw [lowercaseChars_blank (trailBlank b List.mem_cons_self),
          lowercaseChars_of_allBlank fun c member =>
            trailBlank c (List.mem_cons_of_mem _ member)]
  induction lead with
  | nil => exact behind
  | cons b lead induction =>
      have rest := induction fun c member =>
        leadBlank c (List.mem_cons_of_mem _ member)
      have first :=
        lowercaseChars_blank (leadBlank b List.mem_cons_self) []
          (lead ++ core ++ trail)
      rw [rest] at first
      exact first

/-! ## Trimming and splitting -/

theorem isBlank_of_head?_lowercaseAfter {before cs : List Char}
    (front : ∀ c, cs.head? = some c → isBlank c = false) :
    ∀ d, (lowercaseAfter before cs).head? = some d → isBlank d = false := by
  cases cs with
  | nil => exact fun _ first => nomatch first
  | cons c after =>
      intro d first
      obtain ⟨outputs, lowers, step⟩ := lowercaseAfter_cons before c after
      obtain ⟨output, others, rfl⟩ :=
        List.exists_cons_of_ne_nil lowers.nonempty
      rw [step] at first
      cases first
      rw [lowers.blank _ List.mem_cons_self]
      exact front c rfl

theorem isBlank_of_getLast?_lowercaseAfter :
    ∀ {before cs : List Char},
      (∀ c, cs.getLast? = some c → isBlank c = false) →
      ∀ d, (lowercaseAfter before cs).getLast? = some d →
        isBlank d = false := by
  intro before cs
  induction cs generalizing before with
  | nil => exact fun _ _ last => nomatch last
  | cons c after induction =>
      intro back d last
      obtain ⟨outputs, lowers, step⟩ := lowercaseAfter_cons before c after
      cases after with
      | nil =>
          rw [step, lowercaseAfter, List.append_nil] at last
          rw [lowers.blank d (List.mem_of_getLast? last)]
          exact back c rfl
      | cons next after =>
          have later : lowercaseAfter (c :: before) (next :: after) ≠ [] :=
            fun nothing => nomatch lowercaseAfter_eq_nil.mp nothing
          rw [step, List.getLast?_append_of_ne_nil _ later] at last
          refine induction (fun e same => back e ?_) d last
          rw [List.getLast?_cons_cons]
          exact same

theorem IsTrimmed.lowercaseChars {cs : List Char} (trimmed : IsTrimmed cs) :
    IsTrimmed (lowercaseChars cs) where
  front := isBlank_of_head?_lowercaseAfter trimmed.front
  back := isBlank_of_getLast?_lowercaseAfter trimmed.back

theorem lowercaseChars_trimChars (cs : List Char) :
    lowercaseChars (trimChars cs) = trimChars (lowercaseChars cs) := by
  obtain ⟨lead, trail, leadBlank, trailBlank, whole⟩ :=
    exists_blanks_around cs
  have lowered : lowercaseChars cs =
      lead ++ lowercaseChars (trimChars cs) ++ trail := by
    rw [← lowercaseChars_around leadBlank trailBlank, ← whole]
  rw [lowered, trimChars_around leadBlank trailBlank,
    (isTrimmed_trimChars cs).lowercaseChars.trimChars_eq]

theorem mem_lowercaseAfter_blank {b : Char} (blank : isBlank b = true) :
    ∀ {before cs : List Char}, b ∈ lowercaseAfter before cs → b ∈ cs := by
  intro before cs
  induction cs generalizing before with
  | nil => exact id
  | cons c after induction =>
      obtain ⟨outputs, lowers, step⟩ := lowercaseAfter_cons before c after
      rw [step, List.mem_append]
      rintro (here | later)
      · have alike := lowers.blank b here
        rw [lowers.same (alike ▸ blank), List.mem_singleton] at here
        exact here ▸ List.mem_cons_self
      · exact List.mem_cons_of_mem _ (induction later)

/-- Lowercasing a text lowercases its pieces. -/
theorem splitOn_lowercaseChars {separator : Char}
    (blank : isBlank separator = true) (cs : List Char) :
    (lowercaseChars cs).splitOn separator =
      (cs.splitOn separator).map lowercaseChars := by
  by_cases inside : separator ∈ cs
  · -- One separator leaves two shorter texts.
    obtain ⟨left, right, split⟩ := List.append_of_mem inside
    have shorter : left.length < cs.length ∧ right.length < cs.length := by
      rw [split, List.length_append, List.length_cons]
      omega
    rw [split, lowercaseChars_blank blank, List.splitOn_append_cons_self,
      List.splitOn_append_cons_self, List.map_append,
      splitOn_lowercaseChars blank left, splitOn_lowercaseChars blank right]
  · have outside : separator ∉ lowercaseChars cs :=
      fun member => inside (mem_lowercaseAfter_blank blank member)
    rw [List.splitOn_eq_singleton inside, List.splitOn_eq_singleton outside]
    rfl
termination_by cs.length

/-! ## Strings -/

@[simp] theorem lowercase_lowercase (text : String) :
    lowercase (lowercase text) = lowercase text := by
  simp [lowercase]

theorem lowercase_eq_empty {text : String} :
    lowercase text = "" ↔ text = "" := by
  rw [← String.toList_eq_nil_iff, ← String.toList_eq_nil_iff, lowercase,
    String.toList_ofList]
  exact lowercaseAfter_eq_nil

theorem trim_lowercase (text : String) :
    trim (lowercase text) = lowercase (trim text) := by
  simp [trim, lowercase, lowercaseChars_trimChars]

theorem trim_around {before after : String}
    (beforeBlank : AllBlank before.toList) (afterBlank : AllBlank after.toList)
    (text : String) : trim (before ++ text ++ after) = trim text := by
  rw [trim, String.toList_append, String.toList_append,
    trimChars_around beforeBlank afterBlank, trim]

end OperatorConsole.Text
