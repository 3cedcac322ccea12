import OperatorConsole.Proofs.Except
import OperatorConsole.Proofs.Json.Grammar

/-!
# Reading strings

A string that is skipped is any string of the grammar; one that is read must
spell a text.  Both are read by one machine, so a string that is read begins in
one of four ways whichever it is.
-/

namespace OperatorConsole.Json

theorem escaped?_eq_some_iff {letter meant : Char} :
    escaped? letter = some meant ↔ (letter, meant) ∈ letterEscapes := by
  constructor
  · intro means
    have known : letter ∈ letterEscapes.map Prod.fst := by
      refine Decidable.byContradiction fun unknown => ?_
      simp only [letterEscapes, List.map_cons, List.map_nil, List.mem_cons,
        List.not_mem_nil, or_false, not_or] at unknown
      simp [escaped?, unknown] at means
    obtain ⟨⟨_, other⟩, member, rfl⟩ := List.mem_map.mp known
    have same : ∀ pair ∈ letterEscapes, escaped? pair.1 = some pair.2 := by
      decide
    rw [same _ member, Option.some.injEq] at means
    exact means ▸ member
  · have means : ∀ pair ∈ letterEscapes, escaped? pair.1 = some pair.2 := by
      decide
    exact fun known => means _ known

theorem hexValue?_lt {c : Char} {value : Nat}
    (hex : Text.hexValue? c = some value) : value < 16 := by
  unfold Text.hexValue? at hex
  split at hex
  · next within =>
      cases hex
      have most : c.toNat ≤ 0x39 := within.2
      omega
  · split at hex
    · next within =>
        cases hex
        have most : c.toNat ≤ 0x66 := within.2
        omega
    · split at hex
      · next within =>
          cases hex
          have most : c.toNat ≤ 0x46 := within.2
          omega
      · cases hex

theorem IsUnit.lt {digits : List Char} {value : Nat}
    (isUnit : IsUnit digits value) : value < 0x10000 := by
  cases isUnit with
  | digits first second third fourth =>
      have := hexValue?_lt first
      have := hexValue?_lt second
      have := hexValue?_lt third
      have := hexValue?_lt fourth
      omega

/-! ## One step -/

section Steps

variable {skipping : Bool} {state next : StringState} {c : Char}
  {emitted : Option Char} {cs rest content : List Char}

theorem stringFrom_go
    (moves : stringMove skipping state c cs = .ok (.go emitted next)) :
    stringFrom skipping state (c :: cs) =
      (stringFrom skipping next cs).map
        fun read => (emitted.toList ++ read.1, read.2) := by
  rw [stringFrom, moves]
  dsimp only
  cases stringFrom skipping next cs <;> rfl

theorem stringFrom_quiet
    (moves : stringMove skipping state c cs = .ok (.go none next)) :
    stringFrom skipping state (c :: cs) = stringFrom skipping next cs := by
  rw [stringFrom_go moves]
  cases stringFrom skipping next cs <;> rfl

theorem stringFrom_of_error {fault : Fault}
    (moves : stringMove skipping state c cs = .error fault) :
    stringFrom skipping state (c :: cs) = .error fault := by
  rw [stringFrom, moves]

/-! The moves at a backslash and at the letter of an escape. -/

theorem stringMove_backslash :
    stringMove skipping .plain '\\' cs = .ok (.go none .escape) := rfl

theorem stringMove_unitLetter :
    stringMove skipping .escape 'u' cs = .ok (.go none (.hex none 0 0)) := rfl

theorem stringMove_pairBackslash {lead : Nat} :
    stringMove skipping (.pairBackslash lead) '\\' cs =
      .ok (.go none (.pairLetter lead)) := rfl

theorem stringMove_pairLetter {lead : Nat} :
    stringMove skipping (.pairLetter lead) 'u' cs =
      .ok (.go none (.hex (some lead) 0 0)) := rfl

/-! ## Units -/

variable {lead : Option Nat} {digits value : Nat}

theorem stringMove_digit {digit : Nat} (hex : Text.hexValue? c = some digit)
    (early : digits < 3) :
    stringMove skipping (.hex lead digits value) c cs =
      .ok (.go none (.hex lead (digits + 1) (value * 16 + digit))) := by
  simp [stringMove, hex, Nat.ne_of_lt early]

theorem stringMove_lastDigit {digit : Nat}
    (hex : Text.hexValue? c = some digit) :
    stringMove skipping (.hex lead 3 value) c cs =
      hexMove skipping lead (value * 16 + digit) cs := by
  simp [stringMove, hex]

theorem stringFrom_digits {a b c d : Char} {i j k : Nat}
    (first : Text.hexValue? a = some i) (second : Text.hexValue? b = some j)
    (third : Text.hexValue? c = some k) (cs : List Char) :
    stringFrom skipping (.hex lead 0 0) (a :: b :: c :: d :: cs) =
      stringFrom skipping (.hex lead 3 ((i * 16 + j) * 16 + k)) (d :: cs) := by
  rw [stringFrom_quiet (stringMove_digit first (by decide)),
    stringFrom_quiet (stringMove_digit second (by decide)),
    stringFrom_quiet (stringMove_digit third (by decide))]
  simp only [Nat.zero_mul, Nat.zero_add]

theorem exists_digit {result : WithRest (List Char)}
    (read : stringFrom skipping (.hex lead digits value) cs = .ok result) :
    ∃ c rest digit, cs = c :: rest ∧ Text.hexValue? c = some digit := by
  cases cs with
  | nil => cases read
  | cons c rest =>
      cases hex : Text.hexValue? c with
      | some digit => exact ⟨c, rest, digit, rfl, hex⟩
      | none =>
          have moves : stringMove skipping (.hex lead digits value) c rest =
              .error (hexFault digits (c :: rest)) := by
            simp [stringMove, hex]
          rw [stringFrom_of_error moves] at read
          cases read

theorem hexMove_ne_closed : hexMove skipping lead value cs ≠ .ok .closed := by
  unfold hexMove
  repeat' split
  all_goals simp

/-- A unit that is read has four digits, and it is known what they do. -/
theorem exists_unit {result : WithRest (List Char)}
    (read : stringFrom skipping (.hex lead 0 0) cs = .ok result) :
    ∃ digits value rest emitted next, IsUnit digits value ∧
      cs = digits ++ rest ∧
      hexMove skipping lead value rest = .ok (.go emitted next) := by
  obtain ⟨a, _, i, rfl, first⟩ := exists_digit read
  have readOn := read
  rw [stringFrom_quiet (stringMove_digit first (by decide))] at readOn
  obtain ⟨b, _, j, rfl, second⟩ := exists_digit readOn
  rw [stringFrom_quiet (stringMove_digit second (by decide))] at readOn
  obtain ⟨c, _, k, rfl, third⟩ := exists_digit readOn
  rw [stringFrom_quiet (stringMove_digit third (by decide))] at readOn
  obtain ⟨d, rest, l, rfl, fourth⟩ := exists_digit readOn
  rw [stringFrom_digits first second third] at read
  have last : stringMove skipping (.hex lead 3 ((i * 16 + j) * 16 + k)) d rest =
      hexMove skipping lead (((i * 16 + j) * 16 + k) * 16 + l) rest :=
    stringMove_lastDigit fourth
  let value := ((i * 16 + j) * 16 + k) * 16 + l
  cases move : hexMove skipping lead value rest with
  | error fault =>
      rw [stringFrom_of_error (last.trans move)] at read
      cases read
  | ok known =>
      cases known with
      | closed => exact absurd move hexMove_ne_closed
      | go emitted next =>
          exact ⟨[a, b, c, d], _, rest, emitted, next,
            .digits first second third fourth, rfl, move⟩

theorem stringFrom_unit {digits : List Char} {value : Nat}
    (isUnit : IsUnit digits value)
    (moves : hexMove skipping lead value cs = .ok (.go emitted next)) :
    stringFrom skipping (.hex lead 0 0) (digits ++ cs) =
      (stringFrom skipping next cs).map
        fun read => (emitted.toList ++ read.1, read.2) := by
  cases isUnit with
  | digits first second third fourth =>
      exact (stringFrom_digits first second third cs).trans
        (stringFrom_go ((stringMove_lastDigit fourth).trans moves))

/-! ## Beginnings -/

/-- How a string that is read begins. -/
inductive Begins (skipping : Bool) (rest : List Char) :
    List Char → List Char → Prop where
  | closed : Begins skipping rest ('"' :: rest) []
  | plain {c : Char} {after more : List Char} (isPlain : IsPlain c)
      (read : stringFrom skipping .plain after = .ok (more, rest)) :
      Begins skipping rest (c :: after) (c :: more)
  | letter {letter meant : Char} {after more : List Char}
      (known : (letter, meant) ∈ letterEscapes)
      (read : stringFrom skipping .plain after = .ok (more, rest)) :
      Begins skipping rest ('\\' :: letter :: after) (meant :: more)
  | unit {after content : List Char}
      (read : stringFrom skipping (.hex none 0 0) after = .ok (content, rest)) :
      Begins skipping rest ('\\' :: 'u' :: after) content

theorem stringFrom_plain (isPlain : IsPlain c) :
    stringFrom skipping .plain (c :: cs) =
      (stringFrom skipping .plain cs).map
        fun read => (c :: read.1, read.2) := by
  have visible : ¬c.toNat < 0x20 := Nat.not_lt.mpr isPlain.notControl
  have moves : stringMove skipping .plain c cs = .ok (.go (some c) .plain) := by
    simp [stringMove, isPlain.notQuote, isPlain.notBackslash, visible]
  exact stringFrom_go moves

theorem stringFrom_escape {letter meant : Char}
    (known : (letter, meant) ∈ letterEscapes) :
    stringFrom skipping .plain ('\\' :: letter :: cs) =
      (stringFrom skipping .plain cs).map
        fun read => (meant :: read.1, read.2) := by
  have means := escaped?_eq_some_iff.mpr known
  have notHex : letter ≠ 'u' := by
    rintro rfl
    cases means
  have moves : stringMove skipping .escape letter cs =
      .ok (.go (some meant) .plain) := by
    simp [stringMove, notHex, means]
  rw [stringFrom_quiet stringMove_backslash]
  exact stringFrom_go moves

theorem stringFrom_openUnit :
    stringFrom skipping .plain ('\\' :: 'u' :: cs) =
      stringFrom skipping (.hex none 0 0) cs := by
  rw [stringFrom_quiet stringMove_backslash,
    stringFrom_quiet stringMove_unitLetter]

theorem begins_of_read
    (read : stringFrom skipping .plain cs = .ok (content, rest)) :
    Begins skipping rest cs content := by
  cases cs with
  | nil => cases read
  | cons c after =>
      by_cases quote : c = '"'
      · subst quote
        cases read
        exact .closed
      by_cases backslash : c = '\\'
      · subst backslash
        cases after with
        | nil => cases read
        | cons letter after =>
            by_cases hex : letter = 'u'
            · subst hex
              exact .unit (stringFrom_openUnit.symm.trans read)
            · cases means : escaped? letter with
              | none =>
                  have moves : stringMove skipping .escape letter after =
                      .error (.atNext .invalidEscape (letter :: after)) := by
                    simp [stringMove, hex, means]
                  rw [stringFrom_quiet stringMove_backslash,
                    stringFrom_of_error moves] at read
                  cases read
              | some meant =>
                  have known := escaped?_eq_some_iff.mp means
                  rw [stringFrom_escape known] at read
                  obtain ⟨_, later, same⟩ := map_eq_ok.mp read
                  cases same
                  exact .letter known later
      · by_cases control : c.toNat < 0x20
        · rw [stringFrom] at read
          simp [stringMove, quote, backslash, control] at read
        · have isPlain : IsPlain c := ⟨Nat.not_lt.mp control, quote, backslash⟩
          rw [stringFrom_plain isPlain] at read
          obtain ⟨_, later, same⟩ := map_eq_ok.mp read
          cases same
          exact .plain isPlain later

end Steps

/-! ## Skipping -/

theorem skipString_of_isString {content : List Char}
    (isString : IsString content) (rest : List Char) :
    skipString (content ++ '"' :: rest) = .ok rest := by
  have read : ∃ cs, stringFrom true .plain (content ++ '"' :: rest) =
      .ok (cs, rest) := by
    induction isString with
    | nil => exact ⟨[], rfl⟩
    | plain isPlain _ induction =>
        obtain ⟨cs, read⟩ := induction
        exact ⟨_, (stringFrom_plain isPlain).trans
          (map_eq_ok.mpr ⟨_, read, rfl⟩)⟩
    | letter known _ induction =>
        obtain ⟨cs, read⟩ := induction
        exact ⟨_, (stringFrom_escape known).trans
          (map_eq_ok.mpr ⟨_, read, rfl⟩)⟩
    | unit isUnit _ induction =>
        obtain ⟨cs, read⟩ := induction
        rw [List.cons_append, List.cons_append, List.append_assoc,
          stringFrom_openUnit]
        exact ⟨_, (stringFrom_unit isUnit rfl).trans
          (map_eq_ok.mpr ⟨_, read, rfl⟩)⟩
  obtain ⟨cs, read⟩ := read
  exact map_eq_ok.mpr ⟨_, read, rfl⟩

/-- The machine comes back to plain characters with fewer of them left. -/
theorem isString_of_read (bound : Nat) :
    ∀ {cs content rest : List Char}, cs.length < bound →
      stringFrom true .plain cs = .ok (content, rest) →
        ∃ text, IsString text ∧ cs = text ++ '"' :: rest := by
  induction bound with
  | zero => exact fun short => absurd short (Nat.not_lt_zero _)
  | succ bound induction =>
      intro cs content rest short read
      cases begins_of_read read with
      | closed => exact ⟨[], .nil, rfl⟩
      | plain isPlain later =>
          rw [List.length_cons] at short
          obtain ⟨text, isString, rfl⟩ := induction (by omega) later
          exact ⟨_, .plain isPlain isString, rfl⟩
      | letter known later =>
          rw [List.length_cons, List.length_cons] at short
          obtain ⟨text, isString, rfl⟩ := induction (by omega) later
          exact ⟨_, .letter known isString, rfl⟩
      | unit inside =>
          obtain ⟨digits, value, after, emitted, next, isUnit, rfl, moves⟩ :=
            exists_unit inside
          cases moves
          rw [stringFrom_unit isUnit rfl] at inside
          obtain ⟨⟨more, _⟩, later, same⟩ := map_eq_ok.mp inside
          cases same
          rw [List.length_cons, List.length_cons, List.length_append] at short
          obtain ⟨text, isString, rfl⟩ := induction (by omega) later
          exact ⟨_, .unit isUnit isString, by simp⟩

theorem isString_of_skipString {cs rest : List Char}
    (skipped : skipString cs = .ok rest) :
    ∃ content, IsString content ∧ cs = content ++ '"' :: rest := by
  obtain ⟨_, read, rfl⟩ := map_eq_ok.mp skipped
  exact isString_of_read _ (Nat.lt_succ_self _) read

/-! ## Reading -/

section Units

variable {rest : List Char} {high low : Nat}

theorem not_surrogate (c : Char) :
    isLeading c.toNat = false ∧ isTrailing c.toNat = false := by
  have valid : c.toNat < 0xd800 ∨ 0xdfff < c.toNat ∧ c.toNat < 0x110000 :=
    c.valid
  simp only [isLeading, isTrailing, Bool.and_eq_false_iff,
    decide_eq_false_iff_not]
  omega

theorem hexMove_char (c : Char) :
    hexMove false none c.toNat rest = .ok (.go (some c) .plain) := by
  obtain ⟨notLeading, notTrailing⟩ := not_surrogate c
  simp [hexMove, notLeading, notTrailing]

theorem hexMove_leading (small : high < 0x400) :
    hexMove false none (0xd800 + high) rest =
      .ok (.go none (.pairBackslash (0xd800 + high))) := by
  have notTrailing : isTrailing (0xd800 + high) = false := by
    simp only [isTrailing, Bool.and_eq_false_iff, decide_eq_false_iff_not]
    omega
  have leading : isLeading (0xd800 + high) = true := by
    simp only [isLeading, Bool.and_eq_true, decide_eq_true_eq]
    omega
  simp [hexMove, notTrailing, leading]

theorem hexMove_trailing (small : low < 0x400) (lead : Nat) :
    hexMove false (some lead) (0xdc00 + low) rest =
      .ok (.go (some (paired lead (0xdc00 + low))) .plain) := by
  have trailing : isTrailing (0xdc00 + low) = true := by
    simp only [isTrailing, Bool.and_eq_true, decide_eq_true_eq]
    omega
  simp [hexMove, trailing]

theorem paired_eq {c : Char}
    (code : c.toNat = 0x10000 + high * 0x400 + low) :
    paired (0xd800 + high) (0xdc00 + low) = c := by
  have same : (0xd800 + high - 0xd800) * 0x400 + (0xdc00 + low - 0xdc00) +
      0x10000 = c.toNat := by omega
  rw [paired, same, Char.ofNat_toNat]

theorem toNat_ofNat_of_isValid {value : Nat} (valid : value.isValidChar) :
    (Char.ofNat value).toNat = value := by
  rw [Char.ofNat, dif_pos valid]
  rfl

theorem toNat_paired (highSmall : high < 0x400) (lowSmall : low < 0x400) :
    (paired (0xd800 + high) (0xdc00 + low)).toNat =
      0x10000 + high * 0x400 + low := by
  rw [paired, toNat_ofNat_of_isValid (.inr (by omega))]
  omega

section Moves

variable {value : Nat} {emitted : Option Char} {next : StringState}

theorem hexMove_none_cases (small : value < 0x10000)
    (moves : hexMove false none value rest = .ok (.go emitted next)) :
    (∃ c : Char, value = c.toNat ∧ emitted = some c ∧ next = .plain) ∨
      ∃ high, high < 0x400 ∧ value = 0xd800 + high ∧ emitted = none ∧
        next = .pairBackslash (0xd800 + high) := by
  simp only [hexMove, Bool.false_eq_true, if_false] at moves
  split at moves
  · cases moves
  · next notTrailing =>
      simp only [isTrailing, Bool.and_eq_true, decide_eq_true_eq]
        at notTrailing
      split at moves
      · next leading =>
          simp only [isLeading, Bool.and_eq_true, decide_eq_true_eq] at leading
          cases moves
          exact .inr ⟨value - 0xd800, by omega, by omega, rfl,
            by rw [Nat.add_sub_cancel' leading.1]⟩
      · next notLeading =>
          simp only [isLeading, Bool.and_eq_true, decide_eq_true_eq]
            at notLeading
          have valid : value.isValidChar := by
            unfold Nat.isValidChar
            omega
          cases moves
          exact .inl ⟨Char.ofNat value, (toNat_ofNat_of_isValid valid).symm,
            rfl, rfl⟩

theorem hexMove_some_cases {lead : Nat}
    (moves : hexMove false (some lead) value rest = .ok (.go emitted next)) :
    ∃ low, low < 0x400 ∧ value = 0xdc00 + low ∧
      emitted = some (paired lead (0xdc00 + low)) ∧ next = .plain := by
  simp only [hexMove, Bool.false_eq_true, if_false] at moves
  split at moves
  · next trailing =>
      simp only [isTrailing, Bool.and_eq_true, decide_eq_true_eq] at trailing
      cases moves
      exact ⟨value - 0xdc00, by omega, by omega,
        by rw [Nat.add_sub_cancel' trailing.1], rfl⟩
  · cases moves

end Moves

/-- A surrogate is followed by another unit or by nothing that can be read. -/
theorem stringFrom_pair {lead : Nat} {cs : List Char} :
    stringFrom false (.pairBackslash lead) ('\\' :: 'u' :: cs) =
      stringFrom false (.hex (some lead) 0 0) cs := by
  rw [stringFrom_quiet stringMove_pairBackslash,
    stringFrom_quiet stringMove_pairLetter]

theorem exists_pair {lead : Nat} {cs : List Char}
    {result : WithRest (List Char)}
    (read : stringFrom false (.pairBackslash lead) cs = .ok result) :
    ∃ after, cs = '\\' :: 'u' :: after := by
  cases cs with
  | nil => cases read
  | cons c cs =>
      by_cases backslash : c = '\\'
      · subst backslash
        rw [stringFrom_quiet stringMove_pairBackslash] at read
        cases cs with
        | nil => cases read
        | cons c cs =>
            by_cases letter : c = 'u'
            · exact ⟨cs, by rw [letter]⟩
            · rw [stringFrom] at read
              simp [stringMove, letter] at read
      · rw [stringFrom] at read
        simp [stringMove, backslash] at read

end Units

theorem stringFrom_of_spells {content cs : List Char}
    (spells : Spells content cs) (rest : List Char) :
    stringFrom false .plain (content ++ '"' :: rest) = .ok (cs, rest) := by
  induction spells with
  | nil => rfl
  | plain isPlain _ induction =>
      exact (stringFrom_plain isPlain).trans (map_eq_ok.mpr ⟨_, induction, rfl⟩)
  | letter known _ induction =>
      exact (stringFrom_escape known).trans (map_eq_ok.mpr ⟨_, induction, rfl⟩)
  | unit isUnit _ induction =>
      rw [List.cons_append, List.cons_append, List.append_assoc,
        stringFrom_openUnit, stringFrom_unit isUnit (hexMove_char _)]
      exact map_eq_ok.mpr ⟨_, induction, rfl⟩
  | pair leads highSmall trails lowSmall code _ induction =>
      simp only [List.cons_append, List.append_assoc]
      rw [stringFrom_openUnit,
        stringFrom_unit leads (hexMove_leading highSmall), stringFrom_pair,
        stringFrom_unit trails (hexMove_trailing lowSmall _), paired_eq code]
      exact map_eq_ok.mpr ⟨_, map_eq_ok.mpr ⟨_, induction, rfl⟩, rfl⟩

/-- The machine comes back to plain characters with fewer of them left, after
one unit or two. -/
theorem spells_of_read (bound : Nat) :
    ∀ {cs content rest : List Char}, cs.length < bound →
      stringFrom false .plain cs = .ok (content, rest) →
        ∃ text, Spells text content ∧ cs = text ++ '"' :: rest := by
  induction bound with
  | zero => exact fun short => absurd short (Nat.not_lt_zero _)
  | succ bound induction =>
      intro cs content rest short read
      cases begins_of_read read with
      | closed => exact ⟨[], .nil, rfl⟩
      | plain isPlain later =>
          rw [List.length_cons] at short
          obtain ⟨text, spells, rfl⟩ := induction (by omega) later
          exact ⟨_, .plain isPlain spells, rfl⟩
      | letter known later =>
          rw [List.length_cons, List.length_cons] at short
          obtain ⟨text, spells, rfl⟩ := induction (by omega) later
          exact ⟨_, .letter known spells, rfl⟩
      | unit inside =>
          obtain ⟨digits, value, after, emitted, next, isUnit, rfl, moves⟩ :=
            exists_unit inside
          rw [stringFrom_unit isUnit moves] at inside
          obtain ⟨⟨more, _⟩, later, same⟩ := map_eq_ok.mp inside
          cases same
          rw [List.length_cons, List.length_cons, List.length_append] at short
          rcases hexMove_none_cases isUnit.lt moves with
            ⟨c, rfl, rfl, rfl⟩ | ⟨high, highSmall, rfl, rfl, rfl⟩
          · obtain ⟨text, spells, rfl⟩ := induction (by omega) later
            exact ⟨_, .unit isUnit spells, by simp⟩
          · obtain ⟨after, rfl⟩ := exists_pair later
            rw [stringFrom_pair] at later
            obtain ⟨trailing, value, after, emitted, next, trails, rfl,
              movesOn⟩ := exists_unit later
            rw [stringFrom_unit trails movesOn] at later
            obtain ⟨⟨more, _⟩, latest, same⟩ := map_eq_ok.mp later
            cases same
            rw [List.length_cons, List.length_cons, List.length_append]
              at short
            obtain ⟨low, lowSmall, rfl, rfl, rfl⟩ := hexMove_some_cases movesOn
            obtain ⟨text, spells, rfl⟩ := induction (by omega) latest
            refine ⟨_, .pair isUnit highSmall trails lowSmall
              (toNat_paired highSmall lowSmall) spells, by simp⟩

/-- A string is read as a value if it spells that value. -/
theorem stringBody_eq_ok_iff {cs rest : List Char} {value : String} :
    stringBody cs = .ok (value, rest) ↔
      ∃ content, Spells content value.toList ∧ cs = content ++ '"' :: rest := by
  constructor
  · intro accepted
    unfold stringBody at accepted
    split at accepted
    · next read =>
        cases accepted
        rw [String.toList_ofList]
        exact spells_of_read _ (Nat.lt_succ_self _) read
    · cases accepted
  · rintro ⟨content, spells, rfl⟩
    rw [stringBody, stringFrom_of_spells spells]
    simp

/-- A string spells one text at most. -/
theorem Spells.unique {content cs others : List Char}
    (spells : Spells content cs) (spellsOther : Spells content others) :
    cs = others := by
  have first := stringFrom_of_spells spells []
  have second := stringFrom_of_spells spellsOther []
  exact congrArg Prod.fst (Except.ok.inj (first.symm.trans second))

/-! Both relations can be decided by reading. -/

theorem isString_iff {content : List Char} :
    IsString content ↔ (skipString (content ++ ['"'])).toOption = some [] := by
  rw [toOption_eq_some_iff]
  constructor
  · exact fun isString => skipString_of_isString isString []
  · intro skipped
    obtain ⟨text, isString, same⟩ := isString_of_skipString skipped
    rwa [List.append_cancel_right same]

instance (content : List Char) : Decidable (IsString content) :=
  decidable_of_iff _ isString_iff.symm

theorem spells_iff {content cs : List Char} :
    Spells content cs ↔
      (stringFrom false .plain (content ++ ['"'])).toOption =
        some (cs, []) := by
  rw [toOption_eq_some_iff]
  constructor
  · exact fun spells => stringFrom_of_spells spells []
  · intro read
    obtain ⟨text, spells, same⟩ := spells_of_read _ (Nat.lt_succ_self _) read
    rwa [List.append_cancel_right same]

instance (content cs : List Char) : Decidable (Spells content cs) :=
  decidable_of_iff _ spells_iff.symm

theorem exists_spells_iff {content : List Char} :
    (∃ cs, Spells content cs) ↔
      (stringFrom false .plain (content ++ ['"'])).toOption.map Prod.snd =
        some [] := by
  rw [Option.map_eq_some_iff]
  constructor
  · rintro ⟨cs, spells⟩
    exact ⟨(cs, []), spells_iff.mp spells, rfl⟩
  · rintro ⟨⟨cs, _⟩, read, rfl⟩
    exact ⟨cs, spells_iff.mpr read⟩

instance (content : List Char) : Decidable (∃ cs, Spells content cs) :=
  decidable_of_iff _ exists_spells_iff.symm

end OperatorConsole.Json
