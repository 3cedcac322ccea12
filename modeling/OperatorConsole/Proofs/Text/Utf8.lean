import OperatorConsole.Text.Utf8

/-!
# Reading UTF-8 back

The bytes of a text are read back as that text, without a fault and whatever
comes behind them.
-/

namespace OperatorConsole.Text.Utf8

/-! ## Single bytes -/

theorem toNat_ofNat {n : Nat} (small : n < 256) :
    (UInt8.ofNat n).toNat = n := by
  simp [Nat.mod_eq_of_lt small]

theorem step_ascii {n : Nat} (small : n < 0x80) :
    step none (UInt8.ofNat n) = ([some (Char.ofNat n)], none) := by
  simp [step, Lead.ofByte, Lead.pieces, toNat_ofNat (by omega : n < 256),
    small]

theorem step_leadOfTwo {n : Nat} (least : 0xc2 ≤ n) (most : n < 0xe0) :
    step none (UInt8.ofNat n) = ([], some ⟨n - 0xc0, 1, 0x80, 0xbf⟩) := by
  have lead : Lead.ofByte (UInt8.ofNat n) =
      .opening ⟨n - 0xc0, 1, 0x80, 0xbf⟩ := by
    simp only [Lead.ofByte, toNat_ofNat (by omega : n < 256)]
    rw [if_neg (by omega), if_neg (by omega), if_pos most]
  rw [step, lead, Lead.pieces]

/-- The least second byte keeps overlong forms out, the greatest one
surrogates. -/
theorem step_leadOfThree {n : Nat} (least : 0xe0 ≤ n) (most : n < 0xf0) :
    step none (UInt8.ofNat n) =
      ([], some ⟨n - 0xe0, 2, if n = 0xe0 then 0xa0 else 0x80,
        if n = 0xed then 0x9f else 0xbf⟩) := by
  have lead : Lead.ofByte (UInt8.ofNat n) =
      .opening ⟨n - 0xe0, 2, if n = 0xe0 then 0xa0 else 0x80,
        if n = 0xed then 0x9f else 0xbf⟩ := by
    simp only [Lead.ofByte, toNat_ofNat (by omega : n < 256)]
    rw [if_neg (by omega), if_neg (by omega), if_neg (by omega)]
    by_cases first : n = 0xe0
    · simp [first]
    · by_cases surrogate : n = 0xed
      · simp [surrogate]
      · simp [first, surrogate, most]
  rw [step, lead, Lead.pieces]

theorem step_leadOfFour {n : Nat} (least : 0xf0 ≤ n) (most : n ≤ 0xf4) :
    step none (UInt8.ofNat n) =
      ([], some ⟨n - 0xf0, 3, if n = 0xf0 then 0x90 else 0x80,
        if n = 0xf4 then 0x8f else 0xbf⟩) := by
  have lead : Lead.ofByte (UInt8.ofNat n) =
      .opening ⟨n - 0xf0, 3, if n = 0xf0 then 0x90 else 0x80,
        if n = 0xf4 then 0x8f else 0xbf⟩ := by
    simp only [Lead.ofByte, toNat_ofNat (by omega : n < 256)]
    rw [if_neg (by omega), if_neg (by omega), if_neg (by omega),
      if_neg (by omega), if_neg (by omega), if_neg (by omega)]
    by_cases first : n = 0xf0
    · simp [first]
    · by_cases last : n = 0xf4
      · simp [last]
      · have middle : n < 0xf4 := by omega
        simp [first, last, middle]
  rw [step, lead, Lead.pieces]

/-- A byte that goes on a character which it does not complete. -/
theorem step_goesOn {value remaining low high n : Nat}
    (more : remaining ≠ 1) (small : n < 256)
    (inside : low ≤ n ∧ n ≤ high) :
    step (some ⟨value, remaining, low, high⟩) (UInt8.ofNat n) =
      ([], some ⟨value * 64 + (n - 0x80), remaining - 1, 0x80, 0xbf⟩) := by
  simp [step, toNat_ofNat small, inside, more]

theorem step_completes {value low high n : Nat} (small : n < 256)
    (inside : low ≤ n ∧ n ≤ high) :
    step (some ⟨value, 1, low, high⟩) (UInt8.ofNat n) =
      ([some (Char.ofNat (value * 64 + (n - 0x80)))], none) := by
  simp [step, toNat_ofNat small, inside]

/-! ## Characters and texts -/

/-- The values of characters leave out the surrogates. -/
theorem toNat_bounds (c : Char) :
    c.toNat < 0xd800 ∨ (0xdfff < c.toNat ∧ c.toNat < 0x110000) :=
  c.valid

theorem piecesFrom_cons (state : Option Partial) (byte : UInt8)
    (rest : List UInt8) :
    piecesFrom state (byte :: rest) =
      (step state byte).1 ++ piecesFrom (step state byte).2 rest := by
  cases state <;> rfl

theorem pieces_encodeChar_append (c : Char) (rest : List UInt8) :
    pieces (String.utf8EncodeChar c ++ rest) = some c :: pieces rest := by
  have bounds := toNat_bounds c
  have value : c.val.toNat = c.toNat := rfl
  have same : Char.ofNat c.toNat = c := Char.ofNat_toNat c
  simp only [pieces, String.utf8EncodeChar, value]
  -- One case for each number of bytes.
  split
  · next one =>
      rw [List.singleton_append, piecesFrom_cons, step_ascii (by omega), same]
      rfl
  · split
    · next two =>
        simp only [List.cons_append, List.nil_append]
        rw [piecesFrom_cons, step_leadOfTwo (by omega) (by omega),
          piecesFrom_cons, step_completes (by omega) (by omega)]
        have whole : (c.toNat / 64 % 32 + 192 - 192) * 64 +
            (c.toNat % 64 + 128 - 128) = c.toNat := by omega
        rw [whole, same]
        rfl
    · split
      · next three =>
          simp only [List.cons_append, List.nil_append]
          rw [piecesFrom_cons, step_leadOfThree (by omega) (by omega),
            piecesFrom_cons, step_goesOn (by omega) (by omega)
              ⟨by split <;> omega, by split <;> omega⟩,
            piecesFrom_cons, step_completes (by omega) (by omega)]
          have whole : ((c.toNat / 4096 % 16 + 224 - 224) * 64 +
              (c.toNat / 64 % 64 + 128 - 128)) * 64 +
              (c.toNat % 64 + 128 - 128) = c.toNat := by omega
          rw [whole, same]
          rfl
      · next four =>
          simp only [List.cons_append, List.nil_append]
          rw [piecesFrom_cons, step_leadOfFour (by omega) (by omega),
            piecesFrom_cons, step_goesOn (by omega) (by omega)
              ⟨by split <;> omega, by split <;> omega⟩,
            piecesFrom_cons, step_goesOn (by omega) (by omega) (by omega),
            piecesFrom_cons, step_completes (by omega) (by omega)]
          have whole : (((c.toNat / 262144 % 8 + 240 - 240) * 64 +
              (c.toNat / 4096 % 64 + 128 - 128)) * 64 +
              (c.toNat / 64 % 64 + 128 - 128)) * 64 +
              (c.toNat % 64 + 128 - 128) = c.toNat := by omega
          rw [whole, same]
          rfl

theorem pieces_encode_append (cs : List Char) (rest : List UInt8) :
    pieces (encode cs ++ rest) = cs.map some ++ pieces rest := by
  induction cs with
  | nil => rfl
  | cons c cs induction =>
      have unfolded :
          encode (c :: cs) = String.utf8EncodeChar c ++ encode cs := by
        simp [encode]
      rw [unfolded, List.append_assoc, pieces_encodeChar_append, induction]
      rfl

@[simp] theorem decodeLossy_encode (cs : List Char) :
    decodeLossy (encode cs) = cs := by
  have read := pieces_encode_append cs []
  rw [List.append_nil] at read
  rw [decodeLossy, read]
  simp [pieces, piecesFrom, Function.comp_def]

theorem decode?_encode (cs : List Char) : decode? (encode cs) = some cs := by
  have read := pieces_encode_append cs []
  rw [List.append_nil] at read
  have whole : ∀ cs : List Char, (cs.map some).mapM id = some cs := by
    intro cs
    induction cs with
    | nil => rfl
    | cons c cs induction =>
        rw [List.map_cons, List.mapM_cons, induction]
        rfl
  rw [decode?, read]
  exact (congrArg _ (List.append_nil _)).trans (whole cs)

end OperatorConsole.Text.Utf8
