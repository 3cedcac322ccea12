import OperatorConsole.Proofs.Text.Utf8
import OperatorConsole.Text.Percent

/-!
# Reading percent encoding back

A text has many percent encodings: any character may be escaped and percent
signs must be, and hexadecimal digits may be capital or small letters.  All of
them are read back as the text.  Encoding once more, with a set that keeps
percent signs and digits, is the same as encoding once with what both sets keep.
-/

namespace OperatorConsole.Text

/-! ## Encodings of a text -/

def IsCapitalDigit (value : Nat) (c : Char) : Prop :=
  "0123456789ABCDEF".toList[value]? = some c

def IsSmallDigit (value : Nat) (c : Char) : Prop :=
  "0123456789abcdef".toList[value]? = some c

/-- The digit of a value below sixteen, in either case. -/
def IsHexDigit (value : Nat) (c : Char) : Prop :=
  IsCapitalDigit value c ∨ IsSmallDigit value c

/-- Each byte is written as a percent sign and two digits. -/
inductive Escapes (IsDigit : Nat → Char → Prop) :
    List UInt8 → List Char → Prop where
  | nil : Escapes IsDigit [] []
  | byte {byte : UInt8} {bytes : List UInt8} {high low : Char}
      {escape : List Char} :
      IsDigit (byte.toNat / 16) high →
      IsDigit (byte.toNat % 16) low →
      Escapes IsDigit bytes escape →
      Escapes IsDigit (byte :: bytes) ('%' :: high :: low :: escape)

/-- Each character is written as itself, if it may be, or as the escapes of its
bytes. -/
inductive PercentEncodes (MayStand : Char → Prop)
    (IsDigit : Nat → Char → Prop) : List Char → List Char → Prop where
  | nil : PercentEncodes MayStand IsDigit [] []
  | kept {c : Char} {cs encoded : List Char} :
      MayStand c →
      PercentEncodes MayStand IsDigit cs encoded →
      PercentEncodes MayStand IsDigit (c :: cs) (c :: encoded)
  | escaped {c : Char} {cs escape encoded : List Char} :
      Escapes IsDigit (String.utf8EncodeChar c) escape →
      PercentEncodes MayStand IsDigit cs encoded →
      PercentEncodes MayStand IsDigit (c :: cs) (escape ++ encoded)

/-! ## Reading -/

theorem hexValue?_of_isHexDigit {value : Nat} {c : Char}
    (digit : IsHexDigit value c) : hexValue? c = some value := by
  have capitals : ∀ value : Fin "0123456789ABCDEF".toList.length,
      hexValue? "0123456789ABCDEF".toList[value] = some value.val := by decide
  have smalls : ∀ value : Fin "0123456789abcdef".toList.length,
      hexValue? "0123456789abcdef".toList[value] = some value.val := by decide
  rcases digit with capital | small
  · obtain ⟨bound, rfl⟩ := List.getElem?_eq_some_iff.mp capital
    exact capitals ⟨value, bound⟩
  · obtain ⟨bound, rfl⟩ := List.getElem?_eq_some_iff.mp small
    exact smalls ⟨value, bound⟩

theorem percentDecodeBytes_escape {bytes : List UInt8} {escape : List Char}
    (escapes : Escapes IsHexDigit bytes escape) (rest : List Char) :
    percentDecodeBytes (escape ++ rest) = bytes ++ percentDecodeBytes rest := by
  induction escapes with
  | nil => rfl
  | @byte byte bytes high low escape isHigh isLow _ induction =>
      have whole : 16 * (byte.toNat / 16) + byte.toNat % 16 = byte.toNat :=
        Nat.div_add_mod byte.toNat 16
      simp only [List.cons_append, percentDecodeBytes,
        hexValue?_of_isHexDigit isHigh, hexValue?_of_isHexDigit isLow]
      rw [whole, UInt8.ofNat_toNat, induction]

theorem percentDecodeBytes_cons {c : Char} (notPercent : c ≠ '%')
    (rest : List Char) :
    percentDecodeBytes (c :: rest) =
      String.utf8EncodeChar c ++ percentDecodeBytes rest := by
  rw [percentDecodeBytes]
  rintro first second rest rfl
  exact (notPercent rfl).elim

/-- Whatever is escaped, an encoding stands for the bytes of the text. -/
theorem PercentEncodes.percentDecodeBytes {cs encoded : List Char}
    (encodes : PercentEncodes (· ≠ '%') IsHexDigit cs encoded) :
    percentDecodeBytes encoded = Utf8.encode cs := by
  induction encodes with
  | nil => rfl
  | kept notPercent _ induction =>
      rw [percentDecodeBytes_cons notPercent, induction, Utf8.encode,
        Utf8.encode, List.flatMap_cons]
  | escaped escapes _ induction =>
      rw [percentDecodeBytes_escape escapes, induction, Utf8.encode,
        Utf8.encode, List.flatMap_cons]

theorem PercentEncodes.percentDecode {cs encoded : List Char}
    (encodes : PercentEncodes (· ≠ '%') IsHexDigit cs encoded) :
    percentDecode encoded = cs := by
  rw [Text.percentDecode, encodes.percentDecodeBytes, Utf8.decodeLossy_encode]

/-! ## Writing -/

section Weaker

variable {MayStand MayStandToo : Char → Prop}
  {IsDigit IsDigitToo : Nat → Char → Prop}

theorem Escapes.imp (digits : ∀ value c, IsDigit value c → IsDigitToo value c)
    {bytes : List UInt8} {escape : List Char}
    (escapes : Escapes IsDigit bytes escape) :
    Escapes IsDigitToo bytes escape := by
  induction escapes with
  | nil => exact .nil
  | byte isHigh isLow _ induction =>
      exact .byte (digits _ _ isHigh) (digits _ _ isLow) induction

theorem PercentEncodes.imp (characters : ∀ c, MayStand c → MayStandToo c)
    (digits : ∀ value c, IsDigit value c → IsDigitToo value c)
    {cs encoded : List Char}
    (encodes : PercentEncodes MayStand IsDigit cs encoded) :
    PercentEncodes MayStandToo IsDigitToo cs encoded := by
  induction encodes with
  | nil => exact .nil
  | kept mayStand _ induction => exact .kept (characters _ mayStand) induction
  | escaped escapes _ induction => exact .escaped (escapes.imp digits) induction

end Weaker

section Characters

variable {MayStand : Char → Prop} {IsDigit : Nat → Char → Prop}

theorem Escapes.characters {bytes : List UInt8} {escape : List Char}
    (escapes : Escapes IsDigit bytes escape) :
    ∀ c ∈ escape, c = '%' ∨ ∃ value, IsDigit value c := by
  induction escapes with
  | nil => simp
  | byte isHigh isLow _ induction =>
      rw [List.forall_mem_cons, List.forall_mem_cons, List.forall_mem_cons]
      exact ⟨.inl rfl, .inr ⟨_, isHigh⟩, .inr ⟨_, isLow⟩, induction⟩

/-- An encoding has no other characters than those that may stand, percent signs
and digits. -/
theorem PercentEncodes.characters {cs encoded : List Char}
    (encodes : PercentEncodes MayStand IsDigit cs encoded) :
    ∀ c ∈ encoded, MayStand c ∨ c = '%' ∨ ∃ value, IsDigit value c := by
  induction encodes with
  | nil => simp
  | kept mayStand _ induction =>
      exact List.forall_mem_cons.mpr ⟨.inl mayStand, induction⟩
  | escaped escapes _ induction =>
      exact List.forall_mem_append.mpr
        ⟨fun c member => .inr (escapes.characters c member), induction⟩

end Characters

theorem isCapitalDigit_upperHexDigit {value : Nat} (small : value < 16) :
    IsCapitalDigit value (upperHexDigit value) := by
  have all : ∀ digit : Fin 16,
      "0123456789ABCDEF".toList[digit.val]? =
        some (upperHexDigit digit) := by decide
  exact all ⟨value, small⟩

theorem escapes_percentBytes (bytes : List UInt8) :
    Escapes IsCapitalDigit bytes (bytes.flatMap percentByte) := by
  induction bytes with
  | nil => exact .nil
  | cons byte bytes induction =>
      have size : byte.toNat < 256 := byte.toNat_lt
      exact .byte (isCapitalDigit_upperHexDigit (by omega))
        (isCapitalDigit_upperHexDigit (by omega)) induction

theorem percentEncodes_percentEncode (keep : Char → Bool) (cs : List Char) :
    PercentEncodes (keep · = true) IsCapitalDigit cs
      (percentEncode keep cs) := by
  induction cs with
  | nil => exact .nil
  | cons c cs induction =>
      rw [percentEncode, List.flatMap_cons, percentEncodeChar]
      by_cases kept : keep c = true
      · rw [if_pos kept]
        exact .kept kept induction
      · rw [if_neg kept]
        exact .escaped (escapes_percentBytes _) induction

/-- A text is read back from what is written for it, if percent signs are
escaped. -/
theorem percentDecode_percentEncode {keep : Char → Bool}
    (percent : keep '%' = false) (cs : List Char) :
    percentDecode (percentEncode keep cs) = cs := by
  refine ((percentEncodes_percentEncode keep cs).imp ?_ ?_).percentDecode
  · rintro c kept rfl
    rw [percent] at kept
    cases kept
  · exact fun value c => .inl

/-! ## Encoding twice -/

@[simp] theorem percentEncode_append (keep : Char → Bool)
    (front back : List Char) :
    percentEncode keep (front ++ back) =
      percentEncode keep front ++ percentEncode keep back :=
  List.flatMap_append

theorem percentEncode_eq_self {keep : Char → Bool} {cs : List Char}
    (kept : ∀ c ∈ cs, keep c = true) : percentEncode keep cs = cs := by
  induction cs with
  | nil => rfl
  | cons c cs induction =>
      have first : keep c = true := kept c List.mem_cons_self
      have others : percentEncode keep cs = cs :=
        induction fun other member =>
          kept other (List.mem_cons_of_mem c member)
      rw [percentEncode, List.flatMap_cons, percentEncodeChar, if_pos first,
        List.singleton_append, ← percentEncode, others]

/-- The set leaves what percent encoding writes as it is. -/
structure KeepsEncoding (keep : Char → Bool) : Prop where
  percent : keep '%' = true
  digit : ∀ value < 16, keep (upperHexDigit value) = true

namespace KeepsEncoding

variable {outer : Char → Bool}

theorem percentEncode_percentByte (keeps : KeepsEncoding outer)
    (byte : UInt8) :
    percentEncode outer (percentByte byte) = percentByte byte := by
  have size : byte.toNat < 256 := byte.toNat_lt
  refine percentEncode_eq_self fun c member => ?_
  simp only [percentByte, List.mem_cons, List.not_mem_nil, or_false] at member
  rcases member with rfl | rfl | rfl
  · exact keeps.percent
  · exact keeps.digit _ (by omega)
  · exact keeps.digit _ (by omega)

theorem percentEncode_percentBytes (keeps : KeepsEncoding outer)
    (bytes : List UInt8) :
    percentEncode outer (bytes.flatMap percentByte) =
      bytes.flatMap percentByte := by
  induction bytes with
  | nil => rfl
  | cons byte bytes induction =>
      rw [List.flatMap_cons, percentEncode_append,
        keeps.percentEncode_percentByte, induction]

theorem percentEncode_percentEncode (keeps : KeepsEncoding outer)
    (inner : Char → Bool) (cs : List Char) :
    percentEncode outer (percentEncode inner cs) =
      percentEncode (fun c => inner c && outer c) cs := by
  induction cs with
  | nil => rfl
  | cons c cs induction =>
      have unfolded (keep : Char → Bool) : percentEncode keep (c :: cs) =
          percentEncodeChar keep c ++ percentEncode keep cs :=
        List.flatMap_cons
      rw [unfolded, unfolded, percentEncode_append, induction]
      congr 1
      by_cases kept : inner c = true
      · simp [percentEncodeChar, kept, percentEncode]
      · simp [percentEncodeChar, kept, keeps.percentEncode_percentBytes]

end KeepsEncoding

end OperatorConsole.Text
