import OperatorConsole.Proofs.Text.Utf8

/-!
# The order of texts

Texts are compared character by character.  Their UTF-8 bytes compare the same
way, since a greater character never begins with smaller bytes, however many
there are.
-/

namespace OperatorConsole.Text

namespace Utf8

theorem cons_ofNat_lt {m n : Nat} (left : m < 256) (right : n < 256)
    (xs ys : List UInt8) :
    UInt8.ofNat m :: xs < UInt8.ofNat n :: ys ↔ m < n ∨ m = n ∧ xs < ys := by
  rw [List.cons_lt_cons_iff, UInt8.lt_iff_toNat_lt, ← UInt8.toNat_inj,
    toNat_ofNat left, toNat_ofNat right]

theorem encodeChar_append_lt {c d : Char} (less : c < d)
    (xs ys : List UInt8) :
    String.utf8EncodeChar c ++ xs < String.utf8EncodeChar d ++ ys := by
  have less : c.toNat < d.toNat := less
  have left := toNat_bounds c
  have right := toNat_bounds d
  have leftValue : c.val.toNat = c.toNat := rfl
  have rightValue : d.val.toNat = d.toNat := rfl
  -- The bytes hold six bits each, so the divisions nest.
  have twice (n : Nat) : n / 4096 = n / 64 / 64 := by omega
  have thrice (n : Nat) : n / 262144 = n / 64 / 64 / 64 := by omega
  simp only [String.utf8EncodeChar, leftValue, rightValue, twice, thrice]
  -- One case for each pair of lengths.
  repeat' split
  all_goals
    simp only [List.cons_append, List.nil_append]
    simp (disch := omega) only [cons_ofNat_lt]
    omega

theorem encode_cons (c : Char) (cs : List Char) :
    encode (c :: cs) = String.utf8EncodeChar c ++ encode cs := by
  simp [encode]

theorem encode_injective {cs ds : List Char} (same : encode cs = encode ds) :
    cs = ds := by
  have read := congrArg decodeLossy same
  rwa [decodeLossy_encode, decodeLossy_encode] at read

theorem encode_lt_of_lt {cs ds : List Char} (less : cs < ds) :
    encode cs < encode ds := by
  induction cs generalizing ds with
  | nil =>
      cases ds with
      | nil => exact absurd less (List.lt_irrefl [])
      | cons d ds =>
          rw [encode_cons]
          cases bytes : String.utf8EncodeChar d with
          | nil => exact absurd bytes String.utf8EncodeChar_ne_nil
          | cons byte bytes => exact List.nil_lt_cons ..
  | cons c cs induction =>
      cases ds with
      | nil => exact absurd less (List.not_lt_nil _)
      | cons d ds =>
          rw [encode_cons, encode_cons]
          rcases List.cons_lt_cons_iff.mp less with first | ⟨same, later⟩
          · exact encodeChar_append_lt first _ _
          · rw [same]
            exact List.append_left_lt (induction later)

theorem encode_lt_iff {cs ds : List Char} :
    encode cs < encode ds ↔ cs < ds := by
  refine ⟨?_, encode_lt_of_lt⟩
  intro less
  by_cases below : cs < ds
  · exact below
  · rcases List.le_iff_lt_or_eq.mp (List.not_lt.mp below) with above | same
    · exact absurd (encode_lt_of_lt above) (List.lt_asymm less)
    · rw [same] at less
      exact absurd less (List.lt_irrefl _)

end Utf8

/-- The bytes of a text. -/
def bytesOf (text : String) : List UInt8 :=
  Utf8.encode text.toList

theorem bytesOf_inj {left right : String} :
    bytesOf left = bytesOf right ↔ left = right := by
  constructor
  · intro same
    exact String.toList_injective (Utf8.encode_injective same)
  · exact congrArg bytesOf

theorem compare_eq_lt_iff {left right : String} :
    compare left right = .lt ↔ bytesOf left < bytesOf right :=
  compareOfLessAndEq_eq_lt.trans Utf8.encode_lt_iff.symm

end OperatorConsole.Text
