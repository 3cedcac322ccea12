import OperatorConsole.Proofs.Text.Percent
import OperatorConsole.Remote.Action

/-!
# Encodings of a line

Every percent encoding of a line is read back as the line.  The encoding of an
action is the one that keeps letters, digits and nine marks and has capital
digits.
-/

namespace OperatorConsole.Remote

/-- An ASCII letter or digit, or one of nine marks. -/
def IsPlain (c : Char) : Prop :=
  ('A' ≤ c ∧ c ≤ 'Z') ∨ ('a' ≤ c ∧ c ≤ 'z') ∨ ('0' ≤ c ∧ c ≤ '9') ∨
    c ∈ "-_.!~*'()".toList

instance : DecidablePred IsPlain := fun _ => instDecidableOr

theorem isPlain_of_isActionChar {c : Char} (kept : isActionChar c = true) :
    IsPlain c := by
  unfold isActionChar Char.isAlphanum Char.isAlpha Char.isUpper Char.isLower
    Char.isDigit at kept
  simp only [Bool.or_eq_true, Bool.and_eq_true, decide_eq_true_eq,
    List.contains_iff_mem] at kept
  rcases kept with ((upper | lower) | digit) | mark
  · exact .inl upper
  · exact .inr (.inl lower)
  · exact .inr (.inr (.inl digit))
  · exact .inr (.inr (.inr mark))

theorem isPlain_of_isCapitalDigit {value : Nat} {c : Char}
    (digit : Text.IsCapitalDigit value c) : IsPlain c := by
  have all : ("0123456789ABCDEF".toList.all fun c => decide (IsPlain c)) =
      true := by decide
  exact of_decide_eq_true
    (List.all_eq_true.mp all c (List.mem_of_getElem? digit))

theorem percentEncodes_encodeAction (line : String) :
    Text.PercentEncodes IsPlain Text.IsCapitalDigit line.toList
      (encodeAction line).toList := by
  rw [encodeAction, String.toList_ofList]
  exact (Text.percentEncodes_percentEncode isActionChar line.toList).imp
    (fun _ => isPlain_of_isActionChar) fun _ _ => id

theorem percentEncodes_of_plain {cs encoded : List Char}
    (encodes : Text.PercentEncodes IsPlain Text.IsCapitalDigit cs encoded) :
    Text.PercentEncodes (· ≠ '%') Text.IsHexDigit cs encoded := by
  refine encodes.imp ?_ fun _ _ => .inl
  rintro c plain rfl
  exact absurd plain (by decide)

theorem decodeAction_of_encodes {line encoded : String}
    (encodes : Text.PercentEncodes (· ≠ '%') Text.IsHexDigit line.toList
      encoded.toList) :
    decodeAction encoded = line := by
  rw [decodeAction, encodes.percentDecode, String.ofList_toList]

theorem decodeAction_encodeAction (line : String) :
    decodeAction (encodeAction line) = line :=
  decodeAction_of_encodes
    (percentEncodes_of_plain (percentEncodes_encodeAction line))

theorem plain_or_percent_of_mem_encodeAction {line : String} {c : Char}
    (member : c ∈ (encodeAction line).toList) : IsPlain c ∨ c = '%' := by
  rcases (percentEncodes_encodeAction line).characters c member with
    plain | percent | ⟨value, digit⟩
  · exact .inl plain
  · exact .inr percent
  · exact .inl (isPlain_of_isCapitalDigit digit)

/-- Every encoding of a line is read back as the line, and actions are encoded
in plain characters and escapes with capital digits. -/
theorem encodings_read_back :
    (∀ line encoded : String,
      Text.PercentEncodes (· ≠ '%') Text.IsHexDigit line.toList
          encoded.toList →
        decodeAction encoded = line) ∧
      (∀ line : String,
        Text.PercentEncodes (· ≠ '%') Text.IsHexDigit line.toList
            (encodeAction line).toList ∧
          Text.PercentEncodes IsPlain Text.IsCapitalDigit line.toList
            (encodeAction line).toList ∧
          (∀ c ∈ (encodeAction line).toList, IsPlain c ∨ c = '%') ∧
          ∀ c ∈ " &=+#?".toList, c ∉ (encodeAction line).toList) ∧
      Function.Injective encodeAction := by
  refine ⟨fun line encoded => decodeAction_of_encodes, ?_,
    Function.LeftInverse.injective decodeAction_encodeAction⟩
  intro line
  have encodes := percentEncodes_encodeAction line
  refine ⟨percentEncodes_of_plain encodes, encodes,
    fun c => plain_or_percent_of_mem_encodeAction, ?_⟩
  intro c special member
  have noneMayStand : (" &=+#?".toList.any fun c =>
      decide (IsPlain c ∨ c = '%')) = false := by decide
  exact List.any_eq_false.mp noneMayStand c special
    (decide_eq_true (plain_or_percent_of_mem_encodeAction member))

/-- A percent sign with digits behind it, and escapes in both cases. -/
theorem mixed_escapes_read_back :
    decodeAction "%61%2541 %c3%A9" = "a%41 é" := by
  have letter : Text.Escapes Text.IsHexDigit (String.utf8EncodeChar 'a')
      "%61".toList := .byte (.inl rfl) (.inl rfl) .nil
  have percent : Text.Escapes Text.IsHexDigit (String.utf8EncodeChar '%')
      "%25".toList := .byte (.inl rfl) (.inl rfl) .nil
  have accented : Text.Escapes Text.IsHexDigit (String.utf8EncodeChar 'é')
      "%c3%A9".toList :=
    .byte (.inr rfl) (.inl rfl) (.byte (.inl rfl) (.inl rfl) .nil)
  have encodes : Text.PercentEncodes (· ≠ '%') Text.IsHexDigit
      "a%41 é".toList "%61%2541 %c3%A9".toList :=
    .escaped letter (.escaped percent (.kept (by decide)
      (.kept (by decide) (.kept (by decide) (.escaped accented .nil)))))
  exact encodings_read_back.1 _ _ encodes

end OperatorConsole.Remote
