import OperatorConsole.Text.Utf8

/-!
# Percent encoding

A character that must not stand for itself is written as the bytes of its UTF-8
form, each as `%` and two hexadecimal digits.  Which characters stand for
themselves is a parameter; reading needs no such set.
-/

namespace OperatorConsole.Text

/-- A hexadecimal digit below sixteen, with capital letters. -/
def upperHexDigit (value : Nat) : Char :=
  Char.ofNat (if value < 10 then 0x30 + value else 0x37 + value)

/-- The value of a hexadecimal digit in either case. -/
def hexValue? (c : Char) : Option Nat :=
  if '0' ≤ c ∧ c ≤ '9' then some (c.toNat - 0x30)
  else if 'a' ≤ c ∧ c ≤ 'f' then some (c.toNat - 0x57)
  else if 'A' ≤ c ∧ c ≤ 'F' then some (c.toNat - 0x37)
  else none

def percentByte (byte : UInt8) : List Char :=
  ['%', upperHexDigit (byte.toNat / 16), upperHexDigit (byte.toNat % 16)]

/-- One character, written as it is if `keep` allows. -/
def percentEncodeChar (keep : Char → Bool) (c : Char) : List Char :=
  if keep c then [c] else (String.utf8EncodeChar c).flatMap percentByte

def percentEncode (keep : Char → Bool) (cs : List Char) : List Char :=
  cs.flatMap (percentEncodeChar keep)

/-- The bytes that a text stands for.  A `%` without two digits after it stands
for itself. -/
def percentDecodeBytes : List Char → List UInt8
  | [] => []
  | '%' :: first :: second :: rest =>
      match hexValue? first, hexValue? second with
      | some high, some low =>
          UInt8.ofNat (16 * high + low) :: percentDecodeBytes rest
      | _, _ => 0x25 :: percentDecodeBytes (first :: second :: rest)
  | c :: rest => String.utf8EncodeChar c ++ percentDecodeBytes rest

/-- The text that a percent-encoded text stands for, with U+FFFD for each
fault in its bytes. -/
def percentDecode (cs : List Char) : List Char :=
  Utf8.decodeLossy (percentDecodeBytes cs)

end OperatorConsole.Text
