import OperatorConsole.Text.CharacterSet
import OperatorConsole.Text.Decoder
import OperatorConsole.Text.KoreanData

/-!
# Korean text

Pairs of high bytes stand for the characters of a standard set.  Syllables that
the set leaves out have the other pairs, in the order of their code points.
-/

namespace OperatorConsole.Text.Korean

def koreanSet : CharacterSet :=
  .ofRuns koreanRuns

/-- The syllables that are not in the standard set. -/
def rareSyllables : CharacterSet :=
  .ofList (koreanSet.leftOut 0xac00 11172)

/-- The place of a second byte among those that may stand in a pair of a rare
syllable. -/
def place? (trail : UInt8) : Option Nat :=
  if 0x41 ≤ trail && trail ≤ 0x5a then some (trail.toNat - 0x41)
  else if 0x61 ≤ trail && trail ≤ 0x7a then some (trail.toNat - 0x61 + 26)
  else if 0x81 ≤ trail && trail ≤ 0xfe then some (trail.toNat - 0x81 + 52)
  else none

/-- The number of a rare syllable.  The first 32 rows have 178 places each, the
others end before the standard set and have 84. -/
def rareNumber? (lead trail : UInt8) : Option Nat :=
  (place? trail).bind fun place =>
    if lead ≤ 0xa0 then some ((lead.toNat - 0x81) * 178 + place)
    else if place < 84 then
      some (32 * 178 + (lead.toNat - 0xa1) * 84 + place)
    else none

def pair? (lead trail : UInt8) : Option Char :=
  match squareNumber? lead trail with
  | some number => koreanSet.get? number
  | none => (rareNumber? lead trail).bind rareSyllables.get?

def decoder : Decoder (Option UInt8) :=
  .ofPairs {
    single? := fun byte =>
      if Decoder.isAscii byte then some (Decoder.ascii byte) else none
    isLead := fun byte => 0x81 ≤ byte && byte ≤ 0xfe
    pair := fun lead trail => (pair? lead trail).toList }

end OperatorConsole.Text.Korean
