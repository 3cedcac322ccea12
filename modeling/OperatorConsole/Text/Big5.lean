import OperatorConsole.Text.Big5Data
import OperatorConsole.Text.CharacterSet
import OperatorConsole.Text.Decoder

/-!
# Big5

Chinese text as it is written in Taiwan and Hong Kong, in pairs of bytes.
-/

namespace OperatorConsole.Text.Big5

def big5Set : CharacterSet :=
  .ofRuns big5Runs

/-- The number of a pair in rows of 157. -/
def number? (lead trail : UInt8) : Option Nat :=
  let row := (lead.toNat - 0x81) * 157
  if 0x40 ≤ trail && trail ≤ 0x7e then some (row + (trail.toNat - 0x40))
  else if 0xa1 ≤ trail && trail ≤ 0xfe then some (row + (trail.toNat - 0x62))
  else none

/-- Four pairs stand for a letter and an accent. -/
def ofNumber (number : Nat) : List Char :=
  if number = 1133 then ['\u00ca', '\u0304']
  else if number = 1135 then ['\u00ca', '\u030c']
  else if number = 1164 then ['\u00ea', '\u0304']
  else if number = 1166 then ['\u00ea', '\u030c']
  else (big5Set.get? number).toList

def decoder : Decoder (Option UInt8) :=
  .ofPairs {
    single? := fun byte =>
      if Decoder.isAscii byte then some (Decoder.ascii byte) else none
    isLead := fun byte => 0x81 ≤ byte && byte ≤ 0xfe
    pair := fun lead trail => ((number? lead trail).map ofNumber).getD [] }

end OperatorConsole.Text.Big5
