import OperatorConsole.Text.CharacterSet
import OperatorConsole.Text.ChineseData
import OperatorConsole.Text.Decoder
import OperatorConsole.Text.Table

/-!
# Chinese text

Text as it is written in China.  A pair of bytes stands for a character of the
standard set, an ideograph that the set leaves out, or a private character;
four bytes stand for any other character.
-/

namespace OperatorConsole.Text.Chinese

open Decoder

def chineseSet : CharacterSet :=
  .ofRuns chineseRuns

/-- The ideographs that are not in the standard set, and what follows them. -/
def rareIdeographs : CharacterSet :=
  .ofList
    (chineseSet.leftOut 0x4e00 20902 ++ CharacterSet.characters chineseTail)

def signSet : CharacterSet :=
  .ofList (CharacterSet.characters chineseSigns)

/-! ## Pairs -/

/-- The place of a second byte in the left part of a row. -/
def leftPlace? (trail : UInt8) : Option Nat :=
  if 0x40 ≤ trail && trail ≤ 0x7e then some (trail.toNat - 0x40)
  else if 0x80 ≤ trail && trail ≤ 0xa0 then some (trail.toNat - 0x41)
  else none

/-- A character of the right part of a row, which has 94 places. -/
def right? (lead trail : UInt8) : Option Char :=
  let row := lead.toNat
  let place := trail.toNat - 0xa1
  if 0xaa ≤ row && row ≤ 0xaf then
    some (Char.ofNat (0xe000 + (row - 0xaa) * 94 + place))
  else if 0xf8 ≤ row then
    some (Char.ofNat (0xe234 + (row - 0xf8) * 94 + place))
  else chineseSet.get? ((row - 0xa1) * 94 + place)

/-- A character of the left part of a row, which has 96 places. -/
def left? (lead : UInt8) (place : Nat) : Option Char :=
  let row := lead.toNat
  if row = 0xa3 ∧ place = 95 then some '\u3000'
  else if row ≤ 0xa7 then
    some (Char.ofNat (0xe4c6 + (row - 0xa1) * 96 + place))
  else if row ≤ 0xa9 then signSet.get? ((row - 0xa8) * 96 + place)
  else rareIdeographs.get? (32 * 190 + (row - 0xaa) * 96 + place)

/-- The character of a pair.  The first 32 rows hold 190 rare ideographs
each. -/
def pair? (lead trail : UInt8) : Option Char :=
  match leftPlace? trail with
  | some place =>
      if lead ≤ 0xa0 then
        rareIdeographs.get? ((lead.toNat - 0x81) * 190 + place)
      else left? lead place
  | none =>
      if 0xa1 ≤ trail && trail ≤ 0xfe then
        if lead ≤ 0xa0 then
          rareIdeographs.get?
            ((lead.toNat - 0x81) * 190 + 96 + (trail.toNat - 0xa1))
        else right? lead trail
      else none

/-! ## Four bytes -/

/-- The code points of ranges, each with the first and the number of others. -/
def codePoint? : List Nat → Nat → Option Nat
  | first :: more :: rest, number =>
      if number ≤ more then some (first + number)
      else codePoint? rest (number - (more + 1))
  | _, _ => none

def rangeNumbers : List Nat :=
  Table.numbers chineseRanges

def ofNumber? (number : Nat) : Option Char :=
  if number < 39420 then (codePoint? rangeNumbers number).map Char.ofNat
  else if 189000 ≤ number && number ≤ 1237575 then
    some (Char.ofNat (0x10000 + (number - 189000)))
  else none

def four? (first second third fourth : UInt8) : Option Char :=
  ofNumber?
    ((((first.toNat - 0x81) * 10 + (second.toNat - 0x30)) * 126 +
      (third.toNat - 0x81)) * 10 + (fourth.toNat - 0x30))

/-! ## Bytes -/

inductive Pending where
  | nothing
  | one (first : UInt8)
  | two (first second : UInt8)
  | three (first second third : UInt8)
deriving DecidableEq, Repr

def isHigh (byte : UInt8) : Bool :=
  0x81 ≤ byte && byte ≤ 0xfe

def isDigit (byte : UInt8) : Bool :=
  0x30 ≤ byte && byte ≤ 0x39

/-- A byte at the start of a character. -/
def start (byte : UInt8) : List Char × Pending :=
  if isAscii byte then ([ascii byte], .nothing)
  else if byte = 0x80 then (['\u20ac'], .nothing)
  else if isHigh byte then ([], .one byte)
  else ([fault], .nothing)

/-- A byte after the first. -/
def second (first byte : UInt8) : List Char × Pending :=
  if isDigit byte then ([], .two first byte)
  else
    match pair? first byte with
    | some c => ([c], .nothing)
    | none => (broken byte, .nothing)

/-- Where four bytes break off, those after the first are read again. -/
def step : Pending → UInt8 → List Char × Pending
  | .nothing, byte => start byte
  | .one first, byte => second first byte
  | .two first digit, byte =>
      if isHigh byte then ([], .three first digit byte)
      else
        let (cs, next) := start byte
        (fault :: ascii digit :: cs, next)
  | .three first digit third, byte =>
      if isDigit byte then
        ([(four? first digit third byte).getD fault], .nothing)
      else
        let (cs, next) := second third byte
        (fault :: ascii digit :: cs, next)

def decoder : Decoder Pending where
  start := .nothing
  step := step
  finish pending := if pending = .nothing then [] else [fault]

end OperatorConsole.Text.Chinese
