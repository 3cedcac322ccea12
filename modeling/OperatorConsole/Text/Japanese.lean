import OperatorConsole.Text.CharacterSet
import OperatorConsole.Text.Decoder
import OperatorConsole.Text.JapaneseData

/-!
# Japanese text

Three ways to write the characters of the standard sets: shifted pairs, pairs
of high bytes, and escape sequences that change what the bytes stand for.
-/

namespace OperatorConsole.Text.Japanese

open Decoder

def kanjiSet : CharacterSet :=
  .ofRuns kanjiRuns

def supplementSet : CharacterSet :=
  .ofRuns supplementRuns

/-- The small katakana letter with a number. -/
def katakana (number : Nat) : Char :=
  Char.ofNat (0xff61 + number)

/-! ## Shifted pairs -/

namespace Shifted

/-- The number of a pair in rows of 188. -/
def number? (lead trail : UInt8) : Option Nat :=
  let first := if lead < 0xa0 then 0x81 else 0xc1
  let row := (lead.toNat - first) * 188
  if 0x40 ≤ trail && trail ≤ 0x7e then some (row + (trail.toNat - 0x40))
  else if 0x80 ≤ trail && trail ≤ 0xfc then some (row + (trail.toNat - 0x41))
  else none

/-- Ten rows are left to private characters. -/
def ofNumber? (number : Nat) : Option Char :=
  if 8836 ≤ number && number ≤ 10715 then
    some (Char.ofNat (0xe000 + (number - 8836)))
  else kanjiSet.get? number

def single? (byte : UInt8) : Option Char :=
  if byte ≤ 0x80 then some (ascii byte)
  else if 0xa1 ≤ byte && byte ≤ 0xdf then some (katakana (byte.toNat - 0xa1))
  else none

def isLead (byte : UInt8) : Bool :=
  (0x81 ≤ byte && byte ≤ 0x9f) || (0xe0 ≤ byte && byte ≤ 0xfc)

def decoder : Decoder (Option UInt8) :=
  .ofPairs {
    single? := single?
    isLead := isLead
    pair := fun lead trail =>
      ((number? lead trail).bind ofNumber?).toList }

end Shifted

/-! ## High bytes -/

namespace High

/-- The bytes that wait for those behind them. -/
inductive Pending where
  | nothing
  | lead (byte : UInt8)
  /-- The first byte of a pair of the supplementary set. -/
  | supplement (byte : UInt8)
deriving DecidableEq, Repr

def isHigh (byte : UInt8) : Bool :=
  0xa1 ≤ byte && byte ≤ 0xfe

/-- What a byte stands for at the start of a character. -/
def first (byte : UInt8) : List Char × Pending :=
  if isAscii byte then ([ascii byte], .nothing)
  else if byte = 0x8e ∨ byte = 0x8f ∨ isHigh byte then ([], .lead byte)
  else ([fault], .nothing)

/-- The character with a number in a set, or a fault. -/
def member (set : CharacterSet) (lead trail : UInt8) : List Char :=
  match (squareNumber? lead trail).bind set.get? with
  | some c => [c]
  | none => broken trail

def step : Pending → UInt8 → List Char × Pending
  | .nothing, byte => first byte
  | .lead lead, byte =>
      if lead = 0x8e ∧ isHigh byte ∧ byte ≤ 0xdf then
        ([katakana (byte.toNat - 0xa1)], .nothing)
      else if lead = 0x8f ∧ isHigh byte then ([], .supplement byte)
      else (member kanjiSet lead byte, .nothing)
  | .supplement lead, byte => (member supplementSet lead byte, .nothing)

def decoder : Decoder Pending where
  start := .nothing
  step := step
  finish pending := if pending = .nothing then [] else [fault]

end High

/-! ## Escape sequences -/

namespace Escaped

/-- What the bytes between escape sequences stand for. -/
inductive Script where
  | ascii
  /-- ASCII with a yen sign and an overline. -/
  | roman
  | katakana
  | kanji
deriving DecidableEq, Repr

inductive Pending where
  | nothing
  | lead (byte : UInt8)
  | escape
  /-- An escape sequence up to its last byte. -/
  | sequence (byte : UInt8)
deriving DecidableEq, Repr

structure State where
  script : Script
  pending : Pending
  /-- Nothing has come since an escape sequence. -/
  idle : Bool
deriving DecidableEq, Repr

/-- The state after a character. -/
def between (script : Script) : State :=
  ⟨script, .nothing, false⟩

def isEscape (byte : UInt8) : Bool :=
  byte == 0x1b

/-- ASCII without the bytes that shift and escape. -/
def isPlain (byte : UInt8) : Bool :=
  isAscii byte && byte != 0x0e && byte != 0x0f && byte != 0x1b

/-- The character that a byte stands for alone. -/
def single? (script : Script) (byte : UInt8) : Option Char :=
  match script with
  | .ascii => if isPlain byte then some (Decoder.ascii byte) else none
  | .roman =>
      if byte = 0x5c then some '\u00a5'
      else if byte = 0x7e then some '\u203e'
      else if isPlain byte then some (Decoder.ascii byte)
      else none
  | .katakana =>
      if 0x21 ≤ byte && byte ≤ 0x5f then
        some (Japanese.katakana (byte.toNat - 0x21))
      else none
  | .kanji => none

def isHalf (byte : UInt8) : Bool :=
  0x21 ≤ byte && byte ≤ 0x7e

/-- A byte at the start of a character. -/
def first (state : State) (byte : UInt8) : List Char × State :=
  if isEscape byte then ([], { state with pending := .escape })
  else if state.script = .kanji ∧ isHalf byte then
    ([], { between .kanji with pending := .lead byte })
  else
    ([(single? state.script byte).getD fault], between state.script)

/-- A byte after the first byte of a pair. -/
def second (script : Script) (lead byte : UInt8) : List Char × State :=
  if isEscape byte then
    ([fault], { between script with pending := .escape })
  else if isHalf byte then
    ([((squareNumber? (lead + 0x80) (byte + 0x80)).bind
      kanjiSet.get?).getD fault], between script)
  else ([fault], between script)

/-- The script that an escape sequence turns to. -/
def script? (middle last : UInt8) : Option Script :=
  if middle = 0x28 then
    if last = 0x42 then some .ascii
    else if last = 0x4a then some .roman
    else if last = 0x49 then some .katakana
    else none
  else if last = 0x40 ∨ last = 0x42 then some .kanji
  else none

/-- A byte outside escape sequences. -/
def outside (state : State) (byte : UInt8) : List Char × State :=
  match state.pending with
  | .lead lead => second state.script lead byte
  | _ => first state byte

/-- An escape sequence that breaks off is a fault, and so is one right behind
another.  The bytes after the escape of a broken one are read again. -/
def step (state : State) (byte : UInt8) : List Char × State :=
  match state.pending with
  | .escape =>
      if byte = 0x24 ∨ byte = 0x28 then
        ([], { state with pending := .sequence byte })
      else
        let (cs, next) := first (between state.script) byte
        (fault :: cs, next)
  | .sequence middle =>
      match script? middle byte with
      | some script =>
          (if state.idle then [fault] else [], ⟨script, .nothing, true⟩)
      | none =>
          let (cs, next) := first (between state.script) middle
          let (more, next) := outside next byte
          (fault :: (cs ++ more), next)
  | _ => outside state byte

def finish (state : State) : List Char :=
  match state.pending with
  | .nothing => []
  | .sequence middle =>
      let (cs, next) := first (between state.script) middle
      fault :: (cs ++ if next.pending = .nothing then [] else [fault])
  | _ => [fault]

def decoder : Decoder State :=
  ⟨⟨.ascii, .nothing, false⟩, step, finish⟩

end Escaped

end OperatorConsole.Text.Japanese
