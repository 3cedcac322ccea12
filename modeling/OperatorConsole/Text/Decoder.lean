/-!
# Decoders

Bytes of a text are read one after the other.  Each of them completes some
characters and may leave something open for the bytes that follow.  What cannot
be read is shown as U+FFFD.
-/

namespace OperatorConsole.Text

/-- A way to read bytes; `σ` is what they leave open. -/
structure Decoder (σ : Type) where
  start : σ
  step : σ → UInt8 → List Char × σ
  /-- The characters for what is still open when the bytes end. -/
  finish : σ → List Char

namespace Decoder

/-- Stands for bytes that cannot be read. -/
def fault : Char := '\ufffd'

def runFrom {σ : Type} (decoder : Decoder σ) : σ → List UInt8 → List Char
  | state, [] => decoder.finish state
  | state, byte :: rest =>
      let (cs, next) := decoder.step state byte
      cs ++ decoder.runFrom next rest

/-- The characters of a text. -/
def run {σ : Type} (decoder : Decoder σ) (bytes : List UInt8) : List Char :=
  decoder.runFrom decoder.start bytes

def isAscii (byte : UInt8) : Bool :=
  byte < 0x80

def ascii (byte : UInt8) : Char :=
  Char.ofNat byte.toNat

/-- The characters for bytes before the last that could not be read together
with it.  An ASCII character is not lost. -/
def broken (last : UInt8) : List Char :=
  if isAscii last then [fault, ascii last] else [fault]

/-- Bytes that stand for characters alone or in pairs. -/
structure Pairs where
  single? : UInt8 → Option Char
  isLead : UInt8 → Bool
  pair : UInt8 → UInt8 → List Char

/-- Whatever stands for a character alone leads no pair. -/
def Pairs.alone (pairs : Pairs) (byte : UInt8) :
    List Char × Option UInt8 :=
  match pairs.single? byte with
  | some c => ([c], none)
  | none => if pairs.isLead byte then ([], some byte) else ([fault], none)

def Pairs.step (pairs : Pairs) (lead : Option UInt8) (byte : UInt8) :
    List Char × Option UInt8 :=
  match lead with
  | none => pairs.alone byte
  | some lead =>
      match pairs.pair lead byte with
      | [] => (broken byte, none)
      | cs => (cs, none)

/-- The decoder leaves the first byte of a pair open. -/
def ofPairs (pairs : Pairs) : Decoder (Option UInt8) where
  start := none
  step := pairs.step
  finish lead := if lead.isSome then [fault] else []

end Decoder

end OperatorConsole.Text
