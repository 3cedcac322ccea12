/-!
# UTF-8

Encoding is core's; decoding reads any bytes at all.  A maximal run of bytes
that starts a character but cannot go on counts as one fault, so decoding says
for each piece whether it is a character or a fault.
-/

namespace OperatorConsole.Text.Utf8

def encode (cs : List Char) : List UInt8 :=
  cs.flatMap String.utf8EncodeChar

/-- A character of which some bytes have been read: its value so far, how many
bytes are still to come, and the bounds of the next one. -/
structure Partial where
  value : Nat
  remaining : Nat
  low : Nat
  high : Nat
deriving DecidableEq, Repr

/-- What a first byte begins. -/
inductive Lead where
  | character (c : Char)
  | opening (part : Partial)
  | fault
deriving DecidableEq, Repr

/-- Overlong forms, surrogates and values above U+10FFFF are kept out by the
bounds of the second byte. -/
def Lead.ofByte (byte : UInt8) : Lead :=
  let n := byte.toNat
  if n < 0x80 then .character (Char.ofNat n)
  else if n < 0xc2 then .fault
  else if n < 0xe0 then .opening ⟨n - 0xc0, 1, 0x80, 0xbf⟩
  else if n = 0xe0 then .opening ⟨0, 2, 0xa0, 0xbf⟩
  else if n = 0xed then .opening ⟨0xd, 2, 0x80, 0x9f⟩
  else if n < 0xf0 then .opening ⟨n - 0xe0, 2, 0x80, 0xbf⟩
  else if n = 0xf0 then .opening ⟨0, 3, 0x90, 0xbf⟩
  else if n < 0xf4 then .opening ⟨n - 0xf0, 3, 0x80, 0xbf⟩
  else if n = 0xf4 then .opening ⟨4, 3, 0x80, 0x8f⟩
  else .fault

/-- What is known after a first byte: the pieces it completes and the character
it leaves open. -/
def Lead.pieces : Lead → List (Option Char) × Option Partial
  | .character c => ([some c], none)
  | .opening part => ([], some part)
  | .fault => ([none], none)

/-- Read one byte.  A byte that cannot go on an open character closes it as a
fault and begins anew. -/
def step (state : Option Partial) (byte : UInt8) :
    List (Option Char) × Option Partial :=
  match state with
  | none => (Lead.ofByte byte).pieces
  | some part =>
      if part.low ≤ byte.toNat && byte.toNat ≤ part.high then
        let value := part.value * 64 + (byte.toNat - 0x80)
        if part.remaining = 1 then ([some (Char.ofNat value)], none)
        else ([], some ⟨value, part.remaining - 1, 0x80, 0xbf⟩)
      else
        let next := (Lead.ofByte byte).pieces
        (none :: next.1, next.2)

/-- The pieces of the bytes that follow `state`, with `none` for each fault. -/
def piecesFrom : Option Partial → List UInt8 → List (Option Char)
  | none, [] => []
  | some _, [] => [none]
  | state, byte :: rest =>
      let next := step state byte
      next.1 ++ piecesFrom next.2 rest

/-- The characters of a byte sequence, with `none` for each fault. -/
def pieces (bytes : List UInt8) : List (Option Char) :=
  piecesFrom none bytes

/-- The characters of a byte sequence, with U+FFFD for each fault. -/
def decodeLossy (bytes : List UInt8) : List Char :=
  (pieces bytes).map (·.getD '\ufffd')

/-- The characters of a byte sequence without faults. -/
def decode? (bytes : List UInt8) : Option (List Char) :=
  (pieces bytes).mapM id

end OperatorConsole.Text.Utf8
