import OperatorConsole.Url.Ipv4

/-!
# IPv6 addresses

Eight pieces of sixteen bits.  One run of zero pieces may be left out as `::`,
and the last two pieces may be written as an IPv4 address.
-/

namespace OperatorConsole.Url.Ipv6

/-- The eight pieces of an address. -/
structure Address where
  pieces : List Nat
deriving DecidableEq, Repr

/-- What has been read of an address: the pieces, last one first, and how many
of them stand before the `::`. -/
structure Progress where
  pieces : List Nat
  gap : Option Nat
deriving DecidableEq, Repr

def hexadecimal (digits : List Char) : Nat :=
  digits.foldl (fun value c => value * 16 + (Text.hexValue? c).getD 0) 0

def isHexDigit (c : Char) : Bool :=
  (Text.hexValue? c).isSome

/-- The hexadecimal digits, four at most, at the front of a text. -/
def hexRun (cs : List Char) : List Char :=
  (cs.take 4).takeWhile isHexDigit

/-- The two pieces that an IPv4 address at the end makes. -/
def ipv4Pieces? (cs : List Char) : Option (List Nat) :=
  match (cs.splitOn '.').mapM Ipv4.octet? with
  | some [a, b, c, d] => some [a * 256 + b, c * 256 + d]
  | _ => none

/-- Read pieces up to the end of the text.  Each takes a character at least. -/
def readFrom : Nat → Progress → List Char → Option Progress
  | _, progress, [] => some progress
  | 0, _, _ => none
  | fuel + 1, progress, c :: rest =>
      if progress.pieces.length = 8 then none
      else if c = ':' then
        if progress.gap.isSome then none
        else
          readFrom fuel
            ⟨0 :: progress.pieces, some (progress.pieces.length + 1)⟩ rest
      else
        let digits := hexRun (c :: rest)
        let after := (c :: rest).drop digits.length
        let grown := { progress with
          pieces := hexadecimal digits :: progress.pieces }
        match after with
        | [] => some grown
        | '.' :: _ =>
            if digits.isEmpty || 6 < progress.pieces.length then none
            else
              (ipv4Pieces? (c :: rest)).map fun pieces =>
                { progress with pieces := pieces.reverse ++ progress.pieces }
        | ':' :: rest =>
            if rest.isEmpty then none else readFrom fuel grown rest
        | _ => none

/-- Put the missing zero pieces where the `::` stands.  The `::` itself has
been counted as one piece. -/
def Progress.address? (progress : Progress) : Option Address :=
  let pieces := progress.pieces.reverse
  match progress.gap with
  | none => if pieces.length = 8 then some ⟨pieces⟩ else none
  | some before =>
      some ⟨pieces.take before ++
        List.replicate (8 - pieces.length) 0 ++ pieces.drop before⟩

/-- Read an address. -/
def ofText? (cs : List Char) : Option Address :=
  match cs with
  | ':' :: ':' :: rest =>
      (readFrom (rest.length + 1) ⟨[0], some 1⟩ rest).bind (·.address?)
  | ':' :: _ | [] | [_] => none
  | cs => (readFrom (cs.length + 1) ⟨[], none⟩ cs).bind (·.address?)

/-- The length of the run of zeros at the front of a list. -/
def zeroRun (pieces : List Nat) : Nat :=
  (pieces.takeWhile (· == 0)).length

/-- Where the longest run of zeros starts, and its length; the first one of
several. -/
def longestRun (pieces : List Nat) : Nat × Nat :=
  (List.range pieces.length).foldl
    (fun best start =>
      let length := zeroRun (pieces.drop start)
      if best.2 < length then (start, length) else best)
    (0, 0)

def piecesText (pieces : List Nat) : String :=
  String.intercalate ":" (pieces.map fun piece =>
    String.ofList (Nat.toDigits 16 piece))

/-- The address with its longest run of two or more zeros left out. -/
def Address.text (address : Address) : String :=
  let (start, length) := longestRun address.pieces
  if length < 2 then piecesText address.pieces
  else
    piecesText (address.pieces.take start) ++ "::" ++
      piecesText (address.pieces.drop (start + length))

end OperatorConsole.Url.Ipv6
