import OperatorConsole.Text.Compose
import OperatorConsole.Text.Percent
import OperatorConsole.Url.Direction
import OperatorConsole.Url.DomainData
import OperatorConsole.Url.Joining
import OperatorConsole.Url.Punycode

/-!
# Domain names

A domain name is compared and sent in ASCII.  Its characters are mapped to
those that stand for them, letters to small ones, the result is composed, and a
label that still holds other characters is written in Punycode behind `xn--`.
A label keeps to one direction of writing where a name holds several.
-/

namespace OperatorConsole.Url.Domain

/-- A run of characters that are replaced by one character each. -/
structure Run where
  first : Nat
  more : Nat
  step : Nat
  image : Nat
deriving DecidableEq, Repr

def runs : List Nat → List Run
  | first :: more :: step :: image :: rest =>
      ⟨first, more, step, image⟩ :: runs rest
  | _ => []

/-- Entries of a code point and as many others as the number after it says. -/
def expansions (fuel : Nat) (numbers : List Nat) : List (Nat × List Nat) :=
  match fuel, numbers with
  | fuel + 1, codePoint :: count :: rest =>
      (codePoint, rest.take count) :: expansions fuel (rest.drop count)
  | _, _ => []

def replaced : List Run :=
  runs (Text.Table.numbers replacedTable)

def expanded : List (Nat × List Nat) :=
  let numbers := Text.Table.numbers expandedTable
  expansions numbers.length numbers

def valid : List (Nat × Nat) :=
  Text.Table.ranges validTable

def ignored : List (Nat × Nat) :=
  Text.Table.ranges ignoredTable

def Run.covers (run : Run) (codePoint : Nat) : Bool :=
  run.first ≤ codePoint && codePoint ≤ run.first + run.more &&
    (codePoint - run.first) % run.step == 0

/-- The characters that stand for a character, if it may occur at all. -/
def map? (c : Char) : Option (List Char) :=
  if c.toNat < 0x80 then some [c.toLower]
  else if Text.inRanges valid c then some [c]
  else if Text.inRanges ignored c then some []
  else
    match replaced.find? (·.covers c.toNat) with
    | some run => some [Char.ofNat (run.image + (c.toNat - run.first))]
    | none =>
        (expanded.find? fun entry => entry.1 == c.toNat).map
          fun entry => entry.2.map Char.ofNat

/-- Controls and the marks that delimit the parts of a URL never stand in a
domain name. -/
def isForbidden (c : Char) : Bool :=
  c.toNat ≤ 0x20 || c.toNat == 0x7f ||
    ['%', '#', '/', ':', '<', '>', '?', '@', '[', '\\', ']', '^',
      '|'].contains c

/-- The most characters of a label outside ASCII. -/
def longestLabel : Nat := 1000

/-- The most characters of a label in Punycode, without the mark before them. -/
def longestEncoded : Nat := 2000

/-- What a label outside ASCII has to meet. -/
def isValidLabel (label : List Char) : Bool :=
  label.all (fun c => !isForbidden c && Text.inRanges valid c) &&
    !(label.head?.map Text.isMark).getD false &&
    Text.compose label == label && Joining.allFit [] label &&
    label.length ≤ longestLabel

/-- What a label of a mapped name stands for. -/
def label? (label : List Char) : Option (List Char) :=
  match label with
  | 'x' :: 'n' :: '-' :: '-' :: encoded =>
      if longestEncoded < encoded.length then none
      else
        (Punycode.decode? encoded).filter fun decoded =>
          isValidLabel decoded && !decoded.all Punycode.isBasic &&
            Punycode.encode decoded == encoded
  | _ =>
      if label.all Punycode.isBasic then
        if label.all (!isForbidden ·) then some label else none
      else if isValidLabel label then some label
      else none

/-- The ASCII form of what a label stands for. -/
def written (label : List Char) : List Char :=
  if label.all Punycode.isBasic then label
  else "xn--".toList ++ Punycode.encode label

/-- The composed form of a mapped name.  One in ASCII has nothing to compose. -/
def composed (mapped : List Char) : List Char :=
  if mapped.all Punycode.isBasic then mapped else Text.compose mapped

/-- The ASCII form of a name. -/
def ascii? (name : List Char) : Option (List Char) := do
  let mapped := composed (← name.mapM map?).flatten
  let labels ← (mapped.splitOn '.').mapM label?
  if Direction.agree (labels.map (·.map Direction.ofChar)) then
    some (List.intercalate ['.'] (labels.map written))
  else none

/-- The ASCII form of a name some of whose bytes may be percent-encoded. -/
def ofText? (cs : List Char) : Option (List Char) :=
  (Text.Utf8.decode? (Text.percentDecodeBytes cs)).bind ascii?

end OperatorConsole.Url.Domain
