import OperatorConsole.Text.Table
import OperatorConsole.Url.DirectionData

/-!
# Directions of writing

A name in which anything is written from right to left keeps every label in one
direction, so that the order of its labels can be told from how it looks.
-/

namespace OperatorConsole.Url

/-- The direction in which a character is written. -/
inductive Direction where
  | leftToRight
  | rightToLeft
  | europeanDigit
  | arabicDigit
  | neutral
  | mark
deriving DecidableEq, Repr

namespace Direction

def rightToLeftRanges : List (Nat × Nat) :=
  Text.Table.ranges rightToLeftTable

def europeanDigitRanges : List (Nat × Nat) :=
  Text.Table.ranges europeanDigitTable

def arabicDigitRanges : List (Nat × Nat) :=
  Text.Table.ranges arabicDigitTable

def neutralRanges : List (Nat × Nat) :=
  Text.Table.ranges neutralTable

def markRanges : List (Nat × Nat) :=
  Text.Table.ranges markTable

def ofChar (c : Char) : Direction :=
  if Text.inRanges rightToLeftRanges c then .rightToLeft
  else if Text.inRanges europeanDigitRanges c then .europeanDigit
  else if Text.inRanges arabicDigitRanges c then .arabicDigit
  else if Text.inRanges neutralRanges c then .neutral
  else if Text.inRanges markRanges c then .mark
  else .leftToRight

/-- What brings text from right to left into a name. -/
def turns : Direction → Bool
  | rightToLeft | arabicDigit => true
  | _ => false

/-- The last direction that no mark has. -/
def last? (label : List Direction) : Option Direction :=
  (label.reverse.dropWhile (· == mark)).head?

/-- A label begins with a letter and is written in its direction throughout; it
ends with a letter or a digit, and its digits are of one kind. -/
def isSteady (label : List Direction) : Bool :=
  match label with
  | [] => true
  | leftToRight :: rest =>
      !rest.any turns &&
        [some leftToRight, some europeanDigit].contains (last? label)
  | rightToLeft :: rest =>
      !rest.contains leftToRight &&
        [some rightToLeft, some europeanDigit, some arabicDigit].contains
          (last? label) &&
        !(rest.contains europeanDigit && rest.contains arabicDigit)
  | _ => false

/-- Labels that can stand in one name. -/
def agree (labels : List (List Direction)) : Bool :=
  !labels.any (·.any turns) || labels.all isSteady

end Direction

end OperatorConsole.Url
