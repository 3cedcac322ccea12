import OperatorConsole.Text.Compose
import OperatorConsole.Text.Table
import OperatorConsole.Url.JoiningData

/-!
# Joiners

Two characters that show nothing say how the letters around them join.  They
stand behind a sign that cuts off a vowel, and the one that keeps letters apart
also where the letters on both sides would join otherwise.
-/

namespace OperatorConsole.Url.Joining

def bothSides : List (Nat × Nat) :=
  Text.Table.ranges bothSidesTable

def nextOnly : List (Nat × Nat) :=
  Text.Table.ranges nextOnlyTable

def previousOnly : List (Nat × Nat) :=
  Text.Table.ranges previousOnlyTable

def transparent : List (Nat × Nat) :=
  Text.Table.ranges transparentTable

def joinsNext (c : Char) : Bool :=
  Text.inRanges bothSides c || Text.inRanges nextOnly c

def joinsPrevious (c : Char) : Bool :=
  Text.inRanges bothSides c || Text.inRanges previousOnly c

/-- The first character that is no mark is one that joins. -/
def reaches (joins : Char → Bool) : List Char → Bool
  | [] => false
  | c :: rest =>
      joins c || (Text.inRanges transparent c && reaches joins rest)

def nonJoiner : Char := '\u200c'
def joiner : Char := '\u200d'

/-- The class of marks that cut off a vowel. -/
def viramaClass : Nat := 9

/-- A joiner may stand between what comes before it, last character first, and
what comes after it. -/
def fits (before : List Char) (c : Char) (after : List Char) : Bool :=
  match before with
  | [] => false
  | previous :: _ =>
      Text.markClass previous == viramaClass ||
        (c == nonJoiner && reaches joinsNext before &&
          reaches joinsPrevious after)

/-- All joiners of a text fit where they stand behind `before`. -/
def allFit (before : List Char) : List Char → Bool
  | [] => true
  | c :: rest =>
      (!(c == nonJoiner || c == joiner) || fits before c rest) &&
        allFit (c :: before) rest

end OperatorConsole.Url.Joining
