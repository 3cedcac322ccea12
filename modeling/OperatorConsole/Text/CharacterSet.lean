/-!
# Character sets

Characters by number, as the standards of some languages list them.  A set is
written as runs of neighbours with their first numbers, in the order of the
numbers.
-/

namespace OperatorConsole.Text

/-- Characters by number; a number may have none. -/
structure CharacterSet where
  cells : Array (Option Char)

namespace CharacterSet

def get? (set : CharacterSet) (number : Nat) : Option Char :=
  (set.cells[number]?).join

/-- The characters of a written run, without its line breaks. -/
def characters (text : String) : List Char :=
  text.toList.filter (· != '\n')

/-- The cells from a number on that runs fill. -/
def cellsFrom (number : Nat) : List (Nat × String) → List (Option Char)
  | [] => []
  | (first, text) :: runs =>
      let run := characters text
      List.replicate (first - number) none ++
        (run.map some ++ cellsFrom (first + run.length) runs)

def ofRuns (runs : List (Nat × String)) : CharacterSet :=
  ⟨(cellsFrom 0 runs).toArray⟩

def ofList (cs : List Char) : CharacterSet :=
  ⟨(cs.map some).toArray⟩

/-- Which of the `count` code points from `first` on are in a set. -/
def covers (set : CharacterSet) (first count : Nat) : Array Bool :=
  set.cells.foldl
    (fun seen cell =>
      match cell with
      | none => seen
      | some c =>
          if first ≤ c.toNat then seen.setIfInBounds (c.toNat - first) true
          else seen)
    (Array.replicate count false)

/-- Those of the `count` code points from `first` on that a set leaves out. -/
def leftOut (set : CharacterSet) (first count : Nat) : List Char :=
  let covered := set.covers first count
  (List.range count).filterMap fun offset =>
    if covered.getD offset true then none
    else some (Char.ofNat (first + offset))

end CharacterSet

/-- The number of a pair of bytes in rows of 94. -/
def squareNumber? (lead trail : UInt8) : Option Nat :=
  if 0xa1 ≤ lead && lead ≤ 0xfe && 0xa1 ≤ trail && trail ≤ 0xfe then
    some ((lead.toNat - 0xa1) * 94 + (trail.toNat - 0xa1))
  else none

end OperatorConsole.Text
