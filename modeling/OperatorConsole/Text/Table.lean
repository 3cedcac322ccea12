import OperatorConsole.Text.CodePoints

/-!
# Written tables

Large tables of code points are written as numbers in base 36 with blanks
between them.  Ranges are written as the distance from the range before and the
number of code points that follow the first.
-/

namespace OperatorConsole.Text.Table

def digit (c : Char) : Nat :=
  if c.isDigit then c.toNat - 0x30 else c.toNat - 0x57

/-- The numbers of a table. -/
def numbers (table : String) : List Nat :=
  let state := table.toList.foldr
    (fun c (state : Option (Nat × Nat) × List Nat) =>
      if c = ' ' || c = '\n' then
        match state.1 with
        | none => state
        | some (value, _) => (none, value :: state.2)
      else
        let (value, weight) := state.1.getD (0, 1)
        (some (value + digit c * weight, weight * 36), state.2))
    (none, [])
  match state.1 with
  | none => state.2
  | some (value, _) => value :: state.2

/-- The ranges that begin at `start` or later. -/
def rangesFrom (start : Nat) : List Nat → List (Nat × Nat)
  | gap :: more :: rest =>
      (start + gap, start + gap + more) ::
        rangesFrom (start + gap + more + 1) rest
  | _ => []

def ranges (table : String) : List (Nat × Nat) :=
  rangesFrom 0 (numbers table)

end OperatorConsole.Text.Table
