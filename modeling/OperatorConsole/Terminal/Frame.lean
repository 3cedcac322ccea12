import OperatorConsole.Console
import OperatorConsole.Terminal.InputLine

/-!
# Frames

What the terminal shows: the input line on top, a note if calls are pending,
and below it as much of the transcript as there are rows.  Columns and rows are
counted in sixteen bits.
-/

namespace OperatorConsole.Terminal

structure Size where
  columns : UInt16
  rows : UInt16
deriving DecidableEq, Repr

inductive Colour where
  | plain
  | green
  | darkGrey
  | red
deriving DecidableEq, Repr

/-- A piece of text in one row.  Pieces of one row follow each other. -/
structure Piece where
  row : Nat
  colour : Colour
  text : String
deriving DecidableEq, Repr

structure Frame where
  pieces : List Piece
  /-- The column of the cursor, which stands in the first row. -/
  cursor : Nat
deriving DecidableEq, Repr

namespace Frame

/-- A terminal that nothing has been drawn on. -/
def blank : Frame :=
  ⟨[], 0⟩

def promptText : String := "itisadb> "

/-- The columns that text may take. -/
def width (size : Size) : Nat :=
  max size.columns.toNat 1

def pendingText (count : Nat) : String :=
  Nat.repr count ++ " request(s) pending, Esc cancels"

/-- The note on pending calls, in the row below the prompt. -/
def pendingPieces (pending : Nat) : List Piece :=
  if 0 < pending then [⟨1, .darkGrey, pendingText pending⟩] else []

/-- The first row for the transcript. -/
def firstRow (pending : Nat) : UInt16 :=
  if 0 < pending then 1 + 1 else 1

/-- A line of the transcript, cut to the width of the terminal. -/
def linePiece (size : Size) (row : Nat) (line : ShownLine) : Piece :=
  ⟨row, if line.isError then .red else .plain,
    String.ofList (line.text.toList.take (width size))⟩

/-- Lines of the transcript in rows from `row` on, as many as there is room
for. -/
def linePieces (size : Size) (row : UInt16) : List ShownLine → List Piece
  | [] => []
  | line :: rest =>
      if row < size.rows then
        linePiece size row.toNat line :: linePieces size (row + 1) rest
      else []

/-- The column behind the input, or the last one. -/
def cursorColumn (size : Size) (input : InputLine) : UInt16 :=
  .ofNat (min (promptText.length + input.text.length) (width size - 1))

/-- The frame for a console and the line that is being typed. -/
def draw (size : Size) (console : Console) (input : InputLine) : Frame where
  pieces :=
    [⟨0, .green, promptText⟩, ⟨0, .plain, input.text⟩] ++
      pendingPieces console.pending ++
      linePieces size (firstRow console.pending) console.transcript.lines
  cursor := (cursorColumn size input).toNat

/-- The pieces that hold any text. -/
def visible (frame : Frame) : List Piece :=
  frame.pieces.filter (!·.text.isEmpty)

end Frame

end OperatorConsole.Terminal
