import OperatorConsole.Terminal.Frame

/-!
# Rows of a frame

Rows are counted in sixteen bits.  The count ends at the height of the terminal,
which is such a number too, so it never runs over, however long the transcript
is.  Every line stands as far below the first one as it does in the transcript.
-/

namespace OperatorConsole.Terminal.Frame

/-! ## Counting rows -/

/-- The number of the row below, unless it takes more than sixteen bits. -/
def below? (row : UInt16) : Option UInt16 :=
  if row.toNat + 1 < UInt16.size then some (row + 1) else none

/-- The first row for the transcript, if it can be counted. -/
def firstRow? (pending : Nat) : Option UInt16 :=
  if 0 < pending then below? 1 else some 1

/-- Lines of the transcript in rows from `row` on, if these can be counted.  The
row below a line is counted even if nothing comes to stand there. -/
def linePieces? (size : Size) (row : UInt16) :
    List ShownLine → Option (List Piece)
  | [] => some []
  | line :: rest =>
      if row < size.rows then do
        let next ← below? row
        let pieces ← linePieces? size next rest
        return linePiece size row.toNat line :: pieces
      else some []

/-- The frame, if its rows can be counted. -/
def draw? (size : Size) (console : Console) (input : InputLine) :
    Option Frame := do
  let row ← firstRow? console.pending
  let shown ← linePieces? size row console.transcript.lines
  return {
    pieces :=
      [⟨0, .green, promptText⟩, ⟨0, .plain, input.text⟩] ++
        pendingPieces console.pending ++ shown
    cursor := (cursorColumn size input).toNat }

theorem below?_of_lt {row rows : UInt16} (above : row < rows) :
    below? row = some (row + 1) := by
  have small := rows.toNat_lt_size
  have before := UInt16.lt_iff_toNat_lt.mp above
  exact if_pos (by omega)

theorem toNat_below {row rows : UInt16} (above : row < rows) :
    (row + 1).toNat = row.toNat + 1 := by
  have small := rows.toNat_lt
  have before := UInt16.lt_iff_toNat_lt.mp above
  rw [UInt16.toNat_add, UInt16.toNat_one]
  exact Nat.mod_eq_of_lt (by omega)

@[simp] theorem firstRow?_eq (pending : Nat) :
    firstRow? pending = some (firstRow pending) := by
  unfold firstRow? firstRow
  split <;> rfl

theorem toNat_firstRow (pending : Nat) :
    (firstRow pending).toNat = if 0 < pending then 2 else 1 := by
  unfold firstRow
  split <;> rfl

section Lines

variable (size : Size)

@[simp] theorem linePieces?_eq (row : UInt16) (lines : List ShownLine) :
    linePieces? size row lines = some (linePieces size row lines) := by
  induction lines generalizing row with
  | nil => rfl
  | cons line rest induction =>
      unfold linePieces? linePieces
      split
      · next above =>
          rw [below?_of_lt above]
          simp [induction]
      · rfl

theorem draw?_eq (console : Console) (input : InputLine) :
    draw? size console input = some (draw size console input) := by
  simp [draw?, draw]

/-! ## Lines in their rows -/

theorem getElem?_linePieces (row : UInt16) (lines : List ShownLine)
    (index : Nat) :
    (linePieces size row lines)[index]? =
      if row.toNat + index < size.rows.toNat then
        lines[index]?.map (linePiece size (row.toNat + index))
      else none := by
  -- The row of the line is the number that the count has reached by then.
  induction lines generalizing row index with
  | nil => simp [linePieces]
  | cons line rest induction =>
      unfold linePieces
      by_cases above : row < size.rows
      · rw [if_pos above]
        have before := UInt16.lt_iff_toNat_lt.mp above
        cases index with
        | zero => simp [before]
        | succ index =>
            have same : row.toNat + 1 + index = row.toNat + (index + 1) := by
              omega
            rw [List.getElem?_cons_succ, induction, toNat_below above, same,
              List.getElem?_cons_succ]
      · rw [if_neg above, if_neg]
        · rfl
        · have beyond := mt UInt16.lt_iff_toNat_lt.mpr above
          omega

theorem length_linePieces (row : UInt16) (lines : List ShownLine) :
    (linePieces size row lines).length =
      min lines.length (size.rows.toNat - row.toNat) := by
  induction lines generalizing row with
  | nil => simp [linePieces]
  | cons line rest induction =>
      unfold linePieces
      split
      · next above =>
          have before := UInt16.lt_iff_toNat_lt.mp above
          rw [List.length_cons, induction, toNat_below above, List.length_cons]
          omega
      · next beyond =>
          have beyond := mt UInt16.lt_iff_toNat_lt.mpr beyond
          rw [List.length_nil]
          omega

theorem row_lt_of_mem {row : UInt16} {lines : List ShownLine} {piece : Piece}
    (member : piece ∈ linePieces size row lines) :
    row.toNat ≤ piece.row ∧ piece.row < size.rows.toNat := by
  obtain ⟨index, found⟩ := List.mem_iff_getElem?.mp member
  rw [getElem?_linePieces] at found
  split at found
  · next before =>
      obtain ⟨line, _, rfl⟩ := Option.map_eq_some_iff.mp found
      exact ⟨Nat.le_add_right _ _, before⟩
  · cases found

/-! ## The cursor -/

theorem toNat_cursorColumn (input : InputLine) :
    (cursorColumn size input).toNat =
      min (promptText.length + input.text.length) (width size - 1) := by
  have small := size.columns.toNat_lt_size
  have fits : min (promptText.length + input.text.length) (width size - 1) <
      UInt16.size := by
    unfold width
    omega
  exact UInt16.toNat_ofNat_of_lt fits

end Lines

/-- Whatever the size of the terminal and however long the transcript is, rows
can be counted, and the frame shows the newest lines below the input and the
note on pending calls, one in each row down to the last one.  The cursor stands
within the width, in a column of sixteen bits. -/
theorem newest_lines_drawn (size : Size) (console : Console)
    (input : InputLine) :
    draw? size console input = some (draw size console input) ∧
      (∃ first shown,
        first = (if 0 < console.pending then 2 else 1) ∧
        (draw size console input).pieces =
          [⟨0, .green, promptText⟩, ⟨0, .plain, input.text⟩] ++
            (if 0 < console.pending then
              [⟨1, .darkGrey, pendingText console.pending⟩]
            else []) ++
            shown ∧
        shown.length =
          min console.transcript.lines.length (size.rows.toNat - first) ∧
        (∀ index : Nat, shown[index]? =
          if first + index < size.rows.toNat then
            console.transcript.lines[index]?.map fun line =>
              ⟨first + index, if line.isError then .red else .plain,
                String.ofList
                  (line.text.toList.take (max size.columns.toNat 1))⟩
          else none) ∧
        ∀ piece ∈ shown, first ≤ piece.row ∧ piece.row < size.rows.toNat) ∧
      (draw size console input).cursor =
        min (promptText.length + input.text.length)
          (max size.columns.toNat 1 - 1) ∧
      (draw size console input).cursor < max size.columns.toNat 1 ∧
      (draw size console input).cursor < UInt16.size := by
  have column : (draw size console input).cursor = _ :=
    toNat_cursorColumn size input
  have small : (draw size console input).cursor < UInt16.size :=
    (cursorColumn size input).toNat_lt_size
  refine ⟨draw?_eq size console input,
    ⟨_, linePieces size (firstRow console.pending) console.transcript.lines,
      rfl, rfl, ?length, ?lines, ?rows⟩, column, ?within, small⟩
  case length => rw [length_linePieces, toNat_firstRow]
  case lines =>
    intro index
    rw [getElem?_linePieces, toNat_firstRow]
    rfl
  case rows =>
    intro piece member
    rw [← toNat_firstRow]
    exact row_lt_of_mem size member
  case within =>
    rw [column, width]
    omega

end OperatorConsole.Terminal.Frame
