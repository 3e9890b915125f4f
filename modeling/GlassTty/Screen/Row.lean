import GlassTty.Screen.Cell

/-!
# Rows

A row is its cells and, if a shell prompt began on it or on a row it continues, a mark
(`GlassTty.PromptMark`). Editing a row rearranges its cells: for each column of the new row it is
said from which column of the old one its cell is taken, or that it is blank
(`GlassTty.Row.rearrange`). The mark stays.
-/

namespace GlassTty

/-- What is known of a row that began at a shell prompt. -/
structure PromptMark where
  /-- The working directory that the shell reported. -/
  directory : String
  /-- Zero for the row of the prompt, and one more for each row it is continued on. -/
  continuation : Nat
  deriving DecidableEq, Repr, Inhabited

namespace PromptMark

/-- The mark of a prompt's own row. -/
def prompt (directory : String) : PromptMark :=
  ⟨directory, 0⟩

/-- The mark of the row that a line is continued on; the count stays within sixteen bits. -/
def continued (m : PromptMark) : PromptMark :=
  { m with continuation := min (m.continuation + 1) 0xFFFF }

/-- Whether the row continues another one. -/
def isContinuation (m : PromptMark) : Bool :=
  0 < m.continuation

end PromptMark

/-- A row of a screen. -/
structure Row where
  cells : Array Cell
  mark : Option PromptMark := none
  deriving DecidableEq, Repr, Inhabited

namespace Row

/-- The row of the given width with nothing on it. -/
def blank (width : Nat) : Row :=
  { cells := Array.replicate width Cell.blank }

/-- The text of the row. -/
def text (r : Row) : String :=
  rowText r.cells.toList

/-- The row as a viewer gets it. -/
def encoded (r : Row) : RowText :=
  encodeRow r.cells.toList

/-- Put a cell into a column, if there is such a column. -/
def set (r : Row) (col : Nat) (cell : Cell) : Row :=
  { r with cells := r.cells.setIfInBounds col cell }

/-- Put a mark on the row, or take it off. -/
def withMark (r : Row) (mark : Option PromptMark) : Row :=
  { r with mark := mark }

/-- **The rearranged row**: the cell of each column is that of the column `source` names, and blank
where it names none or one past the end. -/
def rearrange (source : Nat → Option Nat) (r : Row) : Row :=
  { r with
    cells := Array.ofFn fun (col : Fin r.cells.size) =>
      ((source col).bind fun old => r.cells[old]?).getD Cell.blank }

/-- Blank the columns for which `erased` holds. -/
def eraseWhere (erased : Nat → Bool) (r : Row) : Row :=
  r.rearrange fun col => if erased col then none else some col

/-- Blank `count` cells from column `col` on. -/
def eraseFrom (col count : Nat) (r : Row) : Row :=
  r.eraseWhere fun c => col ≤ c && c < col + count

/-- Move the cells from column `col` on one to the right, the last one out, and blank `col`. -/
def insertBlank (col : Nat) (r : Row) : Row :=
  r.rearrange fun c => if c < col then some c else if c = col then none else some (c - 1)

/-- Take `count` cells out from column `col` on and move the rest up, blanks coming in. -/
def deleteFrom (col count : Nat) (r : Row) : Row :=
  r.rearrange fun c => if c < col then some c else some (c + count)

/-! ### Nothing changes the width -/

@[simp] theorem size_blank (width : Nat) : (blank width).cells.size = width := by
  simp [blank]

@[simp] theorem size_set (r : Row) (col : Nat) (cell : Cell) :
    (r.set col cell).cells.size = r.cells.size := by
  simp [set]

@[simp] theorem size_withMark (r : Row) (mark : Option PromptMark) :
    (r.withMark mark).cells.size = r.cells.size := rfl

@[simp] theorem size_rearrange (source : Nat → Option Nat) (r : Row) :
    (r.rearrange source).cells.size = r.cells.size := by
  simp [rearrange]

@[simp] theorem size_eraseWhere (erased : Nat → Bool) (r : Row) :
    (r.eraseWhere erased).cells.size = r.cells.size := by
  simp [eraseWhere]

@[simp] theorem size_eraseFrom (col count : Nat) (r : Row) :
    (r.eraseFrom col count).cells.size = r.cells.size := by
  simp [eraseFrom]

@[simp] theorem size_insertBlank (col : Nat) (r : Row) :
    (r.insertBlank col).cells.size = r.cells.size := by
  simp [insertBlank]

@[simp] theorem size_deleteFrom (col count : Nat) (r : Row) :
    (r.deleteFrom col count).cells.size = r.cells.size := by
  simp [deleteFrom]

end Row

end GlassTty
