import GlassTty.Screen.Row

/-!
# Screens

A screen is at least one row of at least one cell, all rows of one width; the type says so
(`GlassTty.Screen`). Two ways of changing it are enough for all of its operations:

* `GlassTty.Screen.modifyRow` and `GlassTty.Screen.modifyRows` change rows where they are;
* `GlassTty.Screen.rearrange` says for each row of the new screen which row of the old one it is, or
  that it is blank. Rows carry their marks with them, and a blank row has none.

A row or a column outside the screen is no error: what is asked there does nothing.
-/

namespace GlassTty

/-- A screen of cells. -/
structure Screen where
  width : Nat
  rows : Array Row
  width_pos : 0 < width
  rows_pos : 0 < rows.size
  cells_size : ∀ row ∈ rows, row.cells.size = width

namespace Screen

/-- The number of rows. -/
def height (s : Screen) : Nat :=
  s.rows.size

/-- The blank screen. A size of zero is raised to one. -/
def blank (width height : Nat) : Screen where
  width := max width 1
  rows := Array.replicate (max height 1) (Row.blank (max width 1))
  width_pos := by omega
  rows_pos := by rw [Array.size_replicate]; omega
  cells_size := by
    intro row h
    rw [Array.eq_of_mem_replicate h, Row.size_blank]

instance : Inhabited Screen := ⟨blank 1 1⟩

/-! ### Looking -/

/-- A row. -/
def row? (s : Screen) (row : Nat) : Option Row :=
  s.rows[row]?

/-- A cell. -/
def cell? (s : Screen) (row col : Nat) : Option Cell :=
  (s.row? row).bind fun r => r.cells[col]?

/-- The mark of a row, if it has one. -/
def mark? (s : Screen) (row : Nat) : Option PromptMark :=
  (s.row? row).bind (·.mark)

/-- The text of a row, empty outside the screen. -/
def rowText (s : Screen) (row : Nat) : String :=
  ((s.row? row).map Row.text).getD ""

/-! ### The two ways of changing a screen -/

/-- Change one row, keeping its width. -/
def modifyRow (s : Screen) (row : Nat) (change : Row → Row)
    (keeps : ∀ r, (change r).cells.size = r.cells.size) : Screen where
  width := s.width
  rows := s.rows.modify row change
  width_pos := s.width_pos
  rows_pos := by simpa using s.rows_pos
  cells_size := by
    intro r hr
    obtain ⟨i, hi, rfl⟩ := Array.mem_iff_getElem.1 hr
    rw [Array.getElem_modify]
    split
    · rw [keeps]
      exact s.cells_size _ (Array.getElem_mem _)
    · exact s.cells_size _ (Array.getElem_mem _)

/-- Change every row, keeping the widths; `change` is told where the row stands. -/
def modifyRows (s : Screen) (change : Nat → Row → Row)
    (keeps : ∀ i r, (change i r).cells.size = r.cells.size) : Screen where
  width := s.width
  rows := s.rows.mapIdx change
  width_pos := s.width_pos
  rows_pos := by simpa using s.rows_pos
  cells_size := by
    intro r hr
    obtain ⟨i, hi, rfl⟩ := Array.mem_iff_getElem.1 hr
    rw [Array.getElem_mapIdx, keeps]
    exact s.cells_size _ (Array.getElem_mem _)

/-- The row that a rearrangement puts in one place. -/
def rowFrom (s : Screen) (source : Option Nat) : Row :=
  (source.bind fun old => s.rows[old]?).getD (Row.blank s.width)

/-- Any row that a rearrangement puts in a place is as wide as the screen. -/
theorem size_rowFrom (s : Screen) (source : Option Nat) :
    (s.rowFrom source).cells.size = s.width := by
  unfold rowFrom
  cases h : source.bind fun old => s.rows[old]? with
  | none => simp
  | some r =>
    obtain ⟨old, -, hold⟩ := Option.bind_eq_some_iff.1 h
    obtain ⟨hlt, rfl⟩ := Array.getElem?_eq_some_iff.1 hold
    exact s.cells_size _ (Array.getElem_mem _)

/-- **The rearranged screen**: in each place the row `source` names, and a blank one where it names
none or one past the end. -/
def rearrange (s : Screen) (source : Nat → Option Nat) : Screen where
  width := s.width
  rows := Array.ofFn fun (row : Fin s.rows.size) => s.rowFrom (source row)
  width_pos := s.width_pos
  rows_pos := by simpa using s.rows_pos
  cells_size := by
    intro r hr
    obtain ⟨i, hi, rfl⟩ := Array.mem_iff_getElem.1 hr
    rw [Array.getElem_ofFn]
    exact s.size_rowFrom _

/-! ### Writing and erasing -/

/-- Write a cell. -/
def setCell (s : Screen) (row col : Nat) (cell : Cell) : Screen :=
  s.modifyRow row (·.set col cell) fun r => r.size_set col cell

/-- Put a mark on a row, or take it off. -/
def setMark (s : Screen) (row : Nat) (mark : Option PromptMark) : Screen :=
  s.modifyRow row (·.withMark mark) fun r => r.size_withMark mark

/-- **Erase in reading order** from one position through another, both included. Columns and the
last row are taken back to the screen; marks stay. -/
def eraseRange (s : Screen) (row₁ col₁ row₂ col₂ : Nat) : Screen :=
  let firstCol := min col₁ (s.width - 1)
  let lastRow := min row₂ (s.height - 1)
  let lastCol := min col₂ (s.width - 1)
  s.modifyRows
    (fun row r =>
      if row₁ ≤ row ∧ row ≤ lastRow then
        r.eraseWhere fun col => (row₁ < row || firstCol ≤ col) && (row < lastRow || col ≤ lastCol)
      else r)
    (by intro i r; split <;> simp)

/-- **Erase whole rows**, `top` through `bottom`, with their marks. -/
def eraseLines (s : Screen) (top bottom : Nat) : Screen :=
  s.rearrange fun row => if top ≤ row ∧ row ≤ bottom then none else some row

/-- Erase everything. -/
def clear (s : Screen) : Screen :=
  s.rearrange fun _ => none

/-- Blank `count` cells of a row from column `col` on. -/
def eraseChars (s : Screen) (row col count : Nat) : Screen :=
  s.modifyRow row (·.eraseFrom col count) fun r => r.size_eraseFrom col count

/-! ### Moving rows -/

/-- **Scroll up**: each row after `top` through `bottom` moves one up, the row `top` is lost and a
blank one comes in at `bottom`. A region that does not fit the screen does nothing. -/
def scrollUp (s : Screen) (top bottom : Nat) : Screen :=
  if top ≤ bottom ∧ bottom < s.height then
    s.rearrange fun row =>
      if row = bottom then none
      else if top ≤ row ∧ row < bottom then some (row + 1)
      else some row
  else s

/-- **Scroll down**: each row from `top` to before `bottom` moves one down, the row `bottom` is lost
and a blank one comes in at `top`. A region that does not fit the screen does nothing. -/
def scrollDown (s : Screen) (top bottom : Nat) : Screen :=
  if top ≤ bottom ∧ bottom < s.height then
    s.rearrange fun row =>
      if row = top then none
      else if top < row ∧ row ≤ bottom then some (row - 1)
      else some row
  else s

/-- **Copy rows** with their marks: `count` of them from `src` on to `dst`, as many as the screen
has at both places. -/
def copyRows (s : Screen) (src dst count : Nat) : Screen :=
  let count := min count (min (s.height - src) (s.height - dst))
  s.rearrange fun row =>
    if dst ≤ row ∧ row < dst + count then some (src + (row - dst)) else some row

/-! ### Editing a row -/

/-- Insert a blank cell, moving the rest of the row to the right. -/
def insertBlank (s : Screen) (row col : Nat) : Screen :=
  s.modifyRow row (·.insertBlank col) fun r => r.size_insertBlank col

/-- Delete `count` cells, moving the rest of the row to the left. -/
def deleteChars (s : Screen) (row col count : Nat) : Screen :=
  s.modifyRow row (·.deleteFrom col count) fun r => r.size_deleteFrom col count

/-! ### Nothing changes the size -/

@[simp] theorem height_modifyRow (s : Screen) (row : Nat) (change : Row → Row) (keeps) :
    (s.modifyRow row change keeps).height = s.height := by
  simp [height, modifyRow]

@[simp] theorem width_modifyRow (s : Screen) (row : Nat) (change : Row → Row) (keeps) :
    (s.modifyRow row change keeps).width = s.width := rfl

@[simp] theorem height_modifyRows (s : Screen) (change : Nat → Row → Row) (keeps) :
    (s.modifyRows change keeps).height = s.height := by
  simp [height, modifyRows]

@[simp] theorem width_modifyRows (s : Screen) (change : Nat → Row → Row) (keeps) :
    (s.modifyRows change keeps).width = s.width := rfl

@[simp] theorem height_rearrange (s : Screen) (source : Nat → Option Nat) :
    (s.rearrange source).height = s.height := by
  simp [height, rearrange]

@[simp] theorem width_rearrange (s : Screen) (source : Nat → Option Nat) :
    (s.rearrange source).width = s.width := rfl

end Screen

end GlassTty
