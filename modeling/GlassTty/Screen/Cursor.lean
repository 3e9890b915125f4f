/-!
# The cursor and the scroll region

Rows and columns are counted from zero. After the last column of a row is written the cursor stays
on it and only remembers that the next character belongs to the row below (`pendingWrap`).
-/

namespace GlassTty

/-- The cursor of a terminal. -/
structure Cursor where
  row : Nat := 0
  col : Nat := 0
  /-- The last column was just written: the next character goes to the next row first. -/
  pendingWrap : Bool := false
  deriving DecidableEq, Repr, Inhabited

namespace Cursor

/-- The cursor at a position. -/
def ofPosition (row col : Nat) : Cursor :=
  { row, col }

/-- Take the cursor back to a screen of the given size. -/
def clamp (c : Cursor) (rows cols : Nat) : Cursor :=
  { row := min c.row (rows - 1), col := min c.col (cols - 1) }

/-- To the first column. -/
def carriageReturn (c : Cursor) : Cursor :=
  { c with col := 0, pendingWrap := false }

/-- The cursor with no wrap pending. -/
def settled (c : Cursor) : Cursor :=
  { c with pendingWrap := false }

/-- The cursor after a character was printed on a screen of the given width. -/
def advanced (c : Cursor) (cols : Nat) : Cursor :=
  if cols ≤ c.col + 1 then { c with pendingWrap := true } else { c with col := c.col + 1 }

end Cursor

/-- A position that the cursor can be taken back to. -/
structure SavedCursor where
  row : Nat := 0
  col : Nat := 0
  deriving DecidableEq, Repr, Inhabited

namespace SavedCursor

/-- Keep the position of a cursor. -/
def save (c : Cursor) : SavedCursor :=
  ⟨c.row, c.col⟩

/-- The cursor at the kept position, taken back to a screen of the given size. -/
def restore (s : SavedCursor) (rows cols : Nat) : Cursor :=
  (Cursor.ofPosition s.row s.col).clamp rows cols

end SavedCursor

/-- The rows that scroll, `top` through `bottom`. -/
structure ScrollRegion where
  top : Nat
  bottom : Nat
  deriving DecidableEq, Repr, Inhabited

namespace ScrollRegion

/-- All rows of a screen. -/
def full (rows : Nat) : ScrollRegion :=
  ⟨0, rows - 1⟩

/-- The region that a request names by its first and last row, counted from one, zero standing for
the first or last row of the screen. There is none unless it has two rows at least. -/
def ofRequest? (top bottom rows : Nat) : Option ScrollRegion :=
  let first := max top 1 - 1
  let last := (if bottom = 0 then rows else min bottom rows) - 1
  if first < last then some ⟨first, last⟩ else none

/-- Whether a row is in the region. -/
def contains (r : ScrollRegion) (row : Nat) : Bool :=
  r.top ≤ row && row ≤ r.bottom

end ScrollRegion

end GlassTty
