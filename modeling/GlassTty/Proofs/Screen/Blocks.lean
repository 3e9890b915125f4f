import GlassTty.Proofs.Screen.Lasting

/-!
# Blocks of cells and rows

Inserting and deleting are the same on a row of cells and on a screen of rows. The entries from
`first` to before `stop` are a block: where some are inserted at its beginning, as many are lost at
its end (`GlassTty.Block.inserted`), and where some are removed from its beginning, as many come in
at its end (`GlassTty.Block.removed`). Nothing moves outside the block.

Some changes are made one step after the other. One step inserts or removes one entry, and steps
add up (`GlassTty.Block.inserted_succ`, `GlassTty.Block.removed_succ`) as long as there are entries
left in the block.

| change | what it does | theorem |
|---|---|---|
| insert blank cells | inserts, up to the end of a row | `GlassTty.Row.repeat_insertBlank` |
| delete cells | removes, up to the end of a row | `GlassTty.Row.deleteFrom_eq` |
| scroll down | inserts, in a region of rows | `GlassTty.Screen.rows_repeat_scrollDown` |
| scroll up | removes, in a region of rows | `GlassTty.Screen.rows_repeat_scrollUp` |
-/

namespace GlassTty

namespace Block

variable {α : Type} {filler : α} {first stop count : Nat} {xs : Array α}

/-- **Fillers are inserted** at the beginning of the block, and as many entries are lost at its
end. -/
def inserted (filler : α) (first stop count : Nat) (xs : Array α) : Array α :=
  xs.extract 0 first ++ Array.replicate count filler ++ xs.extract first (stop - count) ++
    xs.extract stop xs.size

/-- **Entries are removed** from the beginning of the block, and as many fillers come in at its
end. -/
def removed (filler : α) (first stop count : Nat) (xs : Array α) : Array α :=
  xs.extract 0 first ++ xs.extract (first + count) stop ++ Array.replicate count filler ++
    xs.extract stop xs.size

/-- Nothing stands behind a block that goes to the end. -/
theorem inserted_to_end (filler : α) (first count : Nat) (xs : Array α) :
    inserted filler first xs.size count xs =
      xs.extract 0 first ++ Array.replicate count filler ++ xs.extract first (xs.size - count) := by
  simp [inserted]

theorem removed_to_end (filler : α) (first count : Nat) (xs : Array α) :
    removed filler first xs.size count xs =
      xs.extract 0 first ++ xs.extract (first + count) xs.size ++ Array.replicate count filler := by
  simp [removed]

/-! ### Entry by entry -/

theorem getElem?_inserted (h : first + count ≤ stop) (hstop : stop ≤ xs.size) (i : Nat) :
    (inserted filler first stop count xs)[i]? =
      if first ≤ i ∧ i < stop then
        if i < first + count then some filler else xs[i - count]?
      else xs[i]? := by
  simp only [inserted, Array.getElem?_append, Array.size_append, Array.size_extract,
    Array.size_replicate, Array.getElem?_extract, Array.getElem?_replicate]
  grind

theorem getElem?_removed (h : first + count ≤ stop) (hstop : stop ≤ xs.size) (i : Nat) :
    (removed filler first stop count xs)[i]? =
      if first ≤ i ∧ i < stop then
        if i + count < stop then xs[i + count]? else some filler
      else xs[i]? := by
  simp only [removed, Array.getElem?_append, Array.size_append, Array.size_extract,
    Array.size_replicate, Array.getElem?_extract, Array.getElem?_replicate]
  grind

theorem size_inserted (h : first + count ≤ stop) (hstop : stop ≤ xs.size) :
    (inserted filler first stop count xs).size = xs.size := by
  simp only [inserted, Array.size_append, Array.size_extract, Array.size_replicate]
  omega

theorem size_removed (h : first + count ≤ stop) (hstop : stop ≤ xs.size) :
    (removed filler first stop count xs).size = xs.size := by
  simp only [removed, Array.size_append, Array.size_extract, Array.size_replicate]
  omega

/-! ### Steps add up -/

theorem inserted_zero (h : first ≤ stop) (hstop : stop ≤ xs.size) :
    inserted filler first stop 0 xs = xs := by
  refine Array.ext_getElem? fun i => ?_
  rw [getElem?_inserted h hstop]
  grind

/-- One entry more is inserted. -/
theorem inserted_succ (h : first + (count + 1) ≤ stop) (hstop : stop ≤ xs.size) :
    inserted filler first stop 1 (inserted filler first stop count xs) =
      inserted filler first stop (count + 1) xs := by
  have hcount : first + count ≤ stop := by omega
  refine Array.ext_getElem? fun i => ?_
  rw [getElem?_inserted (by omega) (by rwa [size_inserted hcount hstop]),
    getElem?_inserted hcount hstop, getElem?_inserted hcount hstop, getElem?_inserted h hstop]
  grind

theorem removed_zero (h : first ≤ stop) (hstop : stop ≤ xs.size) :
    removed filler first stop 0 xs = xs := by
  refine Array.ext_getElem? fun i => ?_
  rw [getElem?_removed h hstop]
  grind

/-- One entry more is removed. -/
theorem removed_succ (h : first + (count + 1) ≤ stop) (hstop : stop ≤ xs.size) :
    removed filler first stop 1 (removed filler first stop count xs) =
      removed filler first stop (count + 1) xs := by
  have hcount : first + count ≤ stop := by omega
  refine Array.ext_getElem? fun i => ?_
  rw [getElem?_removed (by omega) (by rwa [size_removed hcount hstop]),
    getElem?_removed hcount hstop, getElem?_removed hcount hstop, getElem?_removed h hstop]
  grind

end Block

namespace Row

variable (r : Row)

/-- What a rearranged row is, is known cell by cell. -/
theorem rearrange_eq {source : Nat → Option Nat} {cells : Array Cell}
    (h : ∀ i : Nat, cells[i]? =
      if i < r.cells.size then
        some (((source i).bind fun old => r.cells[old]?).getD Cell.blank)
      else none) :
    r.rearrange source = { r with cells } := by
  have hcells : (r.rearrange source).cells = cells :=
    Array.ext_getElem? fun i => Array.getElem?_ofFn.trans (h i).symm
  rw [← hcells]
  rfl

variable {r} {col count : Nat}

/-- One blank cell is inserted. -/
theorem insertBlank_eq (h : col < r.cells.size) :
    r.insertBlank col =
      { r with cells := Block.inserted .blank col r.cells.size 1 r.cells } := by
  refine r.rearrange_eq fun i => ?_
  rw [Block.getElem?_inserted h le_rfl]
  grind

/-- Blank cells are inserted one by one. -/
theorem repeat_insertBlank (h : col + count ≤ r.cells.size) :
    Nat.repeat (·.insertBlank col) count r =
      { r with cells := Block.inserted .blank col r.cells.size count r.cells } := by
  induction count with
  | zero =>
    have hcol : col ≤ r.cells.size := h
    rw [Nat.repeat, Block.inserted_zero hcol le_rfl]
  | succ count ih =>
    have hcount : col + count ≤ r.cells.size := by omega
    have hsize : (Block.inserted Cell.blank col r.cells.size count r.cells).size = r.cells.size :=
      Block.size_inserted hcount le_rfl
    rw [Nat.repeat, ih hcount, insertBlank_eq (by rw [hsize]; omega)]
    dsimp only
    rw [hsize, Block.inserted_succ h le_rfl]

/-- Of a count that is too great, as many cells are deleted as there are. -/
theorem deleteFrom_eq (h : col ≤ r.cells.size) :
    r.deleteFrom col count =
      { r with cells :=
          Block.removed .blank col r.cells.size (min count (r.cells.size - col)) r.cells } := by
  refine r.rearrange_eq fun i => ?_
  rw [Block.getElem?_removed (by omega) le_rfl]
  grind

/-- Of a count that is too great, as many cells are blanked as there are. -/
theorem eraseFrom_eq (h : col ≤ r.cells.size) :
    r.eraseFrom col count =
      { r with cells :=
          r.cells.extract 0 col ++
            Array.replicate (min count (r.cells.size - col)) .blank ++
            r.cells.extract (col + min count (r.cells.size - col)) r.cells.size } := by
  rw [eraseFrom, eraseWhere]
  refine r.rearrange_eq fun i => ?_
  simp only [Array.getElem?_append, Array.size_append, Array.size_extract, Array.size_replicate,
    Array.getElem?_extract, Array.getElem?_replicate]
  grind

end Row

namespace Screen

variable (s : Screen)

/-- A row that is changed a number of times. -/
theorem row?_repeat_modifyRow (row : Nat) (change : Row → Row) (keeps) (count i : Nat) :
    (Nat.repeat (·.modifyRow row change keeps) count s).row? i =
      if row = i then (s.row? i).map (Nat.repeat change count) else s.row? i := by
  induction count with
  | zero =>
    rw [Nat.repeat]
    split
    · cases s.row? i <;> rfl
    · rfl
  | succ count ih =>
    rw [Nat.repeat, row?_modifyRow, ih]
    split
    · rw [Option.map_map]
      rfl
    · rfl

/-- Rows all being of one width, it is enough to know what a change does to those. -/
theorem rows_repeat_modifyRow {row count : Nat} {change result : Row → Row} {keeps}
    (h : ∀ r : Row, r.cells.size = s.width → Nat.repeat change count r = result r) :
    (Nat.repeat (·.modifyRow row change keeps) count s).rows = s.rows.modify row result := by
  refine Array.ext_getElem? fun i => ?_
  have hrow := s.row?_repeat_modifyRow row change keeps count i
  simp only [row?] at hrow
  rw [hrow, Array.getElem?_modify]
  split
  · exact Option.map_congr fun r hr => h r (s.cells_size r (Array.mem_of_getElem? hr))
  · rfl

variable {s} {top bottom count : Nat}

theorem rows_scrollDown (h : top ≤ bottom) (hbottom : bottom < s.height) :
    (s.scrollDown top bottom).rows =
      Block.inserted (Row.blank s.width) top (bottom + 1) 1 s.rows := by
  refine Array.ext_getElem? fun i => ?_
  have hrow := s.row?_scrollDown h hbottom i
  simp only [row?] at hrow
  rw [hrow, Block.getElem?_inserted (by omega) hbottom]
  grind

theorem rows_scrollUp (h : top ≤ bottom) (hbottom : bottom < s.height) :
    (s.scrollUp top bottom).rows =
      Block.removed (Row.blank s.width) top (bottom + 1) 1 s.rows := by
  refine Array.ext_getElem? fun i => ?_
  have hrow := s.row?_scrollUp h hbottom i
  simp only [row?] at hrow
  rw [hrow, Block.getElem?_removed (by omega) hbottom]
  grind

theorem rows_repeat_scrollDown (h : top + count ≤ bottom + 1) (hbottom : bottom < s.height) :
    (Nat.repeat (·.scrollDown top bottom) count s).rows =
      Block.inserted (Row.blank s.width) top (bottom + 1) count s.rows := by
  induction count with
  | zero =>
    have htop : top ≤ bottom + 1 := h
    rw [Nat.repeat, Block.inserted_zero htop hbottom]
  | succ count ih =>
    have hcount : top + count ≤ bottom + 1 := by omega
    obtain ⟨hwidth, hheight⟩ := KeepsSize.repeated (.scrollDown top bottom) count s
    rw [Nat.repeat, rows_scrollDown (by omega) (hheight ▸ hbottom), ih hcount, hwidth,
      Block.inserted_succ h hbottom]

theorem rows_repeat_scrollUp (h : top + count ≤ bottom + 1) (hbottom : bottom < s.height) :
    (Nat.repeat (·.scrollUp top bottom) count s).rows =
      Block.removed (Row.blank s.width) top (bottom + 1) count s.rows := by
  induction count with
  | zero =>
    have htop : top ≤ bottom + 1 := h
    rw [Nat.repeat, Block.removed_zero htop hbottom]
  | succ count ih =>
    have hcount : top + count ≤ bottom + 1 := by omega
    obtain ⟨hwidth, hheight⟩ := KeepsSize.repeated (.scrollUp top bottom) count s
    rw [Nat.repeat, rows_scrollUp (by omega) (hheight ▸ hbottom), ih hcount, hwidth,
      Block.removed_succ h hbottom]

end Screen

end GlassTty
