import GlassTty.Proofs.Screen.Blocks
import GlassTty.Proofs.Screen.Size
import Mathlib.Data.List.Basic

/-!
# A screen as a list of rows

A screen can be read as a list of rows, each of them a list of cells with a tag or none
(`GlassTty.Screen.tagged`). On such lists the operations of a screen are said with the operations
that lists have (`GlassTty.Screen.Edit.onRows`):

| operation | on the list |
|---|---|
| scroll up, scroll down | rows are taken out of the list and blank ones put in |
| copy rows | a part of the list is put in the place of another one |
| erase rows, erase in reading order | each row, or each cell, by its position |
| the others | one row is changed, its cells being a list as well |

A row that is not in the list, and a column that is not in its row, need no mention then: what a
list operation does there is nothing. Both readings of an operation agree
(`GlassTty.Screen.tagged_apply`).

An operation names some of the rows, cells and tags, by its arguments and the size of the screen.
Those that it does not name stay (`GlassTty.Screen.row?_apply`, `GlassTty.Screen.cell?_apply`,
`GlassTty.Screen.mark?_apply`), and an operation that names nothing on a screen does nothing
(`GlassTty.Screen.apply_of_idle`).
-/

namespace GlassTty

/-- A row as a list of cells, perhaps with a tag. -/
structure TaggedRow where
  cells : List Cell
  tag : Option PromptMark
  deriving DecidableEq, Repr

namespace TaggedRow

/-- A row of a screen. -/
def ofRow (r : Row) : TaggedRow :=
  ⟨r.cells.toList, r.mark⟩

/-- The row with nothing on it. -/
def blank (width : Nat) : TaggedRow :=
  ⟨List.replicate width Cell.blank, none⟩

/-- The row with its cells changed. -/
def mapCells (change : List Cell → List Cell) (r : TaggedRow) : TaggedRow :=
  { r with cells := change r.cells }

/-- The row with a tag put on it or taken off. -/
def withTag (tag : Option PromptMark) (r : TaggedRow) : TaggedRow :=
  { r with tag := tag }

theorem ofRow_injective : Function.Injective ofRow := by
  rintro ⟨cells, mark⟩ ⟨cells', mark'⟩ heq
  simp only [ofRow, TaggedRow.mk.injEq, Array.toList_inj] at heq
  rw [heq.1, heq.2]

@[simp] theorem ofRow_blank (width : Nat) : ofRow (Row.blank width) = blank width := by
  simp [ofRow, Row.blank, blank]

variable (r : Row)

/-- Cells that are rearranged. -/
theorem getElem?_cells_rearrange (source : Nat → Option Nat) (j : Nat) :
    (ofRow (r.rearrange source)).cells[j]? =
      if j < r.cells.size then some (((source j).bind (r.cells[·]?)).getD Cell.blank)
      else none := by
  rw [ofRow, Array.getElem?_toList]
  exact Array.getElem?_ofFn

theorem ofRow_eraseWhere (erased : Nat → Bool) :
    ofRow (r.eraseWhere erased) =
      (ofRow r).mapCells fun cells => cells.mapIdx fun j cell =>
        if erased j then .blank else cell := by
  refine congrArg (TaggedRow.mk · r.mark) (List.ext_getElem? fun j => ?_)
  refine (getElem?_cells_rearrange r _ j).trans ?_
  simp only [ofRow, List.getElem?_mapIdx, Array.getElem?_toList]
  grind

theorem ofRow_eraseFrom (col count : Nat) :
    ofRow (r.eraseFrom col count) =
      (ofRow r).mapCells fun cells => cells.mapIdx fun j cell =>
        if col ≤ j ∧ j < col + count then .blank else cell := by
  rw [Row.eraseFrom, ofRow_eraseWhere]
  simp

theorem ofRow_insertBlank (col : Nat) :
    ofRow (r.insertBlank col) =
      (ofRow r).mapCells fun cells => (cells.insertIdx col .blank).take cells.length := by
  refine congrArg (TaggedRow.mk · r.mark) (List.ext_getElem? fun j => ?_)
  refine (getElem?_cells_rearrange r _ j).trans ?_
  simp only [ofRow, List.getElem?_take, List.getElem?_insertIdx, Array.getElem?_toList,
    Array.length_toList]
  grind

theorem ofRow_deleteFrom (col count : Nat) :
    ofRow (r.deleteFrom col count) =
      (ofRow r).mapCells fun cells =>
        (cells.take col ++ cells.drop (col + count)).rightpad cells.length .blank := by
  refine congrArg (TaggedRow.mk · r.mark) (List.ext_getElem? fun j => ?_)
  refine (getElem?_cells_rearrange r _ j).trans ?_
  simp only [ofRow, List.rightpad, List.getElem?_append, List.getElem?_take, List.getElem?_drop,
    List.getElem?_replicate, Array.getElem?_toList, List.length_append, List.length_take,
    List.length_drop, Array.length_toList]
  grind

theorem ofRow_withMark (mark : Option PromptMark) :
    ofRow (r.withMark mark) = (ofRow r).withTag mark := rfl

theorem ofRow_set (col : Nat) (cell : Cell) :
    ofRow (r.set col cell) = (ofRow r).mapCells (·.set col cell) := by
  simp [ofRow, Row.set, mapCells]

end TaggedRow

namespace Screen

/-- **The rows of a screen**, from top to bottom. -/
def tagged (s : Screen) : List TaggedRow :=
  s.rows.toList.map TaggedRow.ofRow

/-- **The order of reading**: a position is not behind another one if its row is above, or if it is
the same row and its column is not further to the right. -/
def NotBehind (row col row' col' : Nat) : Prop :=
  row < row' ∨ row = row' ∧ col ≤ col'

instance (row col row' col' : Nat) : Decidable (NotBehind row col row' col') :=
  inferInstanceAs (Decidable (_ ∨ _))

/-- An operation of a screen with its arguments. -/
inductive Edit where
  | scrollUp (top bottom : Nat)
  | scrollDown (top bottom : Nat)
  | copyRows (src dst count : Nat)
  | eraseLines (top bottom : Nat)
  | eraseRange (row₁ col₁ row₂ col₂ : Nat)
  | eraseChars (row col count : Nat)
  | insertBlank (row col : Nat)
  | deleteChars (row col count : Nat)
  | setCell (row col : Nat) (cell : Cell)
  | setMark (row : Nat) (mark : Option PromptMark)
  deriving DecidableEq, Repr

namespace Edit

/-- The operation on a screen. -/
def apply (s : Screen) : Edit → Screen
  | .scrollUp top bottom => s.scrollUp top bottom
  | .scrollDown top bottom => s.scrollDown top bottom
  | .copyRows src dst count => s.copyRows src dst count
  | .eraseLines top bottom => s.eraseLines top bottom
  | .eraseRange row₁ col₁ row₂ col₂ => s.eraseRange row₁ col₁ row₂ col₂
  | .eraseChars row col count => s.eraseChars row col count
  | .insertBlank row col => s.insertBlank row col
  | .deleteChars row col count => s.deleteChars row col count
  | .setCell row col cell => s.setCell row col cell
  | .setMark row mark => s.setMark row mark

/-- **The operation on a list of rows** of the given width. -/
def onRows (width : Nat) (rows : List TaggedRow) : Edit → List TaggedRow
  | .scrollUp top bottom =>
    if top ≤ bottom ∧ bottom < rows.length then
      rows.take top ++ (rows.take (bottom + 1)).drop (top + 1) ++ [.blank width] ++
        rows.drop (bottom + 1)
    else rows
  | .scrollDown top bottom =>
    if top ≤ bottom ∧ bottom < rows.length then
      rows.take top ++ [.blank width] ++ (rows.take bottom).drop top ++ rows.drop (bottom + 1)
    else rows
  | .copyRows src dst count =>
    let copied := (rows.drop src).take (min count (rows.length - dst))
    rows.take dst ++ copied ++ rows.drop (dst + copied.length)
  | .eraseLines top bottom =>
    rows.mapIdx fun i r => if top ≤ i ∧ i ≤ bottom then .blank width else r
  | .eraseRange row₁ col₁ row₂ col₂ =>
    let firstCol := min col₁ (width - 1)
    let lastRow := min row₂ (rows.length - 1)
    let lastCol := min col₂ (width - 1)
    rows.mapIdx fun i => .mapCells fun cells => cells.mapIdx fun j cell =>
      if NotBehind row₁ firstCol i j ∧ NotBehind i j lastRow lastCol then .blank else cell
  | .eraseChars row col count =>
    rows.modify row <| .mapCells fun cells => cells.mapIdx fun j cell =>
      if col ≤ j ∧ j < col + count then .blank else cell
  | .insertBlank row col =>
    rows.modify row <| .mapCells fun cells => (cells.insertIdx col .blank).take cells.length
  | .deleteChars row col count =>
    rows.modify row <| .mapCells fun cells =>
      (cells.take col ++ cells.drop (col + count)).rightpad cells.length .blank
  | .setCell row col cell => rows.modify row <| .mapCells (·.set col cell)
  | .setMark row mark => rows.modify row <| .withTag mark

end Edit

/-! ### Rows one by one -/

variable (s : Screen)

theorem length_tagged : s.tagged.length = s.height := by
  rw [tagged, List.length_map, Array.length_toList]
  rfl

theorem getElem?_tagged (i : Nat) : s.tagged[i]? = (s.row? i).map .ofRow := by
  rw [tagged, List.getElem?_map, Array.getElem?_toList]
  rfl

theorem length_cells_of_mem_tagged {r : TaggedRow} (h : r ∈ s.tagged) :
    r.cells.length = s.width := by
  obtain ⟨row, hrow, rfl⟩ := List.mem_map.mp h
  exact s.cells_size row (Array.mem_toList_iff.mp hrow)

/-- Rows that are rearranged. -/
theorem getElem?_tagged_rearrange (source : Nat → Option Nat) (i : Nat) :
    (s.rearrange source).tagged[i]? =
      if i < s.height then some (((source i).bind (s.tagged[·]?)).getD (.blank s.width))
      else none := by
  rw [getElem?_tagged, row?_rearrange]
  split
  · rw [Option.map_some, rowFrom]
    cases hsource : source i with
    | none => simp
    | some old =>
      simp only [Option.bind_some, getElem?_tagged, row?]
      cases s.rows[old]? <;> simp
  · rfl

/-- A row that is changed where it is. -/
theorem tagged_modifyRow {row : Nat} {change : Row → Row} {keeps} {change' : TaggedRow → TaggedRow}
    (h : ∀ r : Row, .ofRow (change r) = change' (.ofRow r)) :
    (s.modifyRow row change keeps).tagged = s.tagged.modify row change' := by
  refine List.ext_getElem? fun i => ?_
  rw [getElem?_tagged, row?_modifyRow, List.getElem?_modify, getElem?_tagged]
  split <;> cases s.row? i <;> simp [*]

/-- Rows that are changed where they are. -/
theorem tagged_modifyRows {change : Nat → Row → Row} {keeps}
    {change' : Nat → TaggedRow → TaggedRow}
    (h : ∀ i r, .ofRow (change i r) = change' i (.ofRow r)) :
    (s.modifyRows change keeps).tagged = s.tagged.mapIdx change' := by
  refine List.ext_getElem? fun i => ?_
  rw [getElem?_tagged, row?_modifyRows, List.getElem?_mapIdx, getElem?_tagged]
  cases s.row? i <;> simp [h]

/-! ### Both readings of an operation -/

theorem getElem?_tagged_eq_none {i : Nat} (h : s.height ≤ i) : s.tagged[i]? = none := by
  rw [List.getElem?_eq_none_iff, length_tagged]
  exact h

/-- A part of the rows. -/
theorem map_ofRow_extract (start stop : Nat) :
    (s.rows.extract start stop).toList.map TaggedRow.ofRow =
      (s.tagged.take stop).drop start := by
  rw [Array.toList_extract, List.extract_eq_take_drop, tagged, List.drop_take, List.map_take,
    List.map_drop]

theorem tagged_scrollUp (top bottom : Nat) :
    (s.scrollUp top bottom).tagged = (Edit.scrollUp top bottom).onRows s.width s.tagged := by
  simp only [Edit.onRows, length_tagged]
  split
  · next h =>
    have hall : s.tagged.take s.rows.size = s.tagged :=
      List.take_of_length_le s.length_tagged.le
    rw [tagged, rows_scrollUp h.1 h.2, Block.removed]
    simp only [Array.toList_append, List.map_append, map_ofRow_extract, hall]
    simp
  · next h => rw [scrollUp, if_neg h]

theorem tagged_scrollDown (top bottom : Nat) :
    (s.scrollDown top bottom).tagged = (Edit.scrollDown top bottom).onRows s.width s.tagged := by
  simp only [Edit.onRows, length_tagged]
  split
  · next h =>
    have hall : s.tagged.take s.rows.size = s.tagged :=
      List.take_of_length_le s.length_tagged.le
    rw [tagged, rows_scrollDown h.1 h.2, Block.inserted]
    simp only [Array.toList_append, List.map_append, map_ofRow_extract, hall]
    simp
  · next h => rw [scrollDown, if_neg h]

theorem tagged_copyRows (src dst count : Nat) :
    (s.copyRows src dst count).tagged = (Edit.copyRows src dst count).onRows s.width s.tagged := by
  refine List.ext_getElem? fun i => ?_
  simp only [Edit.onRows, copyRows, getElem?_tagged_rearrange, List.getElem?_append,
    List.getElem?_take, List.getElem?_drop, List.length_append, List.length_take,
    List.length_drop, length_tagged]
  grind [length_tagged, getElem?_tagged_eq_none]

theorem tagged_eraseLines (top bottom : Nat) :
    (s.eraseLines top bottom).tagged = (Edit.eraseLines top bottom).onRows s.width s.tagged := by
  refine List.ext_getElem? fun i => ?_
  simp only [Edit.onRows, eraseLines, getElem?_tagged_rearrange, List.getElem?_mapIdx]
  grind [length_tagged, getElem?_tagged_eq_none]

theorem tagged_eraseRange (row₁ col₁ row₂ col₂ : Nat) :
    (s.eraseRange row₁ col₁ row₂ col₂).tagged =
      (Edit.eraseRange row₁ col₁ row₂ col₂).onRows s.width s.tagged := by
  have hrow : ∀ i (r : Row), TaggedRow.ofRow
      (if row₁ ≤ i ∧ i ≤ min row₂ (s.height - 1) then
        r.eraseWhere fun col => (row₁ < i || min col₁ (s.width - 1) ≤ col) &&
          (i < min row₂ (s.height - 1) || col ≤ min col₂ (s.width - 1))
      else r) =
      (TaggedRow.ofRow r).mapCells fun cells => cells.mapIdx fun j cell =>
        if NotBehind row₁ (min col₁ (s.width - 1)) i j ∧
            NotBehind i j (min row₂ (s.height - 1)) (min col₂ (s.width - 1)) then .blank
        else cell := by
    intro i r
    split
    · next h =>
      -- between the first row and the last one, it is the columns that count
      rw [TaggedRow.ofRow_eraseWhere]
      refine congrArg (TaggedRow.mk · r.mark) (List.mapIdx_eq_mapIdx_iff.mpr fun j hj => ?_)
      refine if_congr ?_ rfl rfl
      simp only [NotBehind, Bool.and_eq_true, Bool.or_eq_true, decide_eq_true_eq]
      omega
    · next h =>
      refine congrArg (TaggedRow.mk · r.mark) (List.ext_getElem? fun j => ?_)
      have hout : ¬(NotBehind row₁ (min col₁ (s.width - 1)) i j ∧
          NotBehind i j (min row₂ (s.height - 1)) (min col₂ (s.width - 1))) := by
        simp only [NotBehind]
        omega
      simp only [List.getElem?_mapIdx, if_neg hout, Option.map_id']
      rfl
  rw [eraseRange, s.tagged_modifyRows hrow, Edit.onRows, length_tagged]

/-- **A screen is the list of its rows**: an operation does to the list what it does to the
screen. -/
theorem tagged_apply (edit : Edit) : (edit.apply s).tagged = edit.onRows s.width s.tagged := by
  cases edit with
  | scrollUp top bottom => exact s.tagged_scrollUp top bottom
  | scrollDown top bottom => exact s.tagged_scrollDown top bottom
  | copyRows src dst count => exact s.tagged_copyRows src dst count
  | eraseLines top bottom => exact s.tagged_eraseLines top bottom
  | eraseRange row₁ col₁ row₂ col₂ => exact s.tagged_eraseRange row₁ col₁ row₂ col₂
  | eraseChars row col count =>
    rw [Edit.apply, eraseChars, s.tagged_modifyRow fun r => TaggedRow.ofRow_eraseFrom r col count]
    rfl
  | insertBlank row col =>
    rw [Edit.apply, insertBlank, s.tagged_modifyRow fun r => TaggedRow.ofRow_insertBlank r col]
    rfl
  | deleteChars row col count =>
    rw [Edit.apply, deleteChars, s.tagged_modifyRow fun r => TaggedRow.ofRow_deleteFrom r col count]
    rfl
  | setCell row col cell =>
    rw [Edit.apply, setCell, s.tagged_modifyRow fun r => TaggedRow.ofRow_set r col cell]
    rfl
  | setMark row mark =>
    rw [Edit.apply, setMark, s.tagged_modifyRow fun r => TaggedRow.ofRow_withMark r mark]
    rfl

/-! ### Operations that change nothing -/

/-- **The operation names nothing** on a screen of the given size: no row or no column that there
is, nothing at all, rows or positions in the wrong order, or a region that does not fit. The
positions of a range count as they are once its columns and its last row are taken back to the
screen. -/
def Edit.Idle (width height : Nat) : Edit → Prop
  | .scrollUp top bottom => bottom < top ∨ height ≤ bottom
  | .scrollDown top bottom => bottom < top ∨ height ≤ bottom
  | .copyRows src dst count => count = 0 ∨ height ≤ src ∨ height ≤ dst ∨ src = dst
  | .eraseLines top bottom => bottom < top ∨ height ≤ top
  | .eraseRange row₁ col₁ row₂ col₂ =>
    height ≤ row₁ ∨
      ¬NotBehind row₁ (min col₁ (width - 1)) (min row₂ (height - 1)) (min col₂ (width - 1))
  | .eraseChars row col count => count = 0 ∨ height ≤ row ∨ width ≤ col
  | .insertBlank row col => height ≤ row ∨ width ≤ col
  | .deleteChars row col count => count = 0 ∨ height ≤ row ∨ width ≤ col
  | .setCell row col _ => height ≤ row ∨ width ≤ col
  | .setMark row _ => height ≤ row

/-- A screen is known by its width and its rows. -/
theorem ext_tagged {s s' : Screen} (hwidth : s.width = s'.width) (h : s.tagged = s'.tagged) :
    s = s' := by
  have hrows : s.rows = s'.rows :=
    Array.toList_inj.mp (List.map_injective_iff.mpr TaggedRow.ofRow_injective h)
  cases s
  cases s'
  cases hwidth
  cases hrows
  rfl

/-- An element that a change leaves alone, or that is not there. -/
theorem modify_eq_self {α : Type} {list : List α} {place : Nat} {change : α → α}
    (h : ∀ x, list[place]? = some x → change x = x) : list.modify place change = list := by
  refine List.ext_getElem? fun i => ?_
  rw [List.getElem?_modify]
  cases hx : list[i]? with
  | none => rfl
  | some x =>
    by_cases hi : place = i
    · simp [hi, h x (hi ▸ hx)]
    · simp [hi]

/-- Elements that are all left alone. -/
theorem mapIdx_eq_self {α : Type} {list : List α} {change : Nat → α → α}
    (h : ∀ i < list.length, ∀ x, change i x = x) : list.mapIdx change = list := by
  refine List.ext_getElem? fun i => ?_
  rw [List.getElem?_mapIdx]
  cases hx : list[i]? with
  | none => rfl
  | some x => simp [h i (List.getElem?_eq_some_iff.mp hx).1 x]

theorem mapCells_eq_self {r : TaggedRow} {change : List Cell → List Cell}
    (h : change r.cells = r.cells) : r.mapCells change = r :=
  congrArg (TaggedRow.mk · r.tag) h

theorem onRows_of_idle {width : Nat} {rows : List TaggedRow}
    (hwidth : ∀ r ∈ rows, r.cells.length = width) {edit : Edit}
    (h : edit.Idle width rows.length) : edit.onRows width rows = rows := by
  have hmem : ∀ {row r}, rows[row]? = some r → row < rows.length ∧ r.cells.length = width :=
    fun hr => ⟨(List.getElem?_eq_some_iff.mp hr).1, hwidth _ (List.mem_of_getElem? hr)⟩
  cases edit with
  | scrollUp top bottom => exact if_neg (by simp only [Edit.Idle] at h; omega)
  | scrollDown top bottom => exact if_neg (by simp only [Edit.Idle] at h; omega)
  | copyRows src dst count =>
    simp only [Edit.onRows]
    rcases h with rfl | hsrc | hdst | rfl
    · simp
    · simp [List.drop_of_length_le hsrc]
    · simp [Nat.sub_eq_zero_of_le hdst]
    · -- the rows that are copied are those that stand there
      rw [List.append_assoc, ← List.drop_drop,
        List.prefix_iff_eq_append.mp (List.take_prefix _ (rows.drop src)), List.take_append_drop]
  | eraseLines top bottom =>
    refine mapIdx_eq_self fun i hi r => if_neg ?_
    simp only [Edit.Idle] at h
    omega
  | eraseRange row₁ col₁ row₂ col₂ =>
    refine mapIdx_eq_self fun i hi r => mapCells_eq_self (mapIdx_eq_self fun j hj cell => if_neg ?_)
    simp only [Edit.Idle, NotBehind] at h ⊢
    omega
  | eraseChars row col count =>
    refine modify_eq_self fun r hr => mapCells_eq_self (mapIdx_eq_self fun j hj cell => if_neg ?_)
    obtain ⟨hrow, hlength⟩ := hmem hr
    simp only [Edit.Idle] at h
    omega
  | insertBlank row col =>
    refine modify_eq_self fun r hr => mapCells_eq_self ?_
    obtain ⟨hrow, hlength⟩ := hmem hr
    have hcol : r.cells.length ≤ col := hlength ▸ h.resolve_left (Nat.not_le.mpr hrow)
    refine List.ext_getElem? fun j => ?_
    rw [List.getElem?_take, List.getElem?_insertIdx]
    grind
  | deleteChars row col count =>
    refine modify_eq_self fun r hr => mapCells_eq_self ?_
    obtain ⟨hrow, hlength⟩ := hmem hr
    rcases h with rfl | hout | hcol
    · simp [List.rightpad]
    · omega
    · have hout : r.cells.length ≤ col + count := by omega
      simp [List.rightpad, List.take_of_length_le (hlength ▸ hcol), List.drop_of_length_le hout]
  | setCell row col cell =>
    refine modify_eq_self fun r hr => mapCells_eq_self ?_
    obtain ⟨hrow, hlength⟩ := hmem hr
    exact List.set_eq_of_length_le (hlength ▸ h.resolve_left (Nat.not_le.mpr hrow))
  | setMark row mark => exact modify_eq_self fun r hr => absurd (hmem hr).1 (Nat.not_lt.mpr h)

/-! ### Rows, cells and tags that are not named -/

namespace Edit

/-- **The rows that an operation names** on a screen of the given height. -/
def NamesRow (height row : Nat) : Edit → Prop
  | .scrollUp top bottom => bottom < height ∧ top ≤ row ∧ row ≤ bottom
  | .scrollDown top bottom => bottom < height ∧ top ≤ row ∧ row ≤ bottom
  | .copyRows src dst count => dst ≤ row ∧ row < dst + min count (height - src)
  | .eraseLines top bottom => top ≤ row ∧ row ≤ bottom
  | .eraseRange row₁ _ row₂ _ => row₁ ≤ row ∧ row ≤ min row₂ (height - 1)
  | .eraseChars row' _ _ => row = row'
  | .insertBlank row' _ => row = row'
  | .deleteChars row' _ _ => row = row'
  | .setCell row' _ _ => row = row'
  | .setMark row' _ => row = row'

/-- **The cells that an operation names**: all cells of a row that is taken as a whole. -/
def NamesCell (width height row col : Nat) : Edit → Prop
  | .eraseRange row₁ col₁ row₂ col₂ =>
    NotBehind row₁ (min col₁ (width - 1)) row col ∧
      NotBehind row col (min row₂ (height - 1)) (min col₂ (width - 1))
  | .eraseChars row' col' count => row = row' ∧ col' ≤ col ∧ col < col' + count
  | .insertBlank row' col' => row = row' ∧ col' ≤ col
  | .deleteChars row' col' _ => row = row' ∧ col' ≤ col
  | .setCell row' col' _ => row = row' ∧ col = col'
  | .setMark _ _ => False
  | edit => edit.NamesRow height row

/-- **The rows whose tags an operation names.** -/
def NamesTag (height row : Nat) : Edit → Prop
  | .eraseRange .. | .eraseChars .. | .insertBlank .. | .deleteChars .. | .setCell .. => False
  | edit => edit.NamesRow height row

end Edit

section NotNamed

variable {width : Nat} {rows : List TaggedRow} {edit : Edit} {i j : Nat}

/-- A row that is not named stays. -/
theorem getElem?_onRows (h : ¬edit.NamesRow rows.length i) :
    (edit.onRows width rows)[i]? = rows[i]? := by
  cases edit with
  | scrollUp top bottom =>
    simp only [Edit.NamesRow] at h
    simp only [Edit.onRows]
    split
    · simp only [List.getElem?_append, List.length_append, List.length_take, List.length_drop,
        List.getElem?_take, List.getElem?_drop, List.length_singleton]
      grind
    · rfl
  | scrollDown top bottom =>
    simp only [Edit.NamesRow] at h
    simp only [Edit.onRows]
    split
    · simp only [List.getElem?_append, List.length_append, List.length_take, List.length_drop,
        List.getElem?_take, List.getElem?_drop, List.length_singleton]
      grind
    · rfl
  | copyRows src dst count =>
    simp only [Edit.NamesRow] at h
    simp only [Edit.onRows, List.getElem?_append, List.length_append, List.length_take,
      List.length_drop, List.getElem?_take, List.getElem?_drop]
    grind
  | eraseLines top bottom =>
    have hout : ¬(top ≤ i ∧ i ≤ bottom) := h
    simp only [Edit.onRows, List.getElem?_mapIdx, if_neg hout, Option.map_id']
  | eraseRange row₁ col₁ row₂ col₂ =>
    simp only [Edit.onRows, List.getElem?_mapIdx]
    cases rows[i]? with
    | none => rfl
    | some r =>
      refine congrArg some (mapCells_eq_self (mapIdx_eq_self fun j hj cell => if_neg ?_))
      simp only [Edit.NamesRow, NotBehind] at h ⊢
      omega
  | eraseChars row col count => exact List.getElem?_modify_ne _ _ (Ne.symm h)
  | insertBlank row col => exact List.getElem?_modify_ne _ _ (Ne.symm h)
  | deleteChars row col count => exact List.getElem?_modify_ne _ _ (Ne.symm h)
  | setCell row col cell => exact List.getElem?_modify_ne _ _ (Ne.symm h)
  | setMark row mark => exact List.getElem?_modify_ne _ _ (Ne.symm h)

/-- A cell that a change of its row leaves alone. -/
theorem getElem?_cells_modify {row : Nat} {change : List Cell → List Cell}
    (h : row = i → ∀ cells, (change cells)[j]? = cells[j]?) :
    (rows.modify row (.mapCells change))[i]?.bind (·.cells[j]?) = rows[i]?.bind (·.cells[j]?) := by
  rw [List.getElem?_modify]
  cases rows[i]? with
  | none => rfl
  | some r =>
    by_cases hi : row = i
    · simpa [hi, TaggedRow.mapCells] using h hi r.cells
    · simp [hi]

/-- **A cell that is not named stays.** -/
theorem getElem?_cells_onRows (h : ¬edit.NamesCell width rows.length i j) :
    (edit.onRows width rows)[i]?.bind (·.cells[j]?) = rows[i]?.bind (·.cells[j]?) := by
  have hrow : ¬edit.NamesRow rows.length i →
      (edit.onRows width rows)[i]?.bind (·.cells[j]?) = rows[i]?.bind (·.cells[j]?) :=
    fun hnot => by rw [getElem?_onRows hnot]
  cases edit with
  | scrollUp top bottom => exact hrow h
  | scrollDown top bottom => exact hrow h
  | copyRows src dst count => exact hrow h
  | eraseLines top bottom => exact hrow h
  | eraseRange row₁ col₁ row₂ col₂ =>
    simp only [Edit.onRows, List.getElem?_mapIdx]
    cases rows[i]? with
    | none => rfl
    | some r =>
      have hout : ¬(NotBehind row₁ (min col₁ (width - 1)) i j ∧
          NotBehind i j (min row₂ (rows.length - 1)) (min col₂ (width - 1))) := h
      simp only [Option.map_some, Option.bind_some, TaggedRow.mapCells, List.getElem?_mapIdx,
        if_neg hout, Option.map_id']
  | eraseChars row col count =>
    refine getElem?_cells_modify fun hi cells => ?_
    have hout : ¬(col ≤ j ∧ j < col + count) := fun hin => h ⟨hi.symm, hin⟩
    simp only [List.getElem?_mapIdx, if_neg hout, Option.map_id']
  | insertBlank row col =>
    refine getElem?_cells_modify fun hi cells => ?_
    have hout : j < col := Nat.not_le.mp fun hin => h ⟨hi.symm, hin⟩
    simp only [List.getElem?_take, List.getElem?_insertIdx]
    grind
  | deleteChars row col count =>
    refine getElem?_cells_modify fun hi cells => ?_
    have hout : j < col := Nat.not_le.mp fun hin => h ⟨hi.symm, hin⟩
    simp only [List.rightpad, List.getElem?_append, List.length_append, List.length_take,
      List.getElem?_take, List.getElem?_replicate]
    grind
  | setCell row col cell =>
    refine getElem?_cells_modify fun hi cells => ?_
    exact List.getElem?_set_ne fun hcol => h ⟨hi.symm, hcol.symm⟩
  | setMark row mark =>
    rw [Edit.onRows, List.getElem?_modify]
    cases rows[i]? with
    | none => rfl
    | some r => by_cases hi : row = i <;> simp [hi, TaggedRow.withTag]

/-- **A tag that is not named stays.** -/
theorem getElem?_tag_onRows (h : ¬edit.NamesTag rows.length i) :
    (edit.onRows width rows)[i]?.bind (·.tag) = rows[i]?.bind (·.tag) := by
  have hrow : ¬edit.NamesRow rows.length i →
      (edit.onRows width rows)[i]?.bind (·.tag) = rows[i]?.bind (·.tag) :=
    fun hnot => by rw [getElem?_onRows hnot]
  have hmodify : ∀ row change,
      (rows.modify row (.mapCells change))[i]?.bind (·.tag) = rows[i]?.bind (·.tag) := by
    intro row change
    rw [List.getElem?_modify]
    cases rows[i]? with
    | none => rfl
    | some r => by_cases hi : row = i <;> simp [hi, TaggedRow.mapCells]
  cases edit with
  | scrollUp top bottom => exact hrow h
  | scrollDown top bottom => exact hrow h
  | copyRows src dst count => exact hrow h
  | eraseLines top bottom => exact hrow h
  | eraseRange row₁ col₁ row₂ col₂ =>
    simp only [Edit.onRows, List.getElem?_mapIdx]
    cases rows[i]? <;> rfl
  | eraseChars row col count => exact hmodify _ _
  | insertBlank row col => exact hmodify _ _
  | deleteChars row col count => exact hmodify _ _
  | setCell row col cell => exact hmodify _ _
  | setMark row mark => exact hrow h

end NotNamed

theorem cell?_eq_tagged (row col : Nat) :
    s.cell? row col = s.tagged[row]?.bind (·.cells[col]?) := by
  rw [getElem?_tagged, cell?]
  cases s.row? row with
  | none => rfl
  | some r => exact Array.getElem?_toList.symm

theorem mark?_eq_tagged (row : Nat) : s.mark? row = s.tagged[row]?.bind (·.tag) := by
  rw [getElem?_tagged, mark?]
  cases s.row? row <;> rfl

variable {edit : Edit} {row : Nat}

/-- **A row that an operation does not name** is left alone. -/
theorem row?_apply (h : ¬edit.NamesRow s.height row) : (edit.apply s).row? row = s.row? row := by
  rw [← length_tagged] at h
  refine Option.map_injective TaggedRow.ofRow_injective ?_
  rw [← getElem?_tagged, tagged_apply, getElem?_onRows h, getElem?_tagged]

/-- **A cell that an operation does not name** is left alone. -/
theorem cell?_apply {col : Nat} (h : ¬edit.NamesCell s.width s.height row col) :
    (edit.apply s).cell? row col = s.cell? row col := by
  rw [← length_tagged] at h
  rw [cell?_eq_tagged, tagged_apply, getElem?_cells_onRows h, ← cell?_eq_tagged]

/-- **A tag that an operation does not name** is left alone. -/
theorem mark?_apply (h : ¬edit.NamesTag s.height row) :
    (edit.apply s).mark? row = s.mark? row := by
  rw [← length_tagged] at h
  rw [mark?_eq_tagged, tagged_apply, getElem?_tag_onRows h, ← mark?_eq_tagged]

/-- An operation leaves a screen as wide and as high as it was. -/
theorem keepsSize_apply (edit : Edit) : KeepsSize (edit.apply ·) := by
  cases edit with
  | scrollUp top bottom => exact .scrollUp top bottom
  | scrollDown top bottom => exact .scrollDown top bottom
  | copyRows src dst count => exact .copyRows src dst count
  | eraseLines top bottom => exact .eraseLines top bottom
  | eraseRange row₁ col₁ row₂ col₂ => exact .eraseRange row₁ col₁ row₂ col₂
  | eraseChars row col count => exact .eraseChars row col count
  | insertBlank row col => exact .insertBlank row col
  | deleteChars row col count => exact .deleteChars row col count
  | setCell row col cell => exact .setCell row col cell
  | setMark row mark => exact .setMark row mark

/-- **An operation that names nothing** does nothing. -/
theorem apply_of_idle (h : edit.Idle s.width s.height) : edit.apply s = s := by
  rw [← length_tagged] at h
  refine ext_tagged (keepsSize_apply edit s).1 ?_
  rw [tagged_apply, onRows_of_idle (fun r hr => s.length_cells_of_mem_tagged hr) h]

end Screen

end GlassTty
