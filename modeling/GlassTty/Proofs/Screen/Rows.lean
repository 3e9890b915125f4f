import GlassTty.Screen.Screen
import Mathlib.Data.List.TakeWhile

/-!
# What stands in the rows

Where each row of a screen comes from after an operation, for the operations that writing from top
to bottom is made of, and what it means that a row holds a text and nothing else
(`GlassTty.Row.Holds`): its characters stand in the first columns, and the columns behind them were
never written.
-/

namespace GlassTty

namespace Screen

variable (s : Screen)

/-! ### Rows after an operation -/

theorem row?_eq_some_of_lt {i : Nat} (h : i < s.height) : ∃ r, s.row? i = some r :=
  ⟨s.rows[i], Array.getElem?_eq_getElem h⟩

variable {s} in
theorem lt_height_of_row? {i : Nat} {r : Row} (h : s.row? i = some r) : i < s.height :=
  (Array.getElem?_eq_some_iff.mp h).1

theorem row?_modifyRow (row : Nat) (change : Row → Row) (keeps) (i : Nat) :
    (s.modifyRow row change keeps).row? i =
      if row = i then (s.row? i).map change else s.row? i :=
  Array.getElem?_modify

theorem row?_rearrange (source : Nat → Option Nat) (i : Nat) :
    (s.rearrange source).row? i = if i < s.height then some (s.rowFrom (source i)) else none :=
  Array.getElem?_ofFn

/-- A rearrangement that leaves a row where it is. -/
theorem rowFrom_some {i : Nat} (h : i < s.height) : some (s.rowFrom (some i)) = s.row? i := by
  obtain ⟨r, hr⟩ := s.row?_eq_some_of_lt h
  rw [rowFrom, Option.bind_some, show s.rows[i]? = some r from hr, Option.getD_some, hr]

theorem row?_eraseLines (top bottom i : Nat) :
    (s.eraseLines top bottom).row? i =
      if top ≤ i ∧ i ≤ bottom ∧ i < s.height then some (Row.blank s.width) else s.row? i := by
  rw [eraseLines, row?_rearrange]
  rcases Nat.lt_or_ge i s.height with hi | hi
  · rw [if_pos hi]
    split
    · next h => rw [if_pos ⟨h.1, h.2, hi⟩]; rfl
    · next h => rw [if_neg fun h' => h ⟨h'.1, h'.2.1⟩, s.rowFrom_some hi]
  · rw [if_neg (Nat.not_lt.mpr hi), if_neg fun h => absurd h.2.2 (Nat.not_lt.mpr hi)]
    exact (Array.getElem?_eq_none hi).symm

/-- Scrolling up brings each row of the region to the place above it. -/
theorem row?_scrollUp {top bottom : Nat} (h : top ≤ bottom) (hbottom : bottom < s.height)
    (i : Nat) :
    (s.scrollUp top bottom).row? i =
      if i = bottom then some (Row.blank s.width)
      else if top ≤ i ∧ i < bottom then s.row? (i + 1)
      else s.row? i := by
  rw [scrollUp, if_pos ⟨h, hbottom⟩, row?_rearrange]
  rcases Nat.lt_or_ge i s.height with hi | hi
  · rw [if_pos hi]
    split
    · rfl
    · split
      · next hin => exact s.rowFrom_some (by omega)
      · exact s.rowFrom_some hi
  · rw [if_neg (Nat.not_lt.mpr hi), if_neg (by omega), if_neg (by omega)]
    exact (Array.getElem?_eq_none hi).symm

/-- Rows that are copied to the top come up from below. -/
theorem row?_copyRows_zero {src count : Nat} (h : src + count ≤ s.height) (i : Nat) :
    (s.copyRows src 0 count).row? i = if i < count then s.row? (src + i) else s.row? i := by
  have hcount : min count (min (s.height - src) (s.height - 0)) = count := by omega
  rw [copyRows, hcount, row?_rearrange]
  rcases Nat.lt_or_ge i s.height with hi | hi
  · rw [if_pos hi]
    rcases Nat.lt_or_ge i count with hlt | hge
    · rw [if_pos (by omega), if_pos hlt, Nat.sub_zero]
      exact s.rowFrom_some (by omega)
    · rw [if_neg (by omega), if_neg (by omega)]
      exact s.rowFrom_some hi
  · rw [if_neg (Nat.not_lt.mpr hi), if_neg (by omega)]
    exact (Array.getElem?_eq_none hi).symm

/-- **Rows come up** when those above them are dropped: the first rows are those that were further
down, and nothing stands below them. -/
theorem row?_comeUp {src count : Nat} (h : src + count ≤ s.height) (i : Nat) :
    ((s.copyRows src 0 count).eraseLines count (s.height - 1)).row? i =
      if i < count then s.row? (src + i)
      else if i < s.height then some (Row.blank s.width) else none := by
  have hsize : (s.copyRows src 0 count).height = s.height := height_rearrange _ _
  rw [row?_eraseLines, hsize, row?_copyRows_zero s h]
  rcases Nat.lt_or_ge i count with hlt | hge
  · rw [if_neg (by omega), if_pos hlt, if_pos hlt]
  · rw [if_neg (Nat.not_lt.mpr hge), if_neg (Nat.not_lt.mpr hge)]
    rcases Nat.lt_or_ge i s.height with hi | hi
    · rw [if_pos (by omega), if_pos hi]
      rfl
    · rw [if_neg (by omega), if_neg (Nat.not_lt.mpr hi)]
      exact Array.getElem?_eq_none hi

/-! ### The first rows -/

/-- The first rows, from the top. -/
def firstRows (s : Screen) (count : Nat) : List Row :=
  s.rows.toList.take count

theorem getElem?_firstRows (count i : Nat) :
    (s.firstRows count)[i]? = if i < count then s.row? i else none := by
  rw [firstRows, List.getElem?_take, Array.getElem?_toList]
  rfl

theorem length_firstRows {count : Nat} (h : count ≤ s.height) :
    (s.firstRows count).length = count := by
  rw [firstRows, List.length_take, Array.length_toList]
  exact Nat.min_eq_left h

variable {s} in
/-- The first rows, and one more. -/
theorem firstRows_succ {count : Nat} {row : Row} (h : s.row? count = some row) :
    s.firstRows (count + 1) = s.firstRows count ++ [row] := by
  have hrow : s.rows.toList[count]? = some row := by rwa [Array.getElem?_toList]
  rw [firstRows, List.take_add_one, hrow]
  rfl

/-- The texts of the first rows. -/
theorem map_text_firstRows {count : Nat} (h : count ≤ s.height) :
    (s.firstRows count).map Row.text = (List.range count).map s.rowText := by
  induction count with
  | zero => rfl
  | succ count ih =>
    obtain ⟨row, hrow⟩ := s.row?_eq_some_of_lt (i := count) (by omega)
    rw [firstRows_succ hrow, List.map_append, ih (by omega), List.range_succ, List.map_append,
      List.map_singleton, List.map_singleton, rowText, hrow]
    rfl

/-- What is done to a row leaves those above it alone. -/
theorem firstRows_modifyRow (row : Nat) (change : Row → Row) (keeps) :
    (s.modifyRow row change keeps).firstRows row = s.firstRows row := by
  refine List.ext_getElem? fun i => ?_
  rw [getElem?_firstRows, getElem?_firstRows]
  split
  · rw [row?_modifyRow, if_neg (by omega)]
  · rfl

/-- **When the whole screen scrolls up** the first row goes, and those behind it come up. -/
theorem firstRows_scrollUp {bottom : Nat} (hbottom : bottom + 1 = s.height) {top : Row}
    (htop : s.row? 0 = some top) :
    top :: (s.scrollUp 0 bottom).firstRows bottom = s.firstRows (bottom + 1) := by
  refine List.ext_getElem? fun i => ?_
  cases i with
  | zero =>
    rw [getElem?_firstRows, if_pos (Nat.succ_pos bottom), htop]
    rfl
  | succ i =>
    rw [List.getElem?_cons_succ, getElem?_firstRows, getElem?_firstRows,
      row?_scrollUp s (Nat.zero_le bottom) (by omega)]
    rcases Nat.lt_or_ge i bottom with hlt | hge
    · rw [if_pos hlt, if_neg (by omega), if_pos (by omega), if_pos (by omega)]
    · rw [if_neg (by omega), if_neg (by omega)]

end Screen

/-- A text as it is drawn. -/
def shownText (text : List Char) : String :=
  String.ofList (text.map fun c => displayChar c.toNat)

namespace Row

/-- **The row holds a text**: its characters stand in the first columns, none of them is the one
that a blank cell has, and all other cells are blank. -/
structure Holds (r : Row) (text : List Char) : Prop where
  written : ∀ c ∈ text, c ≠ '\x00'
  cells : ∃ blanks, r.cells.toList.map Cell.char = text ++ List.replicate blanks '\x00'

variable {r : Row} {text : List Char}

theorem holds_blank (width : Nat) : (blank width).Holds [] where
  written := fun _ h => by cases h
  cells := ⟨width, by simp [blank, Cell.blank]⟩

theorem Holds.withMark (h : r.Holds text) (mark : Option PromptMark) :
    (r.withMark mark).Holds text :=
  ⟨h.written, h.cells⟩

/-- A character that is put behind the text goes on with it. -/
theorem Holds.set (h : r.Holds text) (hroom : text.length < r.cells.size) {c : Char}
    (hc : c ≠ '\x00') (style : Style) :
    (r.set text.length ⟨c, style⟩).Holds (text ++ [c]) where
  written := by
    intro d hd
    rcases List.mem_append.mp hd with hd | hd
    · exact h.written d hd
    · rw [List.mem_singleton.mp hd]
      exact hc
  cells := by
    obtain ⟨blanks, hcells⟩ := h.cells
    have hsize : r.cells.size = text.length + blanks := by
      rw [← Array.length_toList, ← List.length_map Cell.char, hcells]
      simp
    obtain ⟨rest, rfl⟩ : ∃ rest, blanks = rest + 1 := ⟨blanks - 1, by omega⟩
    refine ⟨rest, ?_⟩
    rw [Row.set, Array.toList_setIfInBounds, List.map_set, hcells, List.set_append_right _ _ le_rfl,
      Nat.sub_self, List.replicate_succ, List.set_cons_zero, List.append_assoc,
      List.singleton_append]

/-- **The text of a row that holds one** is that text as it is drawn. -/
theorem Holds.text_eq (h : r.Holds text) : r.text = shownText text := by
  obtain ⟨blanks, hcells⟩ := h.cells
  have htrim : (trimBlank r.cells.toList).map Cell.char = text := by
    have hblank : Cell.isBlank = (fun c => decide (c = '\x00')) ∘ Cell.char := rfl
    have hreverse : text.reverse.dropWhile (fun c => decide (c = '\x00')) = text.reverse :=
      List.dropWhile_eq_self_iff.mpr fun hlen => by
        have := h.written _ (List.mem_reverse.mp (List.getElem_mem hlen))
        simpa using this
    rw [trimBlank, List.map_reverse, hblank, ← List.dropWhile_map, List.map_reverse, hcells,
      List.reverse_append, List.reverse_replicate, List.dropWhile_append_of_pos (by simp),
      hreverse, List.reverse_reverse]
  rw [Row.text, rowText, rowChars, shownText, ← htrim, List.map_map]
  rfl

/-! ### The cells before a column -/

/-- The characters in the cells. -/
def chars (r : Row) : List Char :=
  r.cells.toList.map (·.char)

theorem length_chars (r : Row) : r.chars.length = r.cells.size := by
  rw [chars, List.length_map, Array.length_toList]

/-- A character that is put into a cell stands behind those before. -/
theorem take_chars_set (r : Row) {col : Nat} (hcol : col < r.cells.size) (cell : Cell) :
    (r.set col cell).chars.take (col + 1) = r.chars.take col ++ [cell.char] := by
  have hcells : (r.set col cell).chars = r.chars.set col cell.char := by
    rw [chars, chars, set, Array.toList_setIfInBounds, List.map_set]
  rw [hcells, List.take_add_one, List.take_set_of_le le_rfl,
    List.getElem?_set_self (r.length_chars ▸ hcol)]
  rfl

end Row

end GlassTty
