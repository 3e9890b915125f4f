import GlassTty.Proofs.Screen.Access
import GlassTty.Proofs.Screen.RowList

/-!
# Stretches of a list

A list is changed in a stretch of it (`GlassTty.within?`): the stretch is filled, turned around by
some elements, or copied over another one that it may overlap. A stretch that is not within the list
would be an error, and there is no result then.

| change | what comes of it |
|---|---|
| filled (`GlassTty.filled`) | `GlassTty.within?_filled` |
| turned around (`GlassTty.Screen.turned?`) | `GlassTty.turned?_append` |
| turned around the other way (`GlassTty.turnedBack?`) | `GlassTty.turnedBack?_append` |
| copied from elsewhere (`GlassTty.copied?`) | `GlassTty.copied?_eq` |

The cells of rows of one width can stand in such a list, row behind row
(`GlassTty.TaggedRow.cellsOf`). Two facts carry what is shown about it. What is done to each cell by
its place is done to each row by the place of its cells (`GlassTty.TaggedRow.cellsOf_mapIdx`), and
places are in the order of reading (`GlassTty.place_le_iff`), so that filling a stretch comes down
to comparing positions. And a stretch of whole rows, or one within a row, can be changed on its own
(`GlassTty.within?_append`, `GlassTty.TaggedRow.within?_row`).
-/

namespace GlassTty

/-! ### Stretches of a list -/

section Stretches

variable {α : Type}

/-- **Change a stretch** of a list in its place, if there is one. -/
def within? (list : List α) (start stop : Nat) (change : List α → Option (List α)) :
    Option (List α) := do
  let part ← Screen.stretch? list start stop
  let part ← change part
  return list.take start ++ part ++ list.drop stop

/-- Fill a list. -/
def filled (x : α) (list : List α) : Option (List α) :=
  some (list.map fun _ => x)

/-- A list turned around the other way by a number of elements, if it has that many. -/
def turnedBack? (list : List α) (count : Nat) : Option (List α) :=
  if count ≤ list.length then
    some (list.drop (list.length - count) ++ list.take (list.length - count))
  else none

/-- Copy `count` elements from `src` on to `dst`, if there are as many at both places. -/
def copied? (list : List α) (src dst count : Nat) : Option (List α) := do
  let part ← Screen.stretch? list src (src + count)
  let _ ← Screen.stretch? list dst (dst + count)
  return list.take dst ++ part ++ list.drop (dst + count)

/-- **A stretch within a part** of a list can be changed in that part. -/
theorem within?_append {before part behind : List α} {start stop : Nat} (h : start ≤ stop)
    (hstop : stop ≤ part.length) (change : List α → Option (List α)) :
    within? (before ++ part ++ behind) (before.length + start) (before.length + stop) change =
      (within? part start stop change).map fun part => before ++ part ++ behind := by
  have hlist : before.length + stop ≤ (before ++ part ++ behind).length := by
    simp only [List.length_append]
    omega
  have htake : ∀ count ≤ part.length,
      (before ++ part ++ behind).take (before.length + count) = before ++ part.take count := by
    intro count hcount
    rw [List.append_assoc, List.take_length_add_append, List.take_append_of_le_length hcount]
  have hdrop : (before ++ part ++ behind).drop (before.length + stop) =
      part.drop stop ++ behind := by
    rw [List.append_assoc, List.drop_length_add_append, List.drop_append_of_le_length hstop]
  rw [within?, within?, Screen.stretch?_eq (Nat.add_le_add_left h _) hlist,
    Screen.stretch?_eq h hstop, htake stop hstop, htake start (h.trans hstop), hdrop,
    List.drop_length_add_append]
  simp only [Option.bind_eq_bind, Option.bind_some]
  cases change ((part.take stop).drop start) <;> simp

/-- A stretch that is a part. -/
theorem within?_part {before part behind : List α} {start stop : Nat}
    (hstart : before.length = start) (hstop : start + part.length = stop)
    (change : List α → Option (List α)) :
    within? (before ++ part ++ behind) start stop change =
      (change part).map fun part => before ++ part ++ behind := by
  have hall : within? part 0 part.length change = change part := by
    rw [within?, Screen.stretch?_eq (Nat.zero_le _) le_rfl]
    simp only [Option.bind_eq_bind, Option.bind_some, List.take_length, List.drop_zero]
    cases change part <;> simp
  rw [← hall, ← within?_append (Nat.zero_le _) le_rfl, Nat.add_zero, hstart, hstop]

/-- The stretch behind a place. -/
theorem within?_rest (front rest : List α) (change : List α → Option (List α)) :
    within? (front ++ rest) front.length (front.length + rest.length) change =
      (change rest).map (front ++ ·) := by
  have hpart : within? (front ++ rest ++ []) front.length (front.length + rest.length) change =
      (change rest).map fun rest => front ++ rest ++ [] :=
    within?_part rfl rfl change
  simpa only [List.append_nil] using hpart

/-- **A stretch that is filled**, element by element. -/
theorem within?_filled {list : List α} {start stop : Nat} (h : start ≤ stop)
    (hstop : stop ≤ list.length) (x : α) :
    within? list start stop (filled x) =
      some (list.mapIdx fun k y => if start ≤ k ∧ k < stop then x else y) := by
  rw [within?, Screen.stretch?_eq h hstop]
  refine congrArg some (List.ext_getElem? fun k => ?_)
  simp only [List.getElem?_mapIdx, List.getElem?_append, List.length_append, List.length_map,
    List.length_take, List.length_drop, List.getElem?_map, List.getElem?_take, List.getElem?_drop]
  grind

/-- A list has a part in front of each length up to its own. -/
theorem exists_front {list : List α} {count : Nat} (h : count ≤ list.length) :
    ∃ front behind, list = front ++ behind ∧ front.length = count :=
  ⟨_, _, (List.take_append_drop count list).symm, List.length_take_of_le h⟩

/-- The elements `top` through `last` and those around them. -/
theorem eq_around {top last : Nat} (list : List α) (h : top ≤ last) :
    list = list.take top ++ (list.take (last + 1)).drop top ++ list.drop (last + 1) := by
  have htop : list.take top = (list.take (last + 1)).take top := by
    rw [List.take_take, Nat.min_eq_left (by omega)]
  rw [htop, List.take_append_drop, List.take_append_drop]

theorem turnedBack?_eq {list : List α} {count : Nat} (h : count ≤ list.length) :
    turnedBack? list count =
      some (list.drop (list.length - count) ++ list.take (list.length - count)) :=
  if_pos h

/-- Turned around by a part in front. -/
theorem turned?_append (front list : List α) :
    Screen.turned? (front ++ list) front.length = some (list ++ front) := by
  rw [Screen.turned?_eq (by simp), List.drop_left, List.take_left]

/-- Turned around the other way by a part at the end. -/
theorem turnedBack?_append (list back : List α) :
    turnedBack? (list ++ back) back.length = some (back ++ list) := by
  rw [turnedBack?_eq (by simp), List.length_append, Nat.add_sub_cancel, List.drop_left,
    List.take_left]

theorem copied?_eq {list : List α} {src dst count : Nat} (hsrc : src + count ≤ list.length)
    (hdst : dst + count ≤ list.length) :
    copied? list src dst count =
      some (list.take dst ++ (list.drop src).take count ++ list.drop (dst + count)) := by
  rw [copied?, Screen.stretch?_eq (Nat.le_add_right _ _) hsrc,
    Screen.stretch?_eq (Nat.le_add_right _ _) hdst, List.drop_take, Nat.add_sub_cancel_left]
  rfl

end Stretches

/-- **Places and positions**: among the cells a position stands before another one just if it does
in the order of reading. -/
theorem place_le_iff {width row col row' col' : Nat} (hcol : col < width) (hcol' : col' < width) :
    row * width + col ≤ row' * width + col' ↔ Screen.NotBehind row col row' col' := by
  rw [Screen.NotBehind]
  rcases Nat.lt_trichotomy row row' with hlt | rfl | hgt
  · have hrows : (row + 1) * width ≤ row' * width := Nat.mul_le_mul_right _ hlt
    rw [Nat.succ_mul] at hrows
    omega
  · omega
  · have hrows : (row' + 1) * width ≤ row * width := Nat.mul_le_mul_right _ hgt
    rw [Nat.succ_mul] at hrows
    omega

/-! ### Rows of one width -/

namespace TaggedRow

/-- The cells of rows, one row behind the other. -/
def cellsOf (rows : List TaggedRow) : List Cell :=
  rows.flatMap (·.cells)

/-- All rows have the same width. -/
def OfWidth (width : Nat) (rows : List TaggedRow) : Prop :=
  ∀ r ∈ rows, r.cells.length = width

variable {width : Nat} {rows : List TaggedRow}

theorem ofWidth_nil : OfWidth width [] :=
  List.forall_mem_nil _

theorem ofWidth_append {rows' : List TaggedRow} :
    OfWidth width (rows ++ rows') ↔ OfWidth width rows ∧ OfWidth width rows' :=
  List.forall_mem_append

theorem ofWidth_cons {r : TaggedRow} :
    OfWidth width (r :: rows) ↔ r.cells.length = width ∧ OfWidth width rows :=
  List.forall_mem_cons

theorem ofWidth_drop (h : OfWidth width rows) (count : Nat) : OfWidth width (rows.drop count) :=
  fun r hr => h r (List.mem_of_mem_drop hr)

@[simp] theorem cellsOf_nil : cellsOf [] = [] := rfl

@[simp] theorem cellsOf_cons (r : TaggedRow) (rows : List TaggedRow) :
    cellsOf (r :: rows) = r.cells ++ cellsOf rows := rfl

@[simp] theorem cellsOf_append (rows rows' : List TaggedRow) :
    cellsOf (rows ++ rows') = cellsOf rows ++ cellsOf rows' :=
  List.flatMap_append

theorem length_cellsOf (h : OfWidth width rows) : (cellsOf rows).length = rows.length * width := by
  induction rows with
  | nil => simp
  | cons r rows ih =>
    obtain ⟨hr, hrows⟩ := List.forall_mem_cons.mp h
    rw [cellsOf_cons, List.length_append, hr, ih hrows, List.length_cons, Nat.succ_mul,
      Nat.add_comm]

theorem take_cellsOf (h : OfWidth width rows) (count : Nat) :
    (cellsOf rows).take (count * width) = cellsOf (rows.take count) := by
  induction rows generalizing count with
  | nil => simp
  | cons r rows ih =>
    obtain ⟨hr, hrows⟩ := List.forall_mem_cons.mp h
    cases count with
    | zero => simp
    | succ count =>
      rw [cellsOf_cons, Nat.succ_mul, Nat.add_comm, ← hr, List.take_length_add_append, hr,
        ih hrows, List.take_succ_cons, cellsOf_cons]

theorem drop_cellsOf (h : OfWidth width rows) (count : Nat) :
    (cellsOf rows).drop (count * width) = cellsOf (rows.drop count) := by
  induction rows generalizing count with
  | nil => simp
  | cons r rows ih =>
    obtain ⟨hr, hrows⟩ := List.forall_mem_cons.mp h
    cases count with
    | zero => simp
    | succ count =>
      rw [cellsOf_cons, Nat.succ_mul, Nat.add_comm, ← hr, List.drop_length_add_append, hr,
        ih hrows, List.drop_succ_cons]

/-- **Cell by cell is row by row.** -/
theorem cellsOf_mapIdx (h : OfWidth width rows) (change : Nat → Cell → Cell)
    (change' : Nat → TaggedRow → TaggedRow)
    (hchange : ∀ i < rows.length, ∀ r : TaggedRow, r.cells.length = width →
      (change' i r).cells = r.cells.mapIdx fun j => change (i * width + j)) :
    cellsOf (rows.mapIdx change') = (cellsOf rows).mapIdx change := by
  induction rows generalizing change change' with
  | nil => rfl
  | cons r rows ih =>
    obtain ⟨hr, hrows⟩ := List.forall_mem_cons.mp h
    have hfirst := hchange 0 (Nat.succ_pos _) r hr
    have hrest := ih hrows (fun k => change (k + width)) (fun i => change' (i + 1))
      fun i hi r hr => by
        rw [hchange (i + 1) (Nat.succ_lt_succ hi) r hr]
        simp only [Nat.succ_mul, Nat.add_right_comm]
    rw [List.mapIdx_cons, cellsOf_cons, hfirst, hrest, cellsOf_cons, List.mapIdx_append, hr]
    simp

/-- **A stretch within a row** can be changed in that row. -/
theorem within?_row (h : OfWidth width rows) {row : Nat} {r : TaggedRow} (hr : rows[row]? = some r)
    {col stop : Nat} (hcol : col ≤ stop) (hstop : stop ≤ width)
    (change : List Cell → Option (List Cell)) :
    within? (cellsOf rows) (row * width + col) (row * width + stop) change =
      (within? r.cells col stop change).map fun cells =>
        cellsOf (rows.set row { r with cells }) := by
  obtain ⟨hrow, hget⟩ := List.getElem?_eq_some_iff.mp hr
  have hwidth : r.cells.length = width := h r (List.mem_of_getElem? hr)
  have hbefore : (cellsOf (rows.take row)).length = row * width := by
    rw [length_cellsOf fun r hr => h r (List.mem_of_mem_take hr), List.length_take,
      Nat.min_eq_left hrow.le]
  have hrows : rows = rows.take row ++ [r] ++ rows.drop (row + 1) := by
    rw [List.append_assoc, List.singleton_append, ← hget, List.getElem_cons_drop,
      List.take_append_drop]
  have hset : ∀ cells, cellsOf (rows.set row { r with cells }) =
      cellsOf (rows.take row) ++ cells ++ cellsOf (rows.drop (row + 1)) := by
    intro cells
    rw [List.set_eq_take_append_cons_drop, if_pos hrow]
    simp
  have hcells : cellsOf rows =
      cellsOf (rows.take row) ++ r.cells ++ cellsOf (rows.drop (row + 1)) := by
    conv_lhs => rw [hrows]
    simp
  simp only [hset]
  rw [hcells, ← hbefore, within?_append hcol (hwidth.symm ▸ hstop)]

theorem cellsOf_replicate (count : Nat) :
    cellsOf (List.replicate count (.blank width)) = List.replicate (count * width) .blank := by
  induction count with
  | zero => simp
  | succ count ih =>
    rw [List.replicate_succ, cellsOf_cons, ih, TaggedRow.blank, List.replicate_append_replicate,
      Nat.succ_mul, Nat.add_comm]

/-- Copied rows, cells and tags. -/
theorem copied?_cellsOf (h : OfWidth width rows) {src dst count : Nat}
    (hsrc : src + count ≤ rows.length) (hdst : dst + count ≤ rows.length) :
    copied? (cellsOf rows) (src * width) (dst * width) (count * width) =
      some (cellsOf (rows.take dst ++ (rows.drop src).take count ++ rows.drop (dst + count))) := by
  have hlength : ∀ first, first + count ≤ rows.length →
      first * width + count * width ≤ (cellsOf rows).length := by
    intro first hfirst
    rw [length_cellsOf h, ← Nat.add_mul]
    exact Nat.mul_le_mul_right _ hfirst
  rw [copied?_eq (hlength src hsrc) (hlength dst hdst), take_cellsOf h, drop_cellsOf h,
    take_cellsOf (ofWidth_drop h src), ← Nat.add_mul, drop_cellsOf h, cellsOf_append,
    cellsOf_append]

theorem copied?_tags {src dst count : Nat}
    (hsrc : src + count ≤ rows.length) (hdst : dst + count ≤ rows.length) :
    copied? (rows.map (·.tag)) src dst count =
      some ((rows.take dst ++ (rows.drop src).take count ++
        rows.drop (dst + count)).map (·.tag)) := by
  rw [copied?_eq (by rwa [List.length_map]) (by rwa [List.length_map])]
  simp only [List.map_append, List.map_take, List.map_drop]

/-- Changed cells leave the tags alone. -/
theorem tags_mapIdx (rows : List TaggedRow) (change : Nat → List Cell → List Cell) :
    (rows.mapIdx fun i => mapCells (change i)).map (·.tag) = rows.map (·.tag) := by
  refine List.ext_getElem? fun i => ?_
  rw [List.getElem?_map, List.getElem?_mapIdx, List.getElem?_map]
  cases rows[i]? <;> rfl

/-- A change of a row that is known. -/
theorem modify_eq_set {row : Nat} {r : TaggedRow} (hr : rows[row]? = some r)
    (change : TaggedRow → TaggedRow) :
    rows.modify row change = rows.set row (change r) := by
  rw [List.modify_eq_set_getElem?, hr]
  rfl

end TaggedRow

/-! ### The cells of one row -/

/-- **A blank comes in** at a column, and the last cell of the row goes. -/
theorem within?_insertBlank {cells : List Cell} {col : Nat} (h : col < cells.length) :
    ∃ turned, within? cells col cells.length (turnedBack? · 1) = some turned ∧
      turned.length = cells.length ∧
      within? turned col (col + 1) (filled .blank) =
        some ((cells.insertIdx col .blank).take cells.length) := by
  obtain ⟨front, behind, rfl, rfl⟩ := exists_front h.le
  have hbehind : behind ≠ [] := by
    rintro rfl
    simp at h
  obtain ⟨rest, last, rfl⟩ : ∃ rest last, behind = rest ++ [last] :=
    ⟨_, _, (List.dropLast_append_getLast hbehind).symm⟩
  have hturned : turnedBack? (rest ++ [last]) 1 = some ([last] ++ rest) :=
    turnedBack?_append rest [last]
  -- the last cell comes to the column, where the blank one overwrites it
  refine ⟨front ++ [last] ++ rest, ?_, by simp, ?_⟩
  · rw [List.length_append, within?_rest, hturned, List.append_assoc]
    rfl
  · refine (within?_part rfl rfl _).trans (congrArg some (List.ext_getElem? fun j => ?_))
    simp only [List.getElem?_take, List.getElem?_insertIdx, List.getElem?_append,
      List.length_append, List.map_cons, List.map_nil]
    grind

/-- **Cells go** from a column on, no more than there are, and as many blank ones come in at the end
of the row. -/
theorem within?_deleteChars {cells : List Cell} {col count gone : Nat} (h : col < cells.length)
    (hgone : gone = min count (cells.length - col)) :
    ∃ turned, within? cells col cells.length (Screen.turned? · gone) = some turned ∧
      turned.length = cells.length ∧
      within? turned (cells.length - gone) cells.length (filled .blank) =
        some ((cells.take col ++ cells.drop (col + count)).rightpad cells.length .blank) := by
  obtain ⟨front, behind, rfl, rfl⟩ := exists_front h.le
  rw [List.length_append, Nat.add_sub_cancel_left] at hgone
  obtain ⟨lost, kept, rfl, rfl⟩ := exists_front (by omega : gone ≤ behind.length)
  -- if there are fewer cells than are to go, all of them go
  have hkept : (lost ++ kept).drop count = kept := by
    rw [List.length_append] at hgone
    rcases (by omega : count = lost.length ∨ kept.length = 0) with rfl | hnone
    · exact List.drop_left
    · rw [List.length_eq_zero_iff.mp hnone, List.append_nil, List.drop_of_length_le (by omega)]
  have hlength : (front ++ (lost ++ kept)).length = (front ++ kept).length + lost.length := by
    simp only [List.length_append]
    omega
  refine ⟨front ++ kept ++ lost, ?_, ?_, ?_⟩
  · rw [List.length_append, within?_rest, turned?_append, List.append_assoc]
    rfl
  · rw [hlength, List.length_append]
  · rw [List.take_left, List.drop_length_add_append, hkept, hlength, Nat.add_sub_cancel,
      within?_rest, List.rightpad, Nat.add_sub_cancel_left, filled, List.map_const']
    rfl

end GlassTty
