import GlassTty.Proofs.Screen.Stretches
import GlassTty.Proofs.Terminal.Checked

/-!
# A screen laid out in two lists

The cells of all rows can stand in one list, row behind row, and the tags in another one
(`GlassTty.Layout`). An operation then takes stretches of these lists, from one computed place to
another, and turns them around, fills them or copies them (`GlassTty.Layout.edit?`); a stretch that
is not within its list would be an error.

| operation | on the two lists |
|---|---|
| scroll up, scroll down | a region is turned around by a row, and a row is filled |
| copy rows | a stretch is copied over another one, which it may overlap |
| erase | a stretch is filled |
| insert a cell, delete cells | the rest of a row is turned around, and the end of it is filled |

There is no such error, and read as rows (`GlassTty.Layout.rows`) the lists change as the list of
rows does (`GlassTty.Layout.edit?_ofRows`). An operation that names nothing is looked at first
(`GlassTty.Layout.edit?_of_idle`); the stretches of all others are within the lists. For screens
that is `GlassTty.Layout.edit?_follows_rows`, and for one operation after the other
`GlassTty.Layout.foldlM_edit?`.
-/

namespace GlassTty

/-! ### The two lists -/

/-- **The cells and the tags of a screen** in two lists, with its size. -/
structure Layout where
  width : Nat
  height : Nat
  cells : List Cell
  marks : List (Option PromptMark)
  deriving DecidableEq, Repr

/-- A screen laid out. -/
def Screen.layout (s : Screen) : Layout :=
  ⟨s.width, s.height, s.cells, s.marks⟩

namespace Layout

open TaggedRow

/-- Rows laid out. -/
def ofRows (width : Nat) (rows : List TaggedRow) : Layout :=
  ⟨width, rows.length, cellsOf rows, rows.map (·.tag)⟩

/-- **The rows of a layout**: each has its stretch of the cells and its place among the tags. -/
def rows (l : Layout) : List TaggedRow :=
  (List.range l.height).map fun i =>
    ⟨(l.cells.drop (i * l.width)).take l.width, (l.marks[i]?).join⟩

/-- Where the cell of a row and a column stands. -/
def place (l : Layout) (row col : Nat) : Nat :=
  row * l.width + col

/-- Change a stretch of the cells. -/
def onCells? (l : Layout) (start stop : Nat) (change : List Cell → Option (List Cell)) :
    Option Layout := do
  let cells ← within? l.cells start stop change
  return { l with cells }

/-- Change the rows `top` through `bottom`, cells and tags. -/
def onRegion? (l : Layout) (top bottom : Nat) (onCells : List Cell → Option (List Cell))
    (onMarks : List (Option PromptMark) → Option (List (Option PromptMark))) : Option Layout := do
  let cells ← within? l.cells (l.place top 0) (l.place bottom 0 + l.width) onCells
  let marks ← within? l.marks top (bottom + 1) onMarks
  return { l with cells, marks }

/-- Erase whole rows. -/
def eraseLines? (l : Layout) (top bottom : Nat) : Option Layout :=
  let last := min bottom (l.height - 1)
  if l.height ≤ top ∨ last < top then some l
  else l.onRegion? top last (filled .blank) (filled none)

/-- **The operation on the two lists.** -/
def edit? (l : Layout) : Screen.Edit → Option Layout
  | .scrollUp top bottom => do
    if bottom < top ∨ l.height ≤ bottom then return l
    let l ← l.onRegion? top bottom (Screen.turned? · l.width) (Screen.turned? · 1)
    -- the row that was on top is at the bottom now
    l.eraseLines? bottom bottom
  | .scrollDown top bottom => do
    if bottom < top ∨ l.height ≤ bottom then return l
    let l ← l.onRegion? top bottom (turnedBack? · l.width) (turnedBack? · 1)
    l.eraseLines? top top
  | .copyRows src dst count => do
    let count := min (min count (l.height - src)) (l.height - dst)
    if count = 0 ∨ src = dst then return l
    let cells ← copied? l.cells (l.place src 0) (l.place dst 0) (count * l.width)
    let marks ← copied? l.marks src dst count
    return { l with cells, marks }
  | .eraseLines top bottom => l.eraseLines? top bottom
  | .eraseRange row₁ col₁ row₂ col₂ =>
    let last := l.cells.length - 1
    let start := l.place row₁ (min col₁ (l.width - 1))
    let stop := min (l.place (min row₂ (l.height - 1)) (min col₂ (l.width - 1))) last
    if l.height ≤ row₁ ∨ stop < start then some l
    else l.onCells? start (stop + 1) (filled .blank)
  | .eraseChars row col count =>
    let stop := min (addUpTo col count) l.width
    if l.height ≤ row ∨ l.width ≤ col ∨ count = 0 then some l
    else l.onCells? (l.place row col) (l.place row 0 + stop) (filled .blank)
  | .insertBlank row col => do
    if l.height ≤ row ∨ l.width ≤ col then return l
    let l ← l.onCells? (l.place row col) (l.place row 0 + l.width) (turnedBack? · 1)
    l.onCells? (l.place row col) (l.place row col + 1) (filled .blank)
  | .deleteChars row col count => do
    if l.height ≤ row ∨ l.width ≤ col ∨ count = 0 then return l
    let start := l.place row col
    let stop := l.place row 0 + l.width
    -- no more cells go than there are up to the end of the row
    let gone := min count (stop - start)
    let l ← l.onCells? start stop (Screen.turned? · gone)
    l.onCells? (stop - gone) stop (filled .blank)
  | .setCell row col cell =>
    if l.height ≤ row ∨ l.width ≤ col then some l
    else l.onCells? (l.place row col) (l.place row col + 1) (filled cell)
  | .setMark row mark => some { l with marks := l.marks.set row mark }

/-! ### Whole rows -/

variable {width : Nat}

@[simp] theorem width_ofRows (rows : List TaggedRow) : (ofRows width rows).width = width := rfl

@[simp] theorem height_ofRows (rows : List TaggedRow) :
    (ofRows width rows).height = rows.length := rfl

@[simp] theorem place_ofRows (rows : List TaggedRow) (row col : Nat) :
    (ofRows width rows).place row col = row * width + col := rfl

theorem rows_ofRows {rows : List TaggedRow} (h : OfWidth width rows) :
    (ofRows width rows).rows = rows := by
  refine List.ext_getElem (by simp [Layout.rows, ofRows]) fun i _ hi => ?_
  have hrow : rows[i].cells.length = width := h _ (List.getElem_mem hi)
  simp only [Layout.rows, ofRows, List.getElem_map, List.getElem_range]
  rw [drop_cellsOf h, List.drop_eq_getElem_cons hi, cellsOf_cons, ← hrow, List.take_left,
    List.getElem?_map, List.getElem?_eq_getElem hi]
  rfl

/-- **Some rows in the middle** that are changed as a whole. -/
theorem onRegion?_ofRows (onCells : List Cell → Option (List Cell))
    (onMarks : List (Option PromptMark) → Option (List (Option PromptMark)))
    {before region behind : List TaggedRow} (h : OfWidth width (before ++ region ++ behind))
    (region' : List TaggedRow) {top bottom : Nat} (htop : before.length = top)
    (hbottom : top + region.length = bottom + 1) (hlength : region'.length = region.length)
    (hcells : onCells (cellsOf region) = some (cellsOf region'))
    (hmarks : onMarks (region.map (·.tag)) = some (region'.map (·.tag))) :
    (ofRows width (before ++ region ++ behind)).onRegion? top bottom onCells onMarks =
      some (ofRows width (before ++ region' ++ behind)) := by
  obtain ⟨hbefore, hregion⟩ := ofWidth_append.mp (ofWidth_append.mp h).1
  have hstart : (cellsOf before).length = top * width := by
    rw [length_cellsOf hbefore, htop]
  have hstop : top * width + (cellsOf region).length = bottom * width + width := by
    rw [length_cellsOf hregion, ← Nat.add_mul, hbottom, Nat.succ_mul]
  have hmarksStart : (before.map (·.tag)).length = top := by
    rw [List.length_map, htop]
  have hmarksStop : top + (region.map (·.tag)).length = bottom + 1 := by
    rw [List.length_map, hbottom]
  simp only [onRegion?, ofRows, place, Nat.add_zero, cellsOf_append, List.map_append]
  rw [within?_part hstart hstop, hcells, within?_part hmarksStart hmarksStop, hmarks]
  simp [hlength]

/-- **Some rows in the middle** that are erased. -/
theorem eraseLines?_middle {before region behind : List TaggedRow} {top : Nat} (bottom : Nat)
    (h : OfWidth width (before ++ region ++ behind)) (hregion : region ≠ [])
    (htop : before.length = top)
    (hbottom : top + region.length = min bottom ((before ++ region ++ behind).length - 1) + 1) :
    (ofRows width (before ++ region ++ behind)).eraseLines? top bottom =
      some (ofRows width (before ++ List.replicate region.length (.blank width) ++ behind)) := by
  have hpos : 0 < region.length := List.length_pos_iff.mpr hregion
  have hrest : before.length + region.length ≤ (before ++ region ++ behind).length := by
    simp
  have hcells : filled Cell.blank (cellsOf region) =
      some (cellsOf (List.replicate region.length (.blank width))) := by
    rw [filled, List.map_const', cellsOf_replicate,
      length_cellsOf (ofWidth_append.mp (ofWidth_append.mp h).1).2]
  have hmarks : filled none (region.map (·.tag)) =
      some ((List.replicate region.length (TaggedRow.blank width)).map (·.tag)) := by
    simp [filled, TaggedRow.blank, Function.comp_def]
  rw [eraseLines?, if_neg (by simp only [ofRows]; omega)]
  exact onRegion?_ofRows _ _ h _ htop hbottom (by simp) hcells hmarks

/-- Erased rows as a part of the list. -/
theorem onRows_eraseLines {rows : List TaggedRow} {top bottom last : Nat}
    (hlast : last = min bottom (rows.length - 1)) (h : top ≤ last) (htop : top < rows.length) :
    (Screen.Edit.eraseLines top bottom).onRows width rows =
      rows.take top ++ List.replicate (last + 1 - top) (.blank width) ++ rows.drop (last + 1) := by
  refine List.ext_getElem? fun i => ?_
  simp only [Screen.Edit.onRows, List.getElem?_mapIdx, List.getElem?_append, List.length_append,
    List.length_take, List.length_replicate, List.getElem?_take, List.getElem?_replicate,
    List.getElem?_drop]
  grind

theorem eraseLines?_ofRows {rows : List TaggedRow} (h : OfWidth width rows) {top bottom : Nat}
    (hle : top ≤ bottom) (htop : top < rows.length) :
    (ofRows width rows).eraseLines? top bottom =
      some (ofRows width ((Screen.Edit.eraseLines top bottom).onRows width rows)) := by
  obtain ⟨last, hlast⟩ : ∃ last, last = min bottom (rows.length - 1) := ⟨_, rfl⟩
  have hsplit := eq_around rows (by omega : top ≤ last)
  have hregion : ((rows.take (last + 1)).drop top).length = last + 1 - top := by
    rw [List.length_drop, List.length_take, Nat.min_eq_left (by omega)]
  have hmiddle := eraseLines?_middle bottom (hsplit ▸ h) (List.ne_nil_of_length_pos (by omega))
    (List.length_take_of_le (by omega)) (by rw [← hsplit, hregion]; omega)
  rw [← hsplit, hregion] at hmiddle
  rw [hmiddle, onRows_eraseLines hlast (by omega) htop]

/-- **Scrolled up**: the row on top is turned around to the bottom and erased there. -/
theorem scrollUp_middle {before rest behind : List TaggedRow} {r : TaggedRow}
    (h : OfWidth width (before ++ (r :: rest) ++ behind)) {top bottom : Nat}
    (htop : before.length = top) (hbottom : top + rest.length = bottom) :
    (ofRows width (before ++ (r :: rest) ++ behind)).edit? (.scrollUp top bottom) =
      some (ofRows width (before ++ rest ++ [.blank width] ++ behind)) := by
  have hlength : bottom < (before ++ (r :: rest) ++ behind).length := by
    simp only [List.length_append, List.length_cons]
    omega
  have hr : r.cells.length = width := h r (by simp)
  have hcells : Screen.turned? (cellsOf (r :: rest)) width = some (cellsOf (rest ++ [r])) := by
    rw [cellsOf_cons, ← hr, turned?_append]
    simp
  have hmarks : Screen.turned? ((r :: rest).map (·.tag)) 1 =
      some ((rest ++ [r]).map (·.tag)) := by
    rw [List.map_append]
    exact turned?_append [r.tag] _
  have hbottom' : top + (r :: rest).length = bottom + 1 := by
    rw [List.length_cons]
    omega
  have hregion := onRegion?_ofRows (Screen.turned? · width) (Screen.turned? · 1) h (rest ++ [r])
    htop hbottom' (by simp) hcells hmarks
  have hturned : OfWidth width (before ++ rest ++ [r] ++ behind) := by
    simp only [ofWidth_append, ofWidth_cons, ofWidth_nil] at h ⊢
    tauto
  -- what is erased is the one row that was turned around
  have herase := eraseLines?_middle bottom hturned (List.cons_ne_nil r [])
    (by rw [List.length_append, htop, hbottom])
    (by rw [Nat.min_eq_left (by simp; omega)]; rfl)
  rw [← List.append_assoc] at hregion
  simp only [edit?]
  rw [if_neg (by simp only [ofRows]; omega)]
  exact Option.bind_eq_some_iff.mpr ⟨_, hregion, herase⟩

/-- **Scrolled down**: the row at the bottom is turned around to the top and erased there. -/
theorem scrollDown_middle {before rest behind : List TaggedRow} {r : TaggedRow}
    (h : OfWidth width (before ++ (rest ++ [r]) ++ behind)) {top bottom : Nat}
    (htop : before.length = top) (hbottom : top + rest.length = bottom) :
    (ofRows width (before ++ (rest ++ [r]) ++ behind)).edit? (.scrollDown top bottom) =
      some (ofRows width (before ++ [.blank width] ++ (rest ++ behind))) := by
  have hlength : bottom < (before ++ (rest ++ [r]) ++ behind).length := by
    simp only [List.length_append, List.length_singleton]
    omega
  have hr : r.cells.length = width := h r (by simp)
  have hcells : turnedBack? (cellsOf (rest ++ [r])) width = some (cellsOf (r :: rest)) := by
    rw [cellsOf_append, cellsOf_cons, cellsOf_nil, List.append_nil, ← hr, turnedBack?_append]
    rfl
  have hmarks : turnedBack? ((rest ++ [r]).map (·.tag)) 1 = some ((r :: rest).map (·.tag)) := by
    rw [List.map_append]
    exact turnedBack?_append _ [r.tag]
  have hbottom' : top + (rest ++ [r]).length = bottom + 1 := by
    rw [List.length_append, List.length_singleton]
    omega
  have hregion := onRegion?_ofRows (turnedBack? · width) (turnedBack? · 1) h (r :: rest)
    htop hbottom' (by simp) hcells hmarks
  have hturned : OfWidth width (before ++ [r] ++ (rest ++ behind)) := by
    simp only [ofWidth_append, ofWidth_cons, ofWidth_nil] at h ⊢
    tauto
  have herase := eraseLines?_middle top hturned (List.cons_ne_nil r []) htop (by simp; omega)
  have hassoc : before ++ (r :: rest) ++ behind = before ++ [r] ++ (rest ++ behind) := by simp
  rw [hassoc] at hregion
  simp only [edit?]
  rw [if_neg (by simp only [ofRows]; omega)]
  exact Option.bind_eq_some_iff.mpr ⟨_, hregion, herase⟩

theorem scrollUp_ofRows {rows : List TaggedRow} (h : OfWidth width rows) {top bottom : Nat}
    (hle : top ≤ bottom) (hbottom : bottom < rows.length) :
    (ofRows width rows).edit? (.scrollUp top bottom) =
      some (ofRows width ((Screen.Edit.scrollUp top bottom).onRows width rows)) := by
  have htop : top < (rows.take (bottom + 1)).length := by
    rw [List.length_take]
    omega
  have hsplit := eq_around rows hle
  rw [List.drop_eq_getElem_cons htop] at hsplit
  have hmiddle := scrollUp_middle (hsplit ▸ h) (List.length_take_of_le (by omega))
    (by rw [List.length_drop, List.length_take]; omega : _ = bottom)
  rw [← hsplit] at hmiddle
  rw [hmiddle, Screen.Edit.onRows, if_pos ⟨hle, hbottom⟩]

theorem scrollDown_ofRows {rows : List TaggedRow} (h : OfWidth width rows) {top bottom : Nat}
    (hle : top ≤ bottom) (hbottom : bottom < rows.length) :
    (ofRows width rows).edit? (.scrollDown top bottom) =
      some (ofRows width ((Screen.Edit.scrollDown top bottom).onRows width rows)) := by
  have htop : top ≤ (rows.take bottom).length := by
    rw [List.length_take]
    omega
  have hsplit := eq_around rows hle
  rw [← List.take_append_getElem hbottom, List.drop_append_of_le_length htop] at hsplit
  have hmiddle := scrollDown_middle (hsplit ▸ h) (List.length_take_of_le (by omega))
    (by rw [List.length_drop, List.length_take]; omega : _ = bottom)
  rw [← hsplit] at hmiddle
  rw [hmiddle, Screen.Edit.onRows, if_pos ⟨hle, hbottom⟩, ← List.append_assoc]

/-- Rows that are copied, no more of them than there are at both places. -/
theorem onRows_copyRows {rows : List TaggedRow} {src dst count fitting : Nat}
    (h : fitting = min (min count (rows.length - src)) (rows.length - dst)) :
    (Screen.Edit.copyRows src dst count).onRows width rows =
      rows.take dst ++ (rows.drop src).take fitting ++ rows.drop (dst + fitting) := by
  have hcopied : (rows.drop src).take (min count (rows.length - dst)) =
      (rows.drop src).take fitting := by
    rw [List.take_eq_take_iff, List.length_drop, h]
    omega
  have hlength : ((rows.drop src).take fitting).length = fitting := by
    rw [List.length_take, List.length_drop, h]
    omega
  simp only [Screen.Edit.onRows]
  rw [hcopied, hlength]

theorem copyRows_ofRows {rows : List TaggedRow} (h : OfWidth width rows) {src dst count : Nat}
    (hcount : count ≠ 0) (hsrc : src < rows.length) (hdst : dst < rows.length) (hne : src ≠ dst) :
    (ofRows width rows).edit? (.copyRows src dst count) =
      some (ofRows width ((Screen.Edit.copyRows src dst count).onRows width rows)) := by
  obtain ⟨fitting, hfitting⟩ :
      ∃ fitting, fitting = min (min count (rows.length - src)) (rows.length - dst) := ⟨_, rfl⟩
  have hcells := copied?_cellsOf h (by omega : src + fitting ≤ rows.length)
    (by omega : dst + fitting ≤ rows.length)
  have hmarks := copied?_tags (by omega : src + fitting ≤ rows.length)
    (by omega : dst + fitting ≤ rows.length)
  have hlength : (rows.take dst ++ (rows.drop src).take fitting ++
      rows.drop (dst + fitting)).length = rows.length := by
    simp only [List.length_append, List.length_take, List.length_drop]
    omega
  simp only [edit?]
  rw [if_neg (by simp only [height_ofRows]; omega), onRows_copyRows hfitting]
  simp only [place_ofRows, height_ofRows, width_ofRows, Nat.add_zero, ← hfitting]
  rw [ofRows, hcells, hmarks, ofRows, hlength]
  rfl

/-! ### Cells in reading order -/

theorem eraseRange_ofRows {rows : List TaggedRow} (h : OfWidth width rows) (hwidth : 0 < width)
    {row₁ col₁ row₂ col₂ : Nat} (hrow : row₁ < rows.length)
    (hle : Screen.NotBehind row₁ (min col₁ (width - 1)) (min row₂ (rows.length - 1))
      (min col₂ (width - 1))) :
    (ofRows width rows).edit? (.eraseRange row₁ col₁ row₂ col₂) =
      some (ofRows width ((Screen.Edit.eraseRange row₁ col₁ row₂ col₂).onRows width rows)) := by
  obtain ⟨firstCol, hfirstCol⟩ : ∃ col, col = min col₁ (width - 1) := ⟨_, rfl⟩
  obtain ⟨lastRow, hlastRow⟩ : ∃ row, row = min row₂ (rows.length - 1) := ⟨_, rfl⟩
  obtain ⟨lastCol, hlastCol⟩ : ∃ col, col = min col₂ (width - 1) := ⟨_, rfl⟩
  rw [← hfirstCol, ← hlastRow, ← hlastCol] at hle
  simp only [edit?, place, ofRows, Screen.Edit.onRows, List.length_mapIdx, tags_mapIdx,
    ← hfirstCol, ← hlastRow, ← hlastCol]
  have hfirst : firstCol < width := by omega
  have hlast : lastCol < width := by omega
  -- the last place is a place among the cells, so it is not taken back
  have hstop : lastRow * width + lastCol < (cellsOf rows).length := by
    have hrows : (lastRow + 1) * width ≤ rows.length * width :=
      Nat.mul_le_mul_right _ (by omega)
    rw [Nat.succ_mul] at hrows
    rw [length_cellsOf h]
    omega
  have hplaces := (place_le_iff hfirst hlast).mpr hle
  have hcells := cellsOf_mapIdx h
    (fun k cell => if row₁ * width + firstCol ≤ k ∧ k < lastRow * width + lastCol + 1
      then .blank else cell)
    (fun i => .mapCells fun cells => cells.mapIdx fun j cell =>
      if Screen.NotBehind row₁ firstCol i j ∧ Screen.NotBehind i j lastRow lastCol
      then .blank else cell)
    fun i hi r hr => by
      refine List.mapIdx_eq_mapIdx_iff.mpr fun j hj => if_congr ?_ rfl rfl
      have hcol : j < width := hr ▸ hj
      rw [Nat.lt_succ_iff, place_le_iff hfirst hcol, place_le_iff hcol hlast]
  rw [Nat.min_eq_left (Nat.le_sub_one_of_lt hstop), if_neg (by omega), onCells?,
    within?_filled (by omega) hstop, ← hcells]
  rfl

/-! ### One row -/

variable {rows : List TaggedRow} {row : Nat} {r : TaggedRow}

/-- **A stretch of a row** that is changed. -/
theorem onCells?_ofRows (h : OfWidth width rows) (hr : rows[row]? = some r) {col stop : Nat}
    (hcol : col ≤ stop) (hstop : stop ≤ width) {change : List Cell → Option (List Cell)}
    {cells : List Cell} (hchange : within? r.cells col stop change = some cells) :
    (ofRows width rows).onCells? (row * width + col) (row * width + stop) change =
      some (ofRows width (rows.set row { r with cells })) := by
  obtain ⟨hrow, hget⟩ := List.getElem?_eq_some_iff.mp hr
  have htags : (rows.set row { r with cells }).map (·.tag) = rows.map (·.tag) := by
    refine List.ext_getElem? fun i => ?_
    simp only [List.getElem?_map, List.getElem?_set]
    grind
  rw [onCells?, ofRows, within?_row h hr hcol hstop, hchange, ofRows, htags, List.length_set]
  rfl

/-- A stretch of a row that has been changed already. -/
theorem onCells?_set (h : OfWidth width rows) (hr : rows[row]? = some r) {cells cells' : List Cell}
    (hlength : cells.length = r.cells.length) {col stop : Nat} (hcol : col ≤ stop)
    (hstop : stop ≤ width) {change : List Cell → Option (List Cell)}
    (hchange : within? cells col stop change = some cells') :
    (ofRows width (rows.set row { r with cells })).onCells? (row * width + col)
        (row * width + stop) change =
      some (ofRows width (rows.set row { r with cells := cells' })) := by
  have hrow := (List.getElem?_eq_some_iff.mp hr).1
  have hset : OfWidth width (rows.set row { r with cells }) := by
    intro r' hr'
    rcases List.mem_or_eq_of_mem_set hr' with hmem | rfl
    · exact h r' hmem
    · exact hlength.trans (h r (List.mem_of_getElem? hr))
  rw [onCells?_ofRows hset (List.getElem?_set_self hrow) hcol hstop hchange, List.set_set]

/-- A row in which one stretch is changed. -/
theorem onCells?_modify (h : OfWidth width rows) (hr : rows[row]? = some r) {col stop : Nat}
    (hcol : col ≤ stop) (hstop : stop ≤ width) {change : List Cell → Option (List Cell)}
    (change' : List Cell → List Cell)
    (hchange : within? r.cells col stop change = some (change' r.cells)) :
    (ofRows width rows).onCells? (row * width + col) (row * width + stop) change =
      some (ofRows width (rows.modify row (mapCells change'))) := by
  rw [onCells?_ofRows h hr hcol hstop hchange, modify_eq_set hr]
  rfl

theorem eraseChars_ofRows (h : OfWidth width rows) (hword : width ≤ maxWord) {col count : Nat}
    (hr : rows[row]? = some r) (hcol : col < width) (hcount : count ≠ 0) :
    (ofRows width rows).edit? (.eraseChars row col count) =
      some (ofRows width ((Screen.Edit.eraseChars row col count).onRows width rows)) := by
  have hrow := (List.getElem?_eq_some_iff.mp hr).1
  have hlength : r.cells.length = width := h r (List.mem_of_getElem? hr)
  have hfilled : within? r.cells col (min (col + count) width) (filled .blank) =
      some (r.cells.mapIdx fun j cell => if col ≤ j ∧ j < col + count then .blank else cell) := by
    rw [within?_filled (by omega) (by omega)]
    refine congrArg some (List.mapIdx_eq_mapIdx_iff.mpr fun j hj => if_congr ?_ rfl rfl)
    omega
  have hedit := onCells?_modify h hr (by omega) (by omega) _ hfilled
  simp only [edit?]
  rw [if_neg (by simp only [height_ofRows, width_ofRows]; omega)]
  simp only [width_ofRows, place_ofRows, Nat.add_zero]
  -- the sum of column and count may stop at the greatest word, which is behind the row
  rw [Terminal.min_addUpTo hword]
  exact hedit

theorem setCell_ofRows (h : OfWidth width rows) {col : Nat} (hr : rows[row]? = some r)
    (hcol : col < width) (cell : Cell) :
    (ofRows width rows).edit? (.setCell row col cell) =
      some (ofRows width ((Screen.Edit.setCell row col cell).onRows width rows)) := by
  have hrow := (List.getElem?_eq_some_iff.mp hr).1
  have hlength : r.cells.length = width := h r (List.mem_of_getElem? hr)
  have hfilled : within? r.cells col (col + 1) (filled cell) = some (r.cells.set col cell) := by
    rw [within?_filled (by omega) (by omega)]
    refine congrArg some (List.ext_getElem? fun j => ?_)
    rw [List.getElem?_mapIdx, List.getElem?_set]
    grind
  have hedit := onCells?_modify h hr (Nat.le_succ col) hcol (·.set col cell) hfilled
  simp only [edit?]
  rw [if_neg (by simp only [height_ofRows, width_ofRows]; omega)]
  exact hedit

theorem insertBlank_ofRows (h : OfWidth width rows) {col : Nat} (hr : rows[row]? = some r)
    (hcol : col < width) :
    (ofRows width rows).edit? (.insertBlank row col) =
      some (ofRows width ((Screen.Edit.insertBlank row col).onRows width rows)) := by
  have hrow := (List.getElem?_eq_some_iff.mp hr).1
  have hlength : r.cells.length = width := h r (List.mem_of_getElem? hr)
  obtain ⟨turned, hturned, hsame, hblank⟩ :=
    within?_insertBlank (hlength ▸ hcol : col < r.cells.length)
  have hfirst := onCells?_ofRows h hr hcol.le le_rfl (hlength ▸ hturned)
  have hthen := onCells?_set h hr hsame (Nat.le_succ col) hcol hblank
  simp only [edit?]
  rw [if_neg (by simp only [height_ofRows, width_ofRows]; omega), Screen.Edit.onRows,
    modify_eq_set hr]
  exact Option.bind_eq_some_iff.mpr ⟨_, hfirst, hthen⟩

theorem deleteChars_ofRows (h : OfWidth width rows) {col count : Nat} (hr : rows[row]? = some r)
    (hcol : col < width) (hcount : count ≠ 0) :
    (ofRows width rows).edit? (.deleteChars row col count) =
      some (ofRows width ((Screen.Edit.deleteChars row col count).onRows width rows)) := by
  have hrow := (List.getElem?_eq_some_iff.mp hr).1
  have hlength : r.cells.length = width := h r (List.mem_of_getElem? hr)
  obtain ⟨gone, hgone⟩ : ∃ gone, gone = min count (width - col) := ⟨_, rfl⟩
  obtain ⟨turned, hturned, hsame, hblank⟩ :=
    within?_deleteChars (hlength ▸ hcol : col < r.cells.length) (hlength ▸ hgone)
  rw [hlength] at hturned hblank
  have hfirst := onCells?_ofRows h hr hcol.le le_rfl hturned
  have hthen := onCells?_set h hr hsame (Nat.sub_le _ _) le_rfl hblank
  have hstop : row * width + 0 + width - (row * width + col) = width - col := by omega
  have hstart : row * width + 0 + width - gone = row * width + (width - gone) := by omega
  simp only [edit?]
  rw [if_neg (by simp only [height_ofRows, width_ofRows]; omega), Screen.Edit.onRows,
    modify_eq_set hr]
  simp only [place_ofRows, width_ofRows]
  rw [hstop, ← hgone, hstart, mapCells, hlength]
  exact Option.bind_eq_some_iff.mpr ⟨_, hfirst, hthen⟩

theorem setMark_ofRows (rows : List TaggedRow) (row : Nat) (mark : Option PromptMark) :
    (ofRows width rows).edit? (.setMark row mark) =
      some (ofRows width ((Screen.Edit.setMark row mark).onRows width rows)) := by
  have hcells : cellsOf (rows.modify row (withTag mark)) = cellsOf rows := by
    have hsame : (rows.modify row (withTag mark)).map (·.cells) = rows.map (·.cells) := by
      refine List.ext_getElem? fun i => ?_
      rw [List.getElem?_map, List.getElem?_modify, List.getElem?_map]
      cases rows[i]? with
      | none => rfl
      | some r => by_cases hi : row = i <;> simp [withTag, hi]
    rw [cellsOf, cellsOf, List.flatMap_def, List.flatMap_def, hsame]
  have hmarks : (rows.map (·.tag)).set row mark =
      (rows.modify row (withTag mark)).map (·.tag) := by
    refine List.ext_getElem? fun i => ?_
    simp only [List.getElem?_set, List.getElem?_map, List.getElem?_modify]
    grind [withTag]
  simp only [edit?, ofRows, Screen.Edit.onRows, hcells, hmarks, List.length_modify]

/-! ### All operations -/

/-- **An operation that names nothing** takes no stretch. -/
theorem edit?_of_idle {edit : Screen.Edit} (h : edit.Idle width rows.length) (hwidth : 0 < width) :
    (ofRows width rows).edit? edit = some (ofRows width rows) := by
  cases edit with
  | scrollUp top bottom => exact if_pos h
  | scrollDown top bottom => exact if_pos h
  | copyRows src dst count =>
    simp only [edit?]
    refine if_pos ?_
    simp only [height_ofRows, Screen.Edit.Idle] at h ⊢
    omega
  | eraseLines top bottom =>
    refine if_pos ?_
    simp only [height_ofRows, Screen.Edit.Idle] at h ⊢
    omega
  | eraseRange row₁ col₁ row₂ col₂ =>
    have hfirst : min col₁ (width - 1) < width := by omega
    have hlast : min col₂ (width - 1) < width := by omega
    refine if_pos (h.imp_right fun hbehind => ?_)
    rw [← place_le_iff hfirst hlast] at hbehind
    exact (Nat.min_le_left _ _).trans_lt (Nat.not_le.mp hbehind)
  | eraseChars row col count =>
    refine if_pos ?_
    simp only [height_ofRows, width_ofRows, Screen.Edit.Idle] at h ⊢
    omega
  | insertBlank row col => exact if_pos h
  | deleteChars row col count =>
    simp only [edit?]
    refine if_pos ?_
    simp only [height_ofRows, width_ofRows, Screen.Edit.Idle] at h ⊢
    omega
  | setCell row col cell => exact if_pos h
  | setMark row mark =>
    exact (setMark_ofRows rows row mark).trans
      (congrArg (some ∘ ofRows width) (List.modify_eq_self h))

/-- **The two lists follow the rows.** -/
theorem edit?_ofRows (h : OfWidth width rows) (hwidth : 0 < width) (hword : width ≤ maxWord)
    (edit : Screen.Edit) :
    (ofRows width rows).edit? edit = some (ofRows width (edit.onRows width rows)) := by
  -- behind the guards an operation is known to name something
  by_cases hidle : edit.Idle width rows.length
  · rw [edit?_of_idle hidle hwidth, Screen.onRows_of_idle h hidle]
  cases edit with
  | scrollUp top bottom =>
    simp only [Screen.Edit.Idle, not_or, Nat.not_lt, Nat.not_le] at hidle
    exact scrollUp_ofRows h hidle.1 hidle.2
  | scrollDown top bottom =>
    simp only [Screen.Edit.Idle, not_or, Nat.not_lt, Nat.not_le] at hidle
    exact scrollDown_ofRows h hidle.1 hidle.2
  | copyRows src dst count =>
    simp only [Screen.Edit.Idle, not_or, Nat.not_le] at hidle
    exact copyRows_ofRows h hidle.1 hidle.2.1 hidle.2.2.1 hidle.2.2.2
  | eraseLines top bottom =>
    simp only [Screen.Edit.Idle, not_or, Nat.not_lt, Nat.not_le] at hidle
    exact eraseLines?_ofRows h hidle.1 hidle.2
  | eraseRange row₁ col₁ row₂ col₂ =>
    simp only [Screen.Edit.Idle, not_or, not_not, Nat.not_le] at hidle
    exact eraseRange_ofRows h hwidth hidle.1 hidle.2
  | eraseChars row col count =>
    simp only [Screen.Edit.Idle, not_or, Nat.not_le] at hidle
    exact eraseChars_ofRows h hword (List.getElem?_eq_getElem hidle.2.1) hidle.2.2 hidle.1
  | insertBlank row col =>
    simp only [Screen.Edit.Idle, not_or, Nat.not_le] at hidle
    exact insertBlank_ofRows h (List.getElem?_eq_getElem hidle.1) hidle.2
  | deleteChars row col count =>
    simp only [Screen.Edit.Idle, not_or, Nat.not_le] at hidle
    exact deleteChars_ofRows h (List.getElem?_eq_getElem hidle.2.1) hidle.2.2 hidle.1
  | setCell row col cell =>
    simp only [Screen.Edit.Idle, not_or, Nat.not_le] at hidle
    exact setCell_ofRows h (List.getElem?_eq_getElem hidle.1) hidle.2 cell
  | setMark row mark => exact setMark_ofRows rows row mark

end Layout

/-! ### Screens -/

namespace Screen

open TaggedRow

variable (s : Screen)

theorem ofWidth_tagged : OfWidth s.width s.tagged :=
  fun _ hr => s.length_cells_of_mem_tagged hr

/-- A screen laid out is its rows laid out. -/
theorem layout_eq_ofRows : s.layout = Layout.ofRows s.width s.tagged := by
  have hcells : s.cells = cellsOf s.tagged := by
    rw [cells, cellsOf, tagged, List.flatMap_map]
    rfl
  have hmarks : s.marks = s.tagged.map (·.tag) := by
    rw [marks, tagged, List.map_map]
    rfl
  rw [layout, hcells, hmarks, Layout.ofRows, length_tagged]

theorem rows_layout : s.layout.rows = s.tagged := by
  rw [layout_eq_ofRows, Layout.rows_ofRows s.ofWidth_tagged]

end Screen

namespace Layout

open Screen

/-- The two lists do what the screen does. -/
theorem edit?_layout (s : Screen) (hword : s.width ≤ maxWord) (edit : Edit) :
    s.layout.edit? edit = some (edit.apply s).layout := by
  rw [layout_eq_ofRows, layout_eq_ofRows, edit?_ofRows s.ofWidth_tagged s.width_pos hword,
    tagged_apply, (keepsSize_apply edit s).1]

/-- **One operation after the other** on the two lists. -/
theorem foldlM_edit? (s : Screen) (hword : s.width ≤ maxWord) (edits : List Edit) :
    edits.foldlM edit? s.layout = some (edits.foldl Edit.apply s).layout := by
  induction edits generalizing s with
  | nil => rfl
  | cons edit edits ih =>
    have hwidth : (edit.apply s).width ≤ maxWord := (keepsSize_apply edit s).1.trans_le hword
    rw [List.foldlM_cons, edit?_layout s hword]
    exact ih (edit.apply s) hwidth

/-- **A screen laid out in two lists is a list of rows.** An operation takes stretches of the two
lists that are there, and the lists are those of the screen then. Read as rows they change as a list
of rows does, and neither the lengths of the lists nor the size of the screen change. What the
operation does not name is left alone: rows, cells and tags, and the whole screen if it names
nothing on it. -/
theorem edit?_follows_rows (s : Screen) (hword : s.width ≤ maxWord) (edit : Edit) :
    s.layout.edit? edit = some (edit.apply s).layout ∧
      s.layout.rows.length = s.height ∧ (∀ r ∈ s.layout.rows, r.cells.length = s.width) ∧
      (edit.apply s).layout.rows = edit.onRows s.width s.layout.rows ∧
      ((edit.apply s).width = s.width ∧ (edit.apply s).height = s.height ∧
        (edit.apply s).layout.cells.length = s.height * s.width ∧
        (edit.apply s).layout.marks.length = s.height) ∧
      (∀ row, ¬edit.NamesRow s.height row → (edit.apply s).row? row = s.row? row) ∧
      (∀ row col, ¬edit.NamesCell s.width s.height row col →
        (edit.apply s).cell? row col = s.cell? row col) ∧
      (∀ row, ¬edit.NamesTag s.height row → (edit.apply s).mark? row = s.mark? row) ∧
      (edit.Idle s.width s.height → edit.apply s = s) := by
  obtain ⟨hwidth, hheight⟩ := keepsSize_apply edit s
  have hcells : (edit.apply s).layout.cells.length = s.height * s.width := by
    rw [← hwidth, ← hheight]
    exact length_cells _
  have hmarks : (edit.apply s).layout.marks.length = s.height := by
    rw [← hheight]
    exact length_marks _
  rw [rows_layout, rows_layout]
  exact ⟨edit?_layout s hword edit, s.length_tagged, s.ofWidth_tagged, s.tagged_apply edit,
    ⟨hwidth, hheight, hcells, hmarks⟩, fun row => s.row?_apply, fun row col => s.cell?_apply,
    fun row => s.mark?_apply, s.apply_of_idle⟩

/-- Three rows, the first of them with a tag, and all that there are from the first row on copied
one row down: the rows that are copied are those that were there before. -/
theorem edit?_follows_rows_overlapping :
    let mark : PromptMark := ⟨"/home", 0⟩
    let s := [Edit.setCell 0 0 ⟨'a', .normal⟩, .setCell 1 1 ⟨'b', .normal⟩,
      .setCell 2 0 ⟨'c', .normal⟩, .setMark 0 mark].foldl Edit.apply (Screen.blank 2 3)
    let edit := Edit.copyRows 0 1 65535
    s.width ≤ maxWord ∧
      s.layout.edit? edit = some (edit.apply s).layout ∧
      (edit.apply s).layout.rows =
        [⟨[⟨'a', .normal⟩, .blank], some mark⟩, ⟨[⟨'a', .normal⟩, .blank], some mark⟩,
          ⟨[.blank, ⟨'b', .normal⟩], none⟩] := by
  intro mark s edit
  have hword : s.width ≤ maxWord := by decide
  obtain ⟨hedit, -, -, hrows, -⟩ := edit?_follows_rows s hword edit
  exact ⟨hword, hedit, hrows.trans (by decide)⟩

end Layout

end GlassTty
