import GlassTty.Proofs.Report.Viewer
import GlassTty.Proofs.Screen.Rows

/-!
# What lasts in the rows of a screen

Erasing, shifting and scrolling make no text and no marks: a new row is a blank one or an old one
whose cells are rearranged. So a property that blank rows have and that rearranging the cells of a
row does not take away (`GlassTty.Row.Lasting`) lasts. To be blank is such a property, and so is to
have no mark.

What lasts is stated for all rows from one on (`GlassTty.Screen.AllFrom`), since most changes take
no row from above to below. Scrolling down does, and what it takes where is said by
`GlassTty.Screen.row?_repeat_scrollDown`.
-/

namespace GlassTty

namespace Row

/-- **A property that lasts**: blank rows have it, and rearranging cells does not take it away. -/
structure Lasting (P : Row → Prop) : Prop where
  blank : ∀ width, P (blank width)
  rearrange : ∀ source r, P r → P (r.rearrange source)

theorem Lasting.eraseWhere {P : Row → Prop} (hP : Lasting P) (erased : Nat → Bool) {r : Row}
    (hr : P r) : P (r.eraseWhere erased) :=
  hP.rearrange _ r hr

theorem isBlank_blank (width : Nat) : (blank width).IsBlank := by
  intro cell hcell
  rw [Array.eq_of_mem_replicate hcell]
  rfl

theorem lasting_isBlank : Lasting IsBlank where
  blank := isBlank_blank
  rearrange := by
    intro source r hr cell hcell
    obtain ⟨col, rfl⟩ := Array.mem_ofFn.mp hcell
    -- the cell is one of the row, or one that was never written
    cases hold : (source col).bind fun old => r.cells[old]? with
    | none => rfl
    | some old =>
      obtain ⟨place, -, hplace⟩ := Option.bind_eq_some_iff.mp hold
      exact hr old (Array.mem_of_getElem? hplace)

/-- The row has no mark. -/
def IsUnmarked (r : Row) : Prop :=
  r.mark = none

theorem lasting_isUnmarked : Lasting IsUnmarked where
  blank := fun _ => rfl
  rearrange := fun _ _ hr => hr

/-- A row all of which is erased keeps nothing but its mark. -/
theorem eraseWhere_of_forall {r : Row} {erased : Nat → Bool}
    (h : ∀ col < r.cells.size, erased col = true) :
    r.eraseWhere erased = (blank r.cells.size).withMark r.mark := by
  have hcells : (r.eraseWhere erased).cells = (blank r.cells.size).cells := by
    refine Array.ext (by simp) fun col hcol _ => ?_
    have herased := h col (by simpa using hcol)
    simp [eraseWhere, Row.rearrange, blank, herased]
  exact congrArg (fun cells => (⟨cells, r.mark⟩ : Row)) hcells

end Row

namespace Screen

variable {P : Row → Prop} {s : Screen} {m n : Nat}

/-! ### Rows after an operation -/

theorem row?_modifyRows (s : Screen) (change : Nat → Row → Row) (keeps) (i : Nat) :
    (s.modifyRows change keeps).row? i = (s.row? i).map (change i) :=
  Array.getElem?_mapIdx

/-- **A row that a range covers from end to end** is blank once the range is erased, and keeps its
mark. -/
theorem row?_eraseRange_of_covers (s : Screen) {row₁ col₁ row₂ col₂ i : Nat}
    (hrow₂ : row₂ < s.height) (hfirst : row₁ < i ∨ row₁ = i ∧ col₁ = 0)
    (hlast : i < row₂ ∨ i = row₂ ∧ s.width ≤ col₂ + 1) :
    (s.eraseRange row₁ col₁ row₂ col₂).row? i =
      some ((Row.blank s.width).withMark (s.mark? i)) := by
  obtain ⟨r, hr⟩ := s.row?_eq_some_of_lt (show i < s.height by omega)
  have hsize : r.cells.size = s.width := s.cells_size r (Array.mem_of_getElem? hr)
  have hmark : s.mark? i = r.mark := by rw [mark?, hr, Option.bind_some]
  rw [eraseRange, row?_modifyRows, hr, Option.map_some, if_pos (by omega), hmark, ← hsize,
    Row.eraseWhere_of_forall]
  intro col hcol
  simp only [Bool.and_eq_true, Bool.or_eq_true, decide_eq_true_eq]
  omega

/-- Scrolling down brings each row of the region to the place below it. -/
theorem row?_scrollDown (s : Screen) {top bottom : Nat} (h : top ≤ bottom)
    (hbottom : bottom < s.height) (i : Nat) :
    (s.scrollDown top bottom).row? i =
      if i = top then some (Row.blank s.width)
      else if top < i ∧ i ≤ bottom then s.row? (i - 1)
      else s.row? i := by
  rw [scrollDown, if_pos ⟨h, hbottom⟩, row?_rearrange]
  rcases Nat.lt_or_ge i s.height with hi | hi
  · rw [if_pos hi]
    split
    · rfl
    · split
      · next hin => exact s.rowFrom_some (by omega)
      · exact s.rowFrom_some hi
  · rw [if_neg (Nat.not_lt.mpr hi), if_neg (by omega), if_neg (by omega)]
    exact (Array.getElem?_eq_none hi).symm

/-- Scrolling down a number of times brings each row of the region so far down, and blank ones come
in above. -/
theorem row?_repeat_scrollDown (s : Screen) {top bottom : Nat} (h : top ≤ bottom)
    (hbottom : bottom < s.height) (count i : Nat) :
    (Nat.repeat (·.scrollDown top bottom) count s).row? i =
      if top ≤ i ∧ i ≤ bottom then
        if i < top + count then some (Row.blank s.width) else s.row? (i - count)
      else s.row? i := by
  have hsize : ∀ count, (Nat.repeat (·.scrollDown top bottom) count s).width = s.width ∧
      (Nat.repeat (·.scrollDown top bottom) count s).height = s.height :=
    fun count => KeepsSize.repeated (.scrollDown top bottom) count s
  induction count generalizing i with
  | zero =>
    rw [Nat.repeat]
    split
    · rw [if_neg (by omega), Nat.sub_zero]
    · rfl
  | succ count ih =>
    obtain ⟨hwidth, hheight⟩ := hsize count
    rw [Nat.repeat, row?_scrollDown _ h (hheight ▸ hbottom), hwidth]
    rcases Nat.lt_trichotomy i top with hi | rfl | hi
    · -- above the region
      rw [if_neg (by omega), if_neg (by omega), ih, if_neg (by omega), if_neg (by omega)]
    · rw [if_pos rfl, if_pos ⟨le_rfl, h⟩, if_pos (by omega)]
    · rw [if_neg (by omega)]
      by_cases hin : i ≤ bottom
      · have habove : top ≤ i - 1 ∧ i - 1 ≤ bottom := by omega
        have hhere : top ≤ i ∧ i ≤ bottom := ⟨hi.le, hin⟩
        rw [if_pos ⟨hi, hin⟩, ih, if_pos habove, if_pos hhere]
        split
        · rw [if_pos (by omega)]
        · rw [if_neg (by omega), Nat.sub_sub, Nat.add_comm 1]
      · rw [if_neg (by omega), ih, if_neg (by omega), if_neg (by omega)]

/-! ### Rows from one on -/

/-- **All rows from `n` on** have the property. -/
def AllFrom (P : Row → Prop) (n : Nat) (s : Screen) : Prop :=
  ∀ row r, n ≤ row → s.row? row = some r → P r

theorem AllFrom.mono (h : s.AllFrom P m) (hle : m ≤ n) : s.AllFrom P n :=
  fun row r hrow => h row r (hle.trans hrow)

theorem allFrom_blank (hP : Row.Lasting P) (width height n : Nat) :
    (blank width height).AllFrom P n := by
  intro row r _ hr
  rw [Array.eq_of_mem_replicate (Array.mem_of_getElem? hr)]
  exact hP.blank _

/-- Rows may change places as long as none of the rows below `n` comes from above. -/
theorem AllFrom.rearrange (hP : Row.Lasting P) (h : s.AllFrom P n) {source : Nat → Option Nat}
    (hsource : ∀ row old, n ≤ row → source row = some old → n ≤ old) :
    (s.rearrange source).AllFrom P n := by
  intro row r hrow hr
  rw [row?_rearrange, Option.ite_none_right_eq_some] at hr
  obtain ⟨-, hr⟩ := hr
  rw [← Option.some.inj hr, rowFrom]
  cases hold : (source row).bind fun old => s.rows[old]? with
  | none => exact hP.blank _
  | some r' =>
    obtain ⟨old, hfrom, hr'⟩ := Option.bind_eq_some_iff.mp hold
    exact h old r' (hsource row old hrow hfrom) hr'

/-- A row above `n` may change anyhow. -/
theorem AllFrom.modifyRow (h : s.AllFrom P n) {row : Nat} {change : Row → Row} {keeps}
    (hchange : n ≤ row → ∀ r, P r → P (change r)) : (s.modifyRow row change keeps).AllFrom P n := by
  intro i r hi hr
  rw [row?_modifyRow] at hr
  split at hr
  · next heq =>
    subst heq
    obtain ⟨old, hold, rfl⟩ := Option.map_eq_some_iff.mp hr
    exact hchange hi old (h row old hi hold)
  · exact h i r hi hr

theorem AllFrom.setCell (h : s.AllFrom P n) {row : Nat} (hrow : row < n) (col : Nat)
    (cell : Cell) : (s.setCell row col cell).AllFrom P n :=
  h.modifyRow fun hle => absurd hrow (Nat.not_lt.mpr hle)

/-- A character is no mark. -/
theorem AllFrom.setCell_unmarked (h : s.AllFrom Row.IsUnmarked n) (row col : Nat) (cell : Cell) :
    (s.setCell row col cell).AllFrom Row.IsUnmarked n :=
  h.modifyRow fun _ _ hr => hr

/-- A mark is no text. -/
theorem AllFrom.setMark (h : s.AllFrom Row.IsBlank n) (row : Nat) (mark : Option PromptMark) :
    (s.setMark row mark).AllFrom Row.IsBlank n :=
  h.modifyRow fun _ _ hr => hr

/-! ### Changes that make no text and no marks -/

/-- A change that takes a lasting property from none of the rows from one on. -/
def Keeps (P : Row → Prop) (change : Screen → Screen) : Prop :=
  ∀ s n, s.AllFrom P n → (change s).AllFrom P n

namespace Keeps

theorem repeated {change : Screen → Screen} (h : Keeps P change) (count : Nat) :
    Keeps P (Nat.repeat change count) := by
  induction count with
  | zero => exact fun s n hs => hs
  | succ count ih => exact fun s n hs => h _ n (ih s n hs)

variable (hP : Row.Lasting P)
include hP

theorem eraseRange (row₁ col₁ row₂ col₂ : Nat) : Keeps P (·.eraseRange row₁ col₁ row₂ col₂) := by
  intro s n h row r hrow hr
  dsimp only [Screen.eraseRange] at hr
  rw [row?_modifyRows] at hr
  obtain ⟨old, hold, rfl⟩ := Option.map_eq_some_iff.mp hr
  split
  · exact hP.eraseWhere _ (h row old hrow hold)
  · exact h row old hrow hold

theorem eraseLines (top bottom : Nat) : Keeps P (·.eraseLines top bottom) := by
  intro s n h
  refine h.rearrange hP fun row old hrow hold => ?_
  split at hold
  · cases hold
  · exact Option.some.inj hold ▸ hrow

theorem clear : Keeps P Screen.clear :=
  fun _ _ h => h.rearrange hP fun _ _ _ hold => by cases hold

theorem eraseChars (row col count : Nat) : Keeps P (·.eraseChars row col count) :=
  fun _ _ h => h.modifyRow fun _ _ hr => hP.eraseWhere _ hr

theorem insertBlank (row col : Nat) : Keeps P (·.insertBlank row col) :=
  fun _ _ h => h.modifyRow fun _ r hr => hP.rearrange _ r hr

theorem deleteChars (row col count : Nat) : Keeps P (·.deleteChars row col count) :=
  fun _ _ h => h.modifyRow fun _ r hr => hP.rearrange _ r hr

theorem scrollUp (top bottom : Nat) : Keeps P (·.scrollUp top bottom) := by
  intro s n h
  dsimp only
  unfold Screen.scrollUp
  split
  · refine h.rearrange hP fun row old hrow hold => ?_
    split at hold
    · cases hold
    · split at hold
      · exact (Option.some.inj hold) ▸ hrow.trans (Nat.le_succ row)
      · exact (Option.some.inj hold) ▸ hrow
  · exact h

end Keeps

/-- **A change that makes no text and no marks**: what lasts and is true of all rows stays true of
all rows. Here rows may come down too. -/
structure MakesNothing (change : Screen → Screen) : Prop where
  lasts : ∀ {P : Row → Prop}, Row.Lasting P → ∀ s, s.AllFrom P 0 → (change s).AllFrom P 0

namespace MakesNothing

theorem of_keeps {change : Screen → Screen}
    (h : ∀ {P : Row → Prop}, Row.Lasting P → Keeps P change) : MakesNothing change :=
  ⟨fun hP s hs => h hP s 0 hs⟩

theorem scrollDown (top bottom : Nat) : MakesNothing (·.scrollDown top bottom) := by
  refine ⟨fun hP s hs => ?_⟩
  unfold Screen.scrollDown
  split
  · exact hs.rearrange hP fun _ _ _ _ => Nat.zero_le _
  · exact hs

theorem repeated {change : Screen → Screen} (h : MakesNothing change) (count : Nat) :
    MakesNothing (Nat.repeat change count) := by
  induction count with
  | zero => exact ⟨fun _ _ hs => hs⟩
  | succ count ih => exact ⟨fun hP s hs => h.lasts hP _ (ih.lasts hP s hs)⟩

end MakesNothing

/-- Rows come up to the places from the first one on, and nothing is left below them. -/
theorem allFrom_comeUp (hP : Row.Lasting P) (s : Screen) (src count : Nat) :
    ((s.copyRows src 0 count).eraseLines count (s.height - 1)).AllFrom P count := by
  intro row r hrow hr
  have hsize : (s.copyRows src 0 count).height = s.height := height_rearrange _ _
  have hlt := lt_height_of_row? hr
  rw [show ((s.copyRows src 0 count).eraseLines count (s.height - 1)).height = s.height from
    (height_rearrange _ _).trans hsize] at hlt
  rw [row?_eraseLines, hsize, if_pos ⟨hrow, by omega, hlt⟩] at hr
  rw [← Option.some.inj hr]
  exact hP.blank _

end Screen

end GlassTty
