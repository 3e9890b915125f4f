import GlassTty.Proofs.Screen.Blocks
import GlassTty.Proofs.Terminal.Bounds

/-!
# Editing moves blocks

The actions that edit the shown screen move blocks of it (`GlassTty.Terminal.EditsBlocks`): the
cells from the cursor to the end of its row, the rows from the cursor to the bottom of the scroll
region, or the whole region. Rows move with their marks, and everything else stays: the other cells
and rows, and the screen that is not shown.

What the actions do is told in the rows that are shown afterwards (`GlassTty.Terminal.ShowsRows`).
Those that edit with a count change nothing else of the terminal
(`GlassTty.Terminal.Redraws`); a line feed settles the cursor besides and may put a line into the
scrollback.
-/

namespace GlassTty.Terminal

/-- The screen that is not shown. -/
def hiddenScreen (t : Terminal) : Screen :=
  if t.altMode then t.main else t.alt

/-- **The rows that are shown are these now**, and the other screen is as it was. -/
structure ShowsRows (t u : Terminal) (rows : Array Row) : Prop where
  rows : u.screen.rows = rows
  width : u.screen.width = t.screen.width
  mode : u.altMode = t.altMode
  hidden : u.hiddenScreen = t.hiddenScreen

/-- **Nothing but the shown screen has changed**, and its rows are these now. -/
structure Redraws (t u : Terminal) (rows : Array Row) : Prop extends ShowsRows t u rows where
  rest : u = { t with main := u.main, alt := u.alt }

/-- The rows that are shown, with other cells in the row of the cursor; its mark stays. -/
def editRow (t : Terminal) (change : Array Cell → Array Cell) : Array Row :=
  t.screen.rows.modify t.cursor.row fun r => { r with cells := change r.cells }

/-- So many cells of the cursor's row: no more than there are from the cursor to its end. -/
def cellsLeft (t : Terminal) (count : Nat) : Nat :=
  min count (t.width - t.cursor.col)

/-- So many rows of the region: no more than there are from the cursor to its bottom. -/
def rowsLeft (t : Terminal) (count : Nat) : Nat :=
  min count (t.region.bottom - t.cursor.row + 1)

/-- **Editing moves blocks**, whatever the count. -/
structure EditsBlocks (t : Terminal) (count : Nat) : Prop where
  /-- Blank cells come in at the cursor, and the last cells of the row are lost. -/
  insertBlanks : Redraws t (t.perform (.insertBlanks count)) (t.editRow fun cells =>
    cells.extract 0 t.cursor.col ++ Array.replicate (t.cellsLeft count) Cell.blank ++
      cells.extract t.cursor.col (t.width - t.cellsLeft count))
  /-- The cells at the cursor are lost, and blank ones come in at the end of the row. -/
  deleteChars : Redraws t (t.perform (.deleteChars count)) (t.editRow fun cells =>
    cells.extract 0 t.cursor.col ++ cells.extract (t.cursor.col + t.cellsLeft count) t.width ++
      Array.replicate (t.cellsLeft count) Cell.blank)
  /-- The cells at the cursor are blank, and no cell moves. -/
  eraseChars : Redraws t (t.perform (.eraseChars count)) (t.editRow fun cells =>
    cells.extract 0 t.cursor.col ++ Array.replicate (t.cellsLeft count) Cell.blank ++
      cells.extract (t.cursor.col + t.cellsLeft count) t.width)
  /-- Lines are not inserted or deleted while the cursor is outside the region. -/
  outside : t.region.contains t.cursor.row = false →
    t.perform (.insertLines count) = t ∧ t.perform (.deleteLines count) = t
  /-- Blank rows come in at the cursor, and the last rows of the region are lost. -/
  insertLines : t.region.contains t.cursor.row = true →
    Redraws t (t.perform (.insertLines count))
      (Block.inserted (Row.blank t.width) t.cursor.row (t.region.bottom + 1) (t.rowsLeft count)
        t.screen.rows)
  /-- The rows at the cursor are lost, and blank ones come in at the bottom of the region. -/
  deleteLines : t.region.contains t.cursor.row = true →
    Redraws t (t.perform (.deleteLines count))
      (Block.removed (Row.blank t.width) t.cursor.row (t.region.bottom + 1) (t.rowsLeft count)
        t.screen.rows)
  /-- At the bottom of the region its first row is lost, and a blank one comes in there. -/
  lineFeed : t.cursor.row = t.region.bottom →
    ShowsRows t (t.perform .lineFeed)
      (Block.removed (Row.blank t.width) t.region.top (t.region.bottom + 1) 1 t.screen.rows)
  /-- At the top of the region its last row is lost, and a blank one comes in there. -/
  reverseIndex : t.cursor.row = t.region.top →
    ShowsRows t (t.perform .reverseIndex)
      (Block.inserted (Row.blank t.width) t.region.top (t.region.bottom + 1) 1 t.screen.rows)

/-! ### Changing the shown screen -/

variable {t u : Terminal} {rows : Array Row}

/-- Only the shown screen is changed. -/
theorem redraws_mapScreen {change : Screen → Screen} (hkeeps : Screen.KeepsSize change)
    (hrows : (change t.screen).rows = rows) : Redraws t (t.mapScreen change) rows := by
  subst hrows
  cases h : t.altMode with
  | true =>
    have hmap : t.mapScreen change = { t with alt := change t.alt } := if_pos h
    rw [hmap]
    refine ⟨⟨?_, ?_, rfl, ?_⟩, rfl⟩ <;> simp [screen, hiddenScreen, h, (hkeeps t.alt).1]
  | false =>
    rw [mapScreen_of_main h]
    refine ⟨⟨?_, ?_, rfl, ?_⟩, rfl⟩ <;> simp [screen, hiddenScreen, h, (hkeeps t.main).1]

/-- The cursor goes somewhere else on the same screen. -/
theorem ShowsRows.touch (h : ShowsRows t u rows) (cursor : Cursor) :
    ShowsRows t (u.withCursor cursor).touchCursorRow rows := by
  unfold touchCursorRow
  split
  · exact ⟨h.rows, h.width, h.mode, h.hidden⟩
  · exact ⟨h.rows, h.width, h.mode, h.hidden⟩

/-- A line that goes into the scrollback is only copied there. -/
theorem saveTopRow_screens (t : Terminal) :
    t.saveTopRow.screen = t.screen ∧ t.saveTopRow.altMode = t.altMode ∧
      t.saveTopRow.hiddenScreen = t.hiddenScreen := by
  unfold saveTopRow
  split <;> exact ⟨rfl, rfl, rfl⟩

theorem ShowsRows.of_saveTopRow (h : ShowsRows t.saveTopRow u rows) : ShowsRows t u rows := by
  obtain ⟨hscreen, hmode, hhidden⟩ := t.saveTopRow_screens
  exact ⟨h.rows, h.width.trans (congrArg _ hscreen), h.mode.trans hmode, h.hidden.trans hhidden⟩

/-! ### How far rows are shifted -/

/-- The rows from the cursor to the bottom of the region are shifted by no more than there are. -/
theorem shifts_of_contains (hin : t.region.contains t.cursor.row = true) (count : Nat) :
    t.shifts count = t.rowsLeft count ∧
      t.cursor.row + t.rowsLeft count ≤ t.region.bottom + 1 := by
  refine ⟨if_pos hin, ?_⟩
  simp only [ScrollRegion.contains, Bool.and_eq_true, decide_eq_true_eq] at hin
  unfold rowsLeft
  omega

/-- Outside the region no row is shifted. -/
theorem repeatScreen_shifts (hout : t.region.contains t.cursor.row = false) (count : Nat)
    (change : Screen → Screen) : t.repeatScreen (t.shifts count) change = t := by
  have hnone : t.shifts count = 0 := by
    rw [shifts, hout, if_neg Bool.false_ne_true]
  rw [hnone, repeatScreen, mapScreen]
  split <;> rfl

/-! ### The actions -/

namespace InBounds

variable {count : Nat}

theorem hasSize_screen (h : t.InBounds) : t.screen.HasSize t.width t.height := by
  unfold Terminal.screen
  split
  · exact h.alt
  · exact h.main

/-- A change of the cursor's row, made a number of times. -/
theorem redraws_editRow (h : t.InBounds) {change : Row → Row} {keeps}
    {cells : Array Cell → Array Cell}
    (hcells : ∀ r : Row, r.cells.size = t.width →
      Nat.repeat change count r = { r with cells := cells r.cells }) :
    Redraws t (t.repeatScreen count (·.modifyRow t.cursor.row change keeps)) (t.editRow cells) := by
  have hwidth : t.screen.width = t.width := (Screen.hasSize_iff.mp h.hasSize_screen).1
  refine redraws_mapScreen (.repeated (.modifyRow _ _ keeps) count) ?_
  exact t.screen.rows_repeat_modifyRow fun r hr => hcells r (hr.trans hwidth)

theorem insertBlanks (h : t.InBounds) (count : Nat) :
    Redraws t (t.perform (.insertBlanks count)) (t.editRow fun cells =>
      cells.extract 0 t.cursor.col ++ Array.replicate (t.cellsLeft count) Cell.blank ++
        cells.extract t.cursor.col (t.width - t.cellsLeft count)) := by
  refine h.redraws_editRow fun r hr => ?_
  have hcol := h.cursor.col
  rw [← cellsLeft, Row.repeat_insertBlank (by unfold cellsLeft; omega), Block.inserted_to_end, hr]

theorem deleteChars (h : t.InBounds) (count : Nat) :
    Redraws t (t.perform (.deleteChars count)) (t.editRow fun cells =>
      cells.extract 0 t.cursor.col ++ cells.extract (t.cursor.col + t.cellsLeft count) t.width ++
        Array.replicate (t.cellsLeft count) Cell.blank) := by
  have hone : t.perform (.deleteChars count) =
      t.repeatScreen 1 (·.deleteChars t.cursor.row t.cursor.col count) := rfl
  rw [hone]
  refine h.redraws_editRow fun r hr => ?_
  have hcol := h.cursor.col
  change r.deleteFrom t.cursor.col count = _
  rw [Row.deleteFrom_eq (by omega), Block.removed_to_end, hr, cellsLeft]

theorem eraseChars (h : t.InBounds) (count : Nat) :
    Redraws t (t.perform (.eraseChars count)) (t.editRow fun cells =>
      cells.extract 0 t.cursor.col ++ Array.replicate (t.cellsLeft count) Cell.blank ++
        cells.extract (t.cursor.col + t.cellsLeft count) t.width) := by
  have hone : t.perform (.eraseChars count) =
      t.repeatScreen 1 (·.eraseChars t.cursor.row t.cursor.col count) := rfl
  rw [hone]
  refine h.redraws_editRow fun r hr => ?_
  have hcol := h.cursor.col
  change r.eraseFrom t.cursor.col count = _
  rw [Row.eraseFrom_eq (by omega), hr, cellsLeft]

/-- The region is on the screen that is shown. -/
theorem region_on_screen (h : t.InBounds) :
    t.region.bottom < t.screen.height ∧ t.screen.width = t.width := by
  obtain ⟨hwidth, hheight⟩ := Screen.hasSize_iff.mp h.hasSize_screen
  exact ⟨hheight ▸ h.region.bottom, hwidth⟩

/-- Rows from the cursor to the bottom of the region, shifted as often as there are any. -/
theorem redraws_shifts (h : t.InBounds) (hin : t.region.contains t.cursor.row = true)
    {change : Screen → Screen} (hkeeps : Screen.KeepsSize change)
    (hrows : t.cursor.row + t.rowsLeft count ≤ t.region.bottom + 1 →
      t.region.bottom < t.screen.height →
      (Nat.repeat change (t.rowsLeft count) t.screen).rows = rows) :
    Redraws t (t.repeatScreen (t.shifts count) change) rows := by
  obtain ⟨hshifts, hfits⟩ := shifts_of_contains hin count
  rw [hshifts]
  exact redraws_mapScreen (hkeeps.repeated _) (hrows hfits h.region_on_screen.1)

theorem insertLines (h : t.InBounds) (hin : t.region.contains t.cursor.row = true) (count : Nat) :
    Redraws t (t.perform (.insertLines count))
      (Block.inserted (Row.blank t.width) t.cursor.row (t.region.bottom + 1) (t.rowsLeft count)
        t.screen.rows) := by
  rw [← h.region_on_screen.2]
  exact h.redraws_shifts hin (.scrollDown _ _) Screen.rows_repeat_scrollDown

theorem deleteLines (h : t.InBounds) (hin : t.region.contains t.cursor.row = true) (count : Nat) :
    Redraws t (t.perform (.deleteLines count))
      (Block.removed (Row.blank t.width) t.cursor.row (t.region.bottom + 1) (t.rowsLeft count)
        t.screen.rows) := by
  rw [← h.region_on_screen.2]
  exact h.redraws_shifts hin (.scrollUp _ _) Screen.rows_repeat_scrollUp

theorem lineFeed (h : t.InBounds) (hrow : t.cursor.row = t.region.bottom) :
    ShowsRows t (t.perform .lineFeed)
      (Block.removed (Row.blank t.width) t.region.top (t.region.bottom + 1) 1 t.screen.rows) := by
  obtain ⟨hbottom, hwidth⟩ := h.region_on_screen
  have hfeed : t.feedLine = t.saveTopRow.mapScreen (·.scrollUp t.region.top t.region.bottom) :=
    if_pos hrow
  have hperform : t.perform .lineFeed =
      (t.feedLine.withCursor t.feedLine.cursor.settled).touchCursorRow := rfl
  rw [hperform, hfeed, ← hwidth]
  have hscrolled : Redraws t.saveTopRow (t.saveTopRow.mapScreen
      (·.scrollUp t.region.top t.region.bottom))
      (Block.removed (Row.blank t.screen.width) t.region.top (t.region.bottom + 1) 1
        t.screen.rows) := by
    refine redraws_mapScreen (.scrollUp _ _) ?_
    rw [t.saveTopRow_screens.1]
    exact Screen.rows_scrollUp h.region.ordered hbottom
  exact hscrolled.toShowsRows.of_saveTopRow.touch _

theorem reverseIndex (h : t.InBounds) (hrow : t.cursor.row = t.region.top) :
    ShowsRows t (t.perform .reverseIndex)
      (Block.inserted (Row.blank t.width) t.region.top (t.region.bottom + 1) 1 t.screen.rows) := by
  obtain ⟨hbottom, hwidth⟩ := h.region_on_screen
  have hback : t.backLine = t.mapScreen (·.scrollDown t.region.top t.region.bottom) :=
    if_pos hrow
  have hperform : t.perform .reverseIndex =
      (t.backLine.withCursor t.backLine.cursor.settled).touchCursorRow := rfl
  rw [hperform, hback, ← hwidth]
  have hscrolled := redraws_mapScreen (.scrollDown _ _)
    (Screen.rows_scrollDown h.region.ordered hbottom)
  exact hscrolled.toShowsRows.touch _

/-- All of the editing, on any terminal whose cursor and region are on the screen. -/
theorem editsBlocks (h : t.InBounds) (count : Nat) : t.EditsBlocks count where
  insertBlanks := h.insertBlanks count
  deleteChars := h.deleteChars count
  eraseChars := h.eraseChars count
  outside := fun hout => ⟨repeatScreen_shifts hout count _, repeatScreen_shifts hout count _⟩
  insertLines := fun hin => h.insertLines hin count
  deleteLines := fun hin => h.deleteLines hin count
  lineFeed := h.lineFeed
  reverseIndex := h.reverseIndex

end InBounds

/-- **Editing moves blocks of the shown screen**, whatever the terminal has gone through and
whatever the count: cells between the cursor and the end of its row, rows between the cursor and the
bottom of the scroll region, or the region by one row. All other cells, rows and marks stay, and so
does the other screen. -/
theorem run_editsBlocks (name : String) (config : TerminalConfig) (hwidth : config.width ≤ maxWord)
    (hheight : config.height ≤ maxWord) (files : FileSystem) (operations : List Operation)
    (count : Nat) : ((new name config).run files operations).1.EditsBlocks count :=
  ((valid_new name hwidth hheight).run files operations).toInBounds.editsBlocks count

/-- Three rows, the first two of which are the region. The cursor is at its bottom, then at its top,
then below it, and many more cells and rows are asked for than there are. -/
theorem run_editsBlocks_region_of_two :
    let config : TerminalConfig := { width := 3, height := 3, cookie := "" }
    let state := fun keys => ((new "blocks" config).run default
      [.write (utf8Bytes ("abc\r\nd\x1b[1;2r" ++ keys))]).1
    (config.width ≤ maxWord ∧ config.height ≤ maxWord ∧
        (state "").cursor.row = (state "").region.bottom ∧
        (state "\x1b[A").cursor.row = (state "\x1b[A").region.top ∧
        (state "\x1b[3;2H").region.contains (state "\x1b[3;2H").cursor.row = false) ∧
      (state "").EditsBlocks 1000 ∧ (state "\x1b[A").EditsBlocks 1000 ∧
        (state "\x1b[3;2H").EditsBlocks 1000 := by
  intro config state
  have hwidth : config.width ≤ maxWord := by decide
  have hheight : config.height ≤ maxWord := by decide
  have hedits : ∀ keys, (state keys).EditsBlocks 1000 := fun keys =>
    run_editsBlocks "blocks" config hwidth hheight default _ 1000
  refine ⟨⟨hwidth, hheight, ?bottom, ?top, ?below⟩, hedits _, hedits _, hedits _⟩
  case bottom => decide +kernel
  case top => decide +kernel
  case below => decide +kernel

end GlassTty.Terminal
