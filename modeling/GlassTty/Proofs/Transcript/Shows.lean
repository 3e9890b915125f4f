import GlassTty.Proofs.History.Remembers
import GlassTty.Proofs.Screen.Rows
import GlassTty.Proofs.Screen.Size
import GlassTty.Proofs.Terminal.Frame
import GlassTty.Proofs.Transcript.Sheet

/-!
# A terminal as a typewriter

A terminal that nothing but text is printed on does what a typewriter does: it shows a sheet
(`GlassTty.Terminal.Shows`). The pieces on the sheet are its active rows, the piece that is being
typed is on the row of the cursor, and the pieces that have gone are the lines of the scrollback.

| terminal | sheet |
|---|---|
| `print` | `type` (`GlassTty.Terminal.Shows.print`) |
| a carriage return and `cursorDown` | `feed` (`GlassTty.Terminal.Shows.newLine`) |
| `update` | `scroll`, by the rows above the newest prompt (`GlassTty.Terminal.Shows.update`) |
| `expectPrompt` | nothing (`GlassTty.Terminal.Shows.expectPrompt`) |

In the midst of an operation less holds. Where a row is entered its number is not counted as active
at first (`GlassTty.Terminal.Prints`), and after a line feed the cursor may be in any column
(`GlassTty.Terminal.Page`).
-/

namespace GlassTty.Terminal

open Transcript

/-- **The rows, the cursor's row and the scrollback are those of the sheet**, and there is nothing
else that could make a difference to what is printed: no sequence and no directive is open, the main
screen is shown, and all of it scrolls. -/
structure Prints (t : Terminal) (width capacity : Nat) (s : Sheet) : Prop where
  width_eq : t.width = width
  parser : t.parser = .start
  directive : t.directive = none
  main_shown : t.altMode = false
  region : t.region = .full t.height
  size : t.main.HasSize width t.height
  row : t.cursor.row = s.above.length
  row_lt : s.above.length < t.height
  holds : ∀ i r, t.main.row? i = some r → r.Holds (s.row i)
  remembers : t.scrollback.Remembers capacity (s.gone.map shownText)

/-- **The active rows are those of the sheet** too. A sheet has a row before anything is printed, a
terminal has none. -/
structure Page (t : Terminal) (width capacity : Nat) (s : Sheet) : Prop extends
    Prints t width capacity s where
  active : max t.activeRows 1 = s.above.length + 1

/-- **The terminal shows the sheet**: the cursor is behind the last piece, or on its last column
with a wrap pending if it takes up the whole row. -/
structure Shows (t : Terminal) (width capacity : Nat) (s : Sheet) : Prop extends
    Page t width capacity s where
  col : t.cursor.col = min s.last.length (width - 1)
  wrap : t.cursor.pendingWrap = decide (s.last.length = width)

variable {t : Terminal} {width capacity : Nat} {s : Sheet}

/-! ### Small changes -/

theorem Prints.width_pos (h : t.Prints width capacity s) : 1 ≤ width := by
  rw [← (Screen.hasSize_iff.mp h.size).1]
  exact t.main.width_pos

theorem Prints.main_height (h : t.Prints width capacity s) : t.main.height = t.height :=
  (Screen.hasSize_iff.mp h.size).2

theorem Prints.region_top (h : t.Prints width capacity s) : t.region.top = 0 := by
  rw [h.region, ScrollRegion.full]

theorem Prints.region_bottom (h : t.Prints width capacity s) : t.region.bottom = t.height - 1 := by
  rw [h.region, ScrollRegion.full]

theorem Prints.withCursor (h : t.Prints width capacity s) {cursor : Cursor}
    (hrow : cursor.row = s.above.length) : (t.withCursor cursor).Prints width capacity s :=
  { h with row := hrow }

theorem Prints.settle (h : t.Prints width capacity s) : t.settle.Prints width capacity s :=
  h.withCursor h.row

theorem Page.withCursor (h : t.Page width capacity s) {cursor : Cursor}
    (hrow : cursor.row = s.above.length) : (t.withCursor cursor).Page width capacity s :=
  { h.toPrints.withCursor hrow with active := h.active }

theorem Page.toFirstCol (h : t.Page width capacity s) : t.toFirstCol.Page width capacity s :=
  h.withCursor h.row

/-- With the row of the cursor counted as active the active rows are those of the sheet, if there
were no more before. -/
theorem Prints.touch (h : t.Prints width capacity s) (hactive : t.activeRows ≤ s.above.length + 1) :
    t.touchCursorRow.Page width capacity s := by
  have hrow := h.row
  rw [touchCursorRow_of_main h.main_shown]
  exact { h with active := by dsimp only; omega }

/-- The texts of the rows are the pieces. -/
theorem Prints.rowText_eq (h : t.Prints width capacity s) {i : Nat} (hi : i < t.height) :
    t.main.rowText i = shownText (s.row i) := by
  obtain ⟨r, hr⟩ := t.main.row?_eq_some_of_lt (h.main_height ▸ hi)
  rw [Screen.rowText, hr]
  exact (h.holds i r hr).text_eq

/-- A mark on a row changes nothing that is printed. -/
theorem Prints.setMark (h : t.Prints width capacity s) (row : Nat) (mark : Option PromptMark) :
    { t with main := t.main.setMark row mark }.Prints width capacity s where
  width_eq := h.width_eq
  parser := h.parser
  directive := h.directive
  main_shown := h.main_shown
  region := h.region
  size := h.size.change (.setMark row mark)
  row := h.row
  row_lt := h.row_lt
  remembers := h.remembers
  holds := by
    intro i r hr
    rw [Screen.setMark, Screen.row?_modifyRow] at hr
    split at hr
    · obtain ⟨r', hr', rfl⟩ := Option.map_eq_some_iff.mp hr
      exact (h.holds i r' hr').withMark mark
    · exact h.holds i r hr

theorem Shows.setMark (h : t.Shows width capacity s) (row : Nat) (mark : Option PromptMark) :
    { t with main := t.main.setMark row mark }.Shows width capacity s :=
  { h.toPrints.setMark row mark with active := h.active, col := h.col, wrap := h.wrap }

/-! ### The next row -/

/-- A row further down, as long as there is one. -/
theorem Prints.feedLine_of_lt (h : t.Prints width capacity s)
    (hroom : s.above.length + 1 < t.height) :
    t.feedLine.Prints width capacity (s.feed t.height) := by
  have hrow := h.row
  have hbottom := h.region_bottom
  have hlength := s.length_above_feed_of_lt hroom
  rw [feedLine, if_neg (by omega), if_pos (by omega)]
  exact
    { h with
      row := by rw [hlength, ← hrow]; rfl
      row_lt := by rw [hlength]; exact hroom
      holds := fun i r hr => by
        rw [s.row_feed_of_lt hroom]
        exact h.holds i r hr
      remembers := by rw [s.feed_of_lt hroom]; exact h.remembers }

/-- When the whole screen scrolls up each row holds the piece of the row below, and the last row
none. -/
theorem Prints.holds_scrollUp (h : t.Prints width capacity s)
    (hfull : t.height ≤ s.above.length + 1) (i : Nat) (r : Row)
    (hr : (t.main.scrollUp t.region.top t.region.bottom).row? i = some r) :
    r.Holds ((s.feed t.height).row i) := by
  have hlt := h.row_lt
  have htop := h.region_top
  have hbottom := h.region_bottom
  have hheight := h.main_height
  have hi : i < t.main.height := by
    rw [← ((Screen.KeepsSize.scrollUp t.region.top t.region.bottom) t.main).2]
    exact Screen.lt_height_of_row? hr
  rw [Screen.row?_scrollUp _ (by omega) (by omega)] at hr
  rw [s.row_feed_of_ge hfull]
  split at hr
  · -- the last row is new and blank
    obtain rfl := Option.some.inj hr
    rw [s.row_of_gt (by omega)]
    exact Row.holds_blank _
  · -- each other one was the row below
    rw [if_pos (by omega)] at hr
    exact h.holds (i + 1) r hr

/-- On the last row all rows come up, and the first one goes into the scrollback. -/
theorem Prints.feedLine_of_ge (h : t.Prints width capacity s)
    (hfull : t.height ≤ s.above.length + 1) :
    t.feedLine.Prints width capacity (s.feed t.height) := by
  have hlt := h.row_lt
  have hrow := h.row
  have htop := h.region_top
  have hbottom := h.region_bottom
  have hlength := s.length_above_feed_of_ge hfull
  have hgone : (s.feed t.height).gone.map shownText =
      s.gone.map shownText ++ [t.main.rowText t.region.top] := by
    rw [s.feed_of_ge hfull, List.map_append, s.take_one, htop, h.rowText_eq (by omega)]
    rfl
  have hsave : t.saveTopRow = t.scrollOff t.region.top :=
    if_pos ⟨by rw [h.main_shown]; rfl, htop⟩
  have hshown : (t.scrollOff t.region.top).altMode = false := h.main_shown
  rw [feedLine, if_pos (by omega), scrollRegionUp, hsave, mapScreen_of_main hshown]
  exact
    { h with
      size := h.size.change (.scrollUp _ _)
      row := by rw [hlength]; exact hrow
      row_lt := by rw [hlength]; exact hlt
      holds := h.holds_scrollUp hfull
      remembers := by
        rw [hgone]
        exact Reporter.remembers_scrollOff h.remembers _ _ }

/-- A line feed does not count rows as active, but for the one that the cursor comes to. -/
theorem activeRows_feedLine (t : Terminal) : t.feedLine.activeRows = t.activeRows := by
  unfold feedLine scrollRegionUp saveTopRow
  split
  · rw [mapScreen]
    split <;> split <;> rfl
  · split <;> rfl

/-- **A line feed begins another piece.** -/
theorem Page.cursorDown (h : t.Page width capacity s) :
    t.cursorDown.Page width capacity (s.feed t.height) := by
  have hactive := h.active
  have hdown : t.feedLine.Prints width capacity (s.feed t.height) ∧
      s.above.length ≤ (s.feed t.height).above.length := by
    rcases Nat.lt_or_ge (s.above.length + 1) t.height with hlt | hge
    · exact ⟨h.feedLine_of_lt hlt, by rw [s.length_above_feed_of_lt hlt]; omega⟩
    · exact ⟨h.feedLine_of_ge hge, by rw [s.length_above_feed_of_ge hge]⟩
  refine hdown.1.settle.touch ?_
  change t.feedLine.activeRows ≤ _
  rw [activeRows_feedLine]
  omega

/-- In the first column a terminal shows a sheet whose last piece is empty. -/
theorem Page.shows_of_col (h : t.Page width capacity s) (hlast : s.last = [])
    (hcol : t.cursor.col = 0) (hwrap : t.cursor.pendingWrap = false) :
    t.Shows width capacity s where
  toPage := h
  col := by rw [hcol, hlast, List.length_nil, Nat.zero_min]
  wrap := by
    have hwidth := h.width_pos
    rw [hwrap, hlast, List.length_nil, eq_comm, decide_eq_false_iff_not]
    omega

/-- **A carriage return and a line feed begin another piece.** -/
theorem Shows.newLine (h : t.Shows width capacity s) :
    (t.withCursor t.cursor.carriageReturn).cursorDown.Shows width capacity (s.feed t.height) := by
  have hreturn : (t.withCursor t.cursor.carriageReturn).Page width capacity s := h.withCursor h.row
  obtain ⟨hcol, hwrap⟩ := cursor_cursorDown (t.withCursor t.cursor.carriageReturn)
  exact hreturn.cursorDown.shows_of_col (s.last_feed _) hcol hwrap

/-! ### Characters -/

/-- The wrap that is due begins another piece. -/
theorem Shows.wrap_of_full (h : t.Shows width capacity s) (hfull : s.last.length = width) :
    t.wrap.Shows width capacity (s.feed t.height) := by
  have hpending : t.cursor.pendingWrap = true := by rw [h.wrap, hfull, decide_eq_true rfl]
  have hfirst : t.cursorDown.toFirstCol.Shows width capacity (s.feed t.height) :=
    h.cursorDown.toFirstCol.shows_of_col (s.last_feed _) rfl (cursor_cursorDown t).2
  rw [Terminal.wrap, if_pos hpending]
  cases t.continuedMark with
  | none => exact hfirst
  | some mark => exact hfirst.setMark _ _

/-- A character that is put where the cursor is goes on with the last piece. -/
theorem Shows.putChar (h : t.Shows width capacity s) (hroom : s.last.length < width) {c : Char}
    (hc : c ≠ '\x00') : (t.putChar c).Prints width capacity (s.put c) := by
  have hcol : t.cursor.col = s.last.length := by
    rw [h.col]
    omega
  rw [Terminal.putChar, mapScreen_of_main h.main_shown, h.row, hcol]
  exact
    { h with
      size := h.size.change (.setCell _ _ _)
      holds := by
        intro i r hr
        dsimp only at hr
        rw [Screen.setCell, Screen.row?_modifyRow] at hr
        rw [s.row_put]
        split at hr
        · -- the row of the cursor, which holds the last piece
          next hi =>
          obtain ⟨r', hr', rfl⟩ := Option.map_eq_some_iff.mp hr
          have hlast := h.holds i r' hr'
          rw [← hi, s.row_length_above] at hlast
          rw [if_pos hi.symm]
          have hwidth : r'.cells.size = width := h.size.cells r' (Array.mem_of_getElem? hr')
          exact hlast.set (hwidth ▸ hroom) hc t.style
        · next hi =>
          rw [if_neg (Ne.symm hi)]
          exact h.holds i r hr }

/-- Where the cursor goes from behind a piece that the row has room behind. -/
theorem advanced_of_room {c : Cursor} {width n : Nat} (hn : n < width) (hcol : c.col = n)
    (hwrap : c.pendingWrap = false) :
    (c.advanced width).row = c.row ∧ (c.advanced width).col = min (n + 1) (width - 1) ∧
      (c.advanced width).pendingWrap = decide (n + 1 = width) := by
  unfold Cursor.advanced
  split
  · refine ⟨rfl, by dsimp only; omega, ?_⟩
    rw [eq_comm, decide_eq_true_iff]
    omega
  · refine ⟨rfl, by dsimp only; omega, ?_⟩
    rw [hwrap, eq_comm, decide_eq_false_iff_not]
    omega

/-- A character that is put on a row with room for it takes the cursor along. -/
theorem Shows.put (h : t.Shows width capacity s) (hroom : s.last.length < width) {c : Char}
    (hc : c ≠ '\x00') :
    ((t.putChar c).withCursor
      ((t.putChar c).cursor.advanced (t.putChar c).width)).touchCursorRow.Shows
        width capacity (s.put c) := by
  have hactive := h.active
  have hput := h.putChar hroom hc
  have hcol : t.cursor.col = s.last.length := by
    rw [h.col]
    omega
  have hwrap : t.cursor.pendingWrap = false := by
    rw [h.wrap, decide_eq_false_iff_not]
    omega
  obtain ⟨hrow', hcol', hwrap'⟩ := advanced_of_room hroom hcol hwrap
  have hlength : (s.put c).last.length = s.last.length + 1 := by
    rw [Sheet.put, List.length_append, List.length_singleton]
  rw [hput.width_eq]
  rw [Terminal.putChar, mapScreen_of_main h.main_shown] at hput ⊢
  have hmoved := hput.withCursor (hrow'.trans h.row)
  have hpage := hmoved.touch (show t.activeRows ≤ s.above.length + 1 by omega)
  rw [touchCursorRow_of_main hmoved.main_shown] at hpage ⊢
  exact
    { hpage with
      col := by rw [hlength]; exact hcol'
      wrap := by rw [hlength]; exact hwrap' }

/-- **A character is typed.** -/
theorem Shows.print (h : t.Shows width capacity s) (hlast : s.last.length ≤ width) {c : Char}
    (hc : c ≠ '\x00') : (t.print c).Shows width capacity (s.type width t.height c) := by
  have hwidth := h.width_pos
  rw [Sheet.type]
  split
  · next hroom =>
    have hwrap : t.wrap = t := by
      rw [Terminal.wrap, h.wrap, if_neg (by simp; omega)]
    rw [Terminal.print, hwrap]
    exact h.put hroom hc
  · next hfull =>
    have hwrap := h.wrap_of_full (by omega)
    exact hwrap.put (by rw [s.last_feed]; exact hwidth) hc

/-! ### Prompts and updates -/

/-- **A prompt that is expected** leaves the sheet alone. -/
theorem Shows.expectPrompt (h : t.Shows width capacity s) (directory : String) :
    (t.expectPrompt directory).Shows width capacity s := by
  rw [Terminal.expectPrompt]
  split
  · exact h.setMark _ _
  · exact h

/-- The texts of the first rows are those of the pieces above. -/
theorem Prints.map_rowText (h : t.Prints width capacity s) {count : Nat}
    (hcount : count ≤ s.above.length) :
    (List.range count).map t.main.rowText = (s.above.take count).map shownText := by
  have hlt := h.row_lt
  refine List.ext_getElem (by simp; omega) fun i hi hi' => ?_
  have hcount' : i < count := by simpa using hi
  rw [List.getElem_map, List.getElem_range, List.getElem_map, List.getElem_take,
    h.rowText_eq (by omega), s.row_of_lt (by omega)]

/-- When rows are dropped each of the others holds its piece where it has come to, and the rows
below them hold none. -/
theorem Prints.holds_comeUp (h : t.Prints width capacity s) {count left : Nat}
    (hcount : count ≤ s.above.length) (hleft : count + left = s.above.length + 1) (i : Nat)
    (r : Row)
    (hr : ((t.main.copyRows count 0 left).eraseLines left (t.height - 1)).row? i = some r) :
    r.Holds ((s.scroll count).row i) := by
  have hlt := h.row_lt
  have hheight := h.main_height
  rw [← hheight, Screen.row?_comeUp _ (by omega)] at hr
  rw [s.row_scroll hcount]
  split at hr
  · exact h.holds (count + i) r hr
  · split at hr
    · obtain rfl := Option.some.inj hr
      rw [s.row_of_gt (by omega)]
      exact Row.holds_blank _
    · cases hr

/-- **Rows that go into the scrollback move the sheet up**, those below coming up. -/
theorem Shows.scrollRows (h : t.Shows width capacity s) {count : Nat}
    (hcount : count ≤ s.above.length) :
    (t.scrollRows count).Shows width capacity (s.scroll count) := by
  have hactive := h.active
  have hlt := h.row_lt
  have hrow := h.row
  have habove := s.length_above_scroll count
  unfold Terminal.scrollRows
  split
  · -- nothing moves, not even the cursor
    next hzero =>
    subst hzero
    rwa [s.scroll_zero]
  · next hpos =>
    -- the row of the cursor stays, so some row is left
    have hleft : ¬t.activeRows - count = 0 := by omega
    have hgone : (s.scroll count).gone.map shownText =
        s.gone.map shownText ++ (List.range count).map t.main.rowText := by
      rw [h.map_rowText hcount, Sheet.scroll, List.map_append]
    rw [foldl_scrollOff, dropRows]
    dsimp only
    rw [if_neg hleft]
    exact
      { h with
        size := h.size.change (.comp (.eraseLines _ _) (.copyRows _ _ _))
        row := by dsimp only; omega
        row_lt := by
          change (s.scroll count).above.length < t.height
          omega
        remembers := by
          rw [hgone]
          exact Reporter.remembers_foldl_scrollOff _ h.remembers _ _
        active := by dsimp only; omega
        holds := h.holds_comeUp hcount (by omega) }

/-- **An update moves the sheet up** by the rows above the newest prompt. What is told to the viewer
is remembered all the same. -/
theorem Shows.update (h : t.Shows width capacity s) :
    t.update.Shows width capacity (s.scroll t.lastPromptRow) := by
  have hactive := h.active
  have hprompt := t.lastPromptRow_lt
  have htidy : t.tidy.Shows width capacity (s.scroll t.lastPromptRow) := by
    rw [tidy, if_neg (by rw [h.main_shown]; exact Bool.false_ne_true)]
    exact h.scrollRows (by omega)
  exact { htidy with remembers := htidy.remembers.takeUnreported }

end GlassTty.Terminal
