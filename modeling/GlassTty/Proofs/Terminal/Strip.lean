import GlassTty.Proofs.Report.CommandRows
import GlassTty.Proofs.Terminal.ActiveRows

/-!
# A strip of rows

The rows of the main screen are the end of a long strip (`GlassTty.Terminal.Strip`): those that have
left the screen are in front of it and in the scrollback, then come those above the cursor, and the
row of the cursor is the last one. The active rows end with it at the latest.

A line feed makes the strip longer by a row, and it does not matter to it whether the cursor goes
down or all rows come up (`GlassTty.Terminal.Strip.cursorDown`). So what is said of a strip holds
whether or not its first rows have left the screen, also on a screen of one row. A wrap does the
same and marks the row that it begins (`GlassTty.Terminal.Strip.wrap`), and a character changes the
last row (`GlassTty.Terminal.Strip.put`).
-/

namespace GlassTty.Terminal

/-- **A strip of rows**, all that have come since the reporter was `r`: those that have gone into
the scrollback, those above the cursor and the row of the cursor. -/
structure Strip (t : Terminal) (width : Nat) (r : Reporter) (front : List Row) (last : Row) :
    Prop where
  width_eq : t.width = width
  main_shown : t.altMode = false
  region : t.region = .full t.height
  size : t.main.HasSize width t.height
  row_lt : t.cursor.row < t.height
  active : t.activeRows ≤ t.cursor.row + 1
  last : t.main.row? t.cursor.row = some last
  front : ∃ gone, gone ++ t.main.firstRows t.cursor.row = front ∧
    t.reporter = r.scrollOffAll gone

namespace Strip

variable {t : Terminal} {width : Nat} {r : Reporter} {front : List Row} {last : Row}

theorem withCursor (h : t.Strip width r front last) {cursor : Cursor}
    (hrow : cursor.row = t.cursor.row) : (t.withCursor cursor).Strip width r front last where
  width_eq := h.width_eq
  main_shown := h.main_shown
  region := h.region
  size := h.size
  row_lt := hrow ▸ h.row_lt
  active := hrow ▸ h.active
  last := hrow ▸ h.last
  front := hrow ▸ h.front

/-- The row of the cursor is counted as active. -/
theorem touch (h : t.Strip width r front last) : t.touchCursorRow.Strip width r front last := by
  rw [touchCursorRow_of_main h.main_shown]
  exact { h with active := max_le h.active le_rfl }

theorem activeRows_touch (h : t.Strip width r front last) :
    t.touchCursorRow.activeRows = t.cursor.row + 1 := by
  rw [touchCursorRow_of_main h.main_shown]
  exact max_eq_right h.active

/-- The row of the cursor is changed. -/
theorem modifyLast (h : t.Strip width r front last) (change : Row → Row) (keeps) :
    { t with main := t.main.modifyRow t.cursor.row change keeps }.Strip width r front
      (change last) where
  width_eq := h.width_eq
  main_shown := h.main_shown
  region := h.region
  size := h.size.change (.modifyRow _ change keeps)
  row_lt := h.row_lt
  active := h.active
  last := by
    rw [Screen.row?_modifyRow, if_pos rfl, h.last]
    rfl
  front := by
    dsimp only
    rw [Screen.firstRows_modifyRow]
    exact h.front

theorem cells_last (h : t.Strip width r front last) : last.cells.size = width :=
  h.size.cells last (Array.mem_of_getElem? h.last)

/-- **One row down**, where there is one: all rows stay, and the next one is the last. -/
theorem feedLine_of_lt (h : t.Strip width r front last) (hroom : t.cursor.row + 1 < t.height) :
    ∃ next, t.feedLine.Strip width r (front ++ [last]) next := by
  have hheight := (Screen.hasSize_iff.mp h.size).2
  obtain ⟨next, hnext⟩ := t.main.row?_eq_some_of_lt (i := t.cursor.row + 1) (by omega)
  obtain ⟨gone, hfront, hreporter⟩ := h.front
  have hbottom : t.cursor.row ≠ t.region.bottom := by
    rw [h.region, ScrollRegion.full]
    dsimp only
    omega
  rw [feedLine, if_neg hbottom, if_pos hroom]
  exact ⟨next,
    { width_eq := h.width_eq
      main_shown := h.main_shown
      region := h.region
      size := h.size
      row_lt := hroom
      active := h.active.trans (Nat.le_succ _)
      last := hnext
      front := ⟨gone, by
        change gone ++ t.main.firstRows (t.cursor.row + 1) = _
        rw [Screen.firstRows_succ h.last, ← List.append_assoc, hfront], hreporter⟩ }⟩

/-- **On the last row** all rows come up, and the first of them goes into the scrollback. -/
theorem feedLine_of_ge (h : t.Strip width r front last) (hfull : t.height ≤ t.cursor.row + 1) :
    ∃ next, t.feedLine.Strip width r (front ++ [last]) next := by
  have hlt := h.row_lt
  obtain ⟨hwidth, hheight⟩ := Screen.hasSize_iff.mp h.size
  obtain ⟨top, htop⟩ := t.main.row?_eq_some_of_lt (i := 0) (by omega)
  obtain ⟨gone, hfront, hreporter⟩ := h.front
  have hregion : t.region = ⟨0, t.cursor.row⟩ := by
    rw [h.region, ScrollRegion.full]
    congr 1
    omega
  have hsaved : t.saveTopRow = { t with reporter := t.reporter.scrollOff top.text top.mark } := by
    rw [saveTopRow, if_pos ⟨by rw [h.main_shown]; rfl, by rw [hregion]⟩, scrollOff, hregion,
      Screen.rowText, Screen.mark?, htop]
    rfl
  have hfeed : t.feedLine =
      { t with
        reporter := t.reporter.scrollOff top.text top.mark
        main := t.main.scrollUp 0 t.cursor.row } := by
    have hshown : { t with reporter := t.reporter.scrollOff top.text top.mark }.altMode = false :=
      h.main_shown
    rw [feedLine, if_pos (by rw [hregion]), scrollRegionUp, hsaved, mapScreen_of_main hshown,
      hregion]
  have hbottom : t.cursor.row + 1 = t.main.height := by omega
  have hcome := t.main.firstRows_scrollUp hbottom htop
  rw [Screen.firstRows_succ h.last] at hcome
  rw [hfeed]
  refine ⟨Row.blank width,
    { h with
      size := h.size.change (.scrollUp _ _)
      last := ?_
      front := ⟨gone ++ [top], ?_, ?_⟩ }⟩
  · dsimp only
    rw [Screen.row?_scrollUp _ (Nat.zero_le _) (by omega), if_pos rfl, hwidth]
  · dsimp only
    rw [List.append_assoc, List.singleton_append, hcome, ← List.append_assoc, hfront]
  · dsimp only
    rw [Reporter.scrollOffAll_append, ← hreporter]
    rfl

/-- **A line feed** adds a row to the strip. -/
theorem cursorDown (h : t.Strip width r front last) :
    ∃ next, t.cursorDown.Strip width r (front ++ [last]) next := by
  have hfeed : ∃ next, t.feedLine.Strip width r (front ++ [last]) next := by
    rcases Nat.lt_or_ge (t.cursor.row + 1) t.height with hlt | hge
    · exact h.feedLine_of_lt hlt
    · exact h.feedLine_of_ge hge
  obtain ⟨next, hnext⟩ := hfeed
  have hsettled : (t.feedLine.withCursor t.feedLine.cursor.settled).Strip width r (front ++ [last])
      next := hnext.withCursor rfl
  exact ⟨next, hsettled.touch⟩

/-- **A wrap that is due** adds a row, which is marked as one that continues the last. -/
theorem wrap (h : t.Strip width r front last) (hdue : t.cursor.pendingWrap = true)
    {mark : PromptMark} (hmark : last.mark = some mark) :
    ∃ next : Row,
      t.wrap.Strip width r (front ++ [last]) (next.withMark (some mark.continued)) ∧
      t.wrap.cursor.col = 0 ∧ t.wrap.cursor.pendingWrap = false := by
  obtain ⟨next, hnext⟩ := h.cursorDown
  have hcontinued : t.continuedMark = some mark.continued := by
    rw [continuedMark, if_neg (by rw [h.main_shown]; exact Bool.false_ne_true), Screen.mark?,
      h.last, Option.bind_some, hmark]
    rfl
  have hfirst : (t.cursorDown.withCursor { t.cursorDown.cursor with col := 0 }).Strip width r
      (front ++ [last]) next := hnext.withCursor rfl
  have hmarked := hfirst.modifyLast (·.withMark (some mark.continued)) fun row =>
    row.size_withMark _
  rw [Terminal.wrap, if_pos hdue, hcontinued]
  exact ⟨next, hmarked, rfl, (cursor_cursorDown t).2⟩

/-- **A character** is put into the row of the cursor, which is the last that is active. -/
theorem put (h : t.Strip width r front last) (c : Char) :
    let put := ((t.putChar c).withCursor
      ((t.putChar c).cursor.advanced (t.putChar c).width)).touchCursorRow
    put.Strip width r front (last.set t.cursor.col ⟨c, t.style⟩) ∧
      put.cursor = t.cursor.advanced width ∧ put.activeRows = put.cursor.row + 1 := by
  intro put
  have hput : put = (({ t with main := t.main.setCell t.cursor.row t.cursor.col ⟨c, t.style⟩ } :
      Terminal).withCursor (t.cursor.advanced t.width)).touchCursorRow := by
    change ((t.putChar c).withCursor _).touchCursorRow = _
    rw [putChar, mapScreen_of_main h.main_shown]
  have hrow : (t.cursor.advanced t.width).row = t.cursor.row := t.cursor.row_advanced _
  have hset := (h.modifyLast (·.set t.cursor.col ⟨c, t.style⟩)
    fun row => row.size_set _ _).withCursor hrow
  rw [hput, touchCursorRow_cursor]
  exact ⟨hset.touch, by rw [h.width_eq]; rfl, hset.activeRows_touch⟩

end Strip

end GlassTty.Terminal
