import GlassTty.Terminal.Request
import Mathlib.Order.Lattice

/-!
# What changes leave alone
-/

namespace GlassTty.Terminal

variable (t : Terminal)

theorem touchCursorRow_cursor : t.touchCursorRow.cursor = t.cursor := by
  unfold touchCursorRow
  split <;> rfl

/-- While the main screen is shown, that is the one that is changed. -/
theorem mapScreen_of_main {t : Terminal} (h : t.altMode = false) (change : Screen → Screen) :
    t.mapScreen change = { t with main := change t.main } := by
  rw [mapScreen, if_neg (by rw [h]; exact Bool.false_ne_true)]

theorem touchCursorRow_of_main {t : Terminal} (h : t.altMode = false) :
    t.touchCursorRow = { t with activeRows := max t.activeRows (t.cursor.row + 1) } := by
  rw [touchCursorRow, if_neg (by rw [h]; exact Bool.false_ne_true)]

/-- Rows that go into the scrollback are seen by the reporter alone. -/
theorem foldl_scrollOff (rows : List Nat) :
    rows.foldl scrollOff t =
      { t with
        reporter := rows.foldl
          (fun r row => r.scrollOff (t.main.rowText row) (t.main.mark? row)) t.reporter } := by
  induction rows generalizing t with
  | nil => rfl
  | cons row rows ih => exact ih (t.scrollOff row)

/-- The newest prompt is on an active row; without one it is the first row that counts. -/
theorem lastPromptRow_lt : t.lastPromptRow < max t.activeRows 1 := by
  unfold lastPromptRow
  cases h : (List.range t.activeRows).reverse.find? t.isPromptRow with
  | none => exact lt_of_lt_of_le Nat.one_pos (le_max_right _ _)
  | some row =>
    have hmem := List.mem_of_find?_eq_some h
    simp only [List.mem_reverse, List.mem_range] at hmem
    simp only [Option.getD_some]
    omega

theorem lastPromptRow_le : t.lastPromptRow ≤ t.activeRows := by
  have := t.lastPromptRow_lt
  omega

/-- With another size the same screen is shown, and the reporter hears of it with the next
update. -/
theorem frame_rebuild (height width : Nat) :
    (t.rebuild height width).altMode = t.altMode ∧
      (t.rebuild height width).reporter = t.reporter := by
  unfold rebuild
  dsimp only
  split <;> exact ⟨rfl, rfl⟩

/-- A line feed leaves the column alone and has no wrap pending. -/
theorem cursor_cursorDown (t : Terminal) :
    t.cursorDown.cursor.col = t.cursor.col ∧ t.cursorDown.cursor.pendingWrap = false := by
  have hcol : t.feedLine.cursor.col = t.cursor.col := by
    unfold feedLine scrollRegionUp saveTopRow
    split
    · rw [mapScreen]
      split <;> split <;> rfl
    · split <;> rfl
  rw [cursorDown, touchCursorRow_cursor]
  exact ⟨hcol, rfl⟩

/-! ### Nothing is told -/

/-- **The viewer is told nothing** between `t` and `u`: no event is there for it, what it was told
of the screen is as before, and if an update was due it still is. -/
structure TellsNothing (t u : Terminal) : Prop where
  events : u.events = t.events
  pending : u.pendingReconnect = t.pendingReconnect
  due : t.needsUpdating = true → u.needsUpdating = true
  /-- Rows may have gone into the scrollback. -/
  reporter : u.reporter = { t.reporter with scrollback := u.reporter.scrollback }

namespace TellsNothing

variable {t u v : Terminal}

theorem refl (t : Terminal) : t.TellsNothing t :=
  ⟨rfl, rfl, id, rfl⟩

theorem trans (h : t.TellsNothing u) (h' : u.TellsNothing v) : t.TellsNothing v where
  events := h'.events.trans h.events
  pending := h'.pending.trans h.pending
  due := h'.due ∘ h.due
  reporter := by
    rw [h'.reporter, h.reporter]

/-- Rows that go into the scrollback are told with the next update. -/
theorem scrollOff (t : Terminal) (row : Nat) : t.TellsNothing (t.scrollOff row) := by
  refine ⟨rfl, rfl, id, ?_⟩
  unfold Terminal.scrollOff Reporter.scrollOff
  dsimp only
  split <;> rfl

theorem mapScreen (t : Terminal) (change : Screen → Screen) :
    t.TellsNothing (t.mapScreen change) := by
  unfold Terminal.mapScreen
  split <;> exact ⟨rfl, rfl, id, rfl⟩

theorem touchCursorRow (t : Terminal) : t.TellsNothing t.touchCursorRow := by
  unfold Terminal.touchCursorRow
  split <;> exact ⟨rfl, rfl, id, rfl⟩

theorem withCursor (t : Terminal) (cursor : Cursor) : t.TellsNothing (t.withCursor cursor) :=
  ⟨rfl, rfl, id, rfl⟩

/-- A cursor that goes somewhere and counts its row as active. -/
theorem touch (t : Terminal) (cursor : Cursor) :
    t.TellsNothing (t.withCursor cursor).touchCursorRow :=
  (withCursor t cursor).trans (touchCursorRow _)

theorem scrollRows (t : Terminal) (count : Nat) : t.TellsNothing (t.scrollRows count) := by
  have hoff : ∀ (rows : List Nat) (t : Terminal),
      t.TellsNothing (rows.foldl Terminal.scrollOff t) := by
    intro rows
    induction rows with
    | nil => exact refl
    | cons row rows ih => exact fun t => (scrollOff t row).trans (ih _)
  unfold Terminal.scrollRows
  split
  · exact refl t
  · exact (hoff _ t).trans ⟨rfl, rfl, id, rfl⟩

theorem tidy (t : Terminal) : t.TellsNothing t.tidy := by
  unfold Terminal.tidy
  split
  · exact refl t
  · exact scrollRows t _

theorem cursorDown (t : Terminal) : t.TellsNothing t.cursorDown := by
  have hsave : t.TellsNothing t.saveTopRow := by
    unfold saveTopRow
    split
    · exact scrollOff t _
    · exact refl t
  have hfeed : t.TellsNothing t.feedLine := by
    unfold feedLine
    split
    · exact hsave.trans (mapScreen _ _)
    · split
      · exact ⟨rfl, rfl, id, rfl⟩
      · exact refl t
  exact hfeed.trans (touch _ _)

theorem reverseIndex (t : Terminal) : t.TellsNothing t.reverseIndex := by
  have hback : t.TellsNothing t.backLine := by
    unfold backLine
    split
    · exact mapScreen t _
    · exact ⟨rfl, rfl, id, rfl⟩
  exact hback.trans (touch _ _)

theorem print (t : Terminal) (char : Char) : t.TellsNothing (t.print char) := by
  have hmark : ∀ (u : Terminal) (mark : Option PromptMark), u.TellsNothing (u.markRow mark) := by
    rintro u (_ | mark) <;> exact ⟨rfl, rfl, id, rfl⟩
  have hwrap : t.TellsNothing t.wrap := by
    unfold wrap
    split
    · exact ((cursorDown t).trans (withCursor _ _)).trans (hmark _ _)
    · exact refl t
  exact hwrap.trans ((mapScreen _ _).trans (touch _ _))

theorem eraseInDisplay (t : Terminal) (mode : Nat) : t.TellsNothing (t.eraseInDisplay mode) := by
  unfold Terminal.eraseInDisplay
  dsimp only
  split
  · split <;> exact mapScreen t _
  · split <;> exact mapScreen t _
  · exact mapScreen t _
  · exact mapScreen t _
  · exact refl t

theorem eraseInLine (t : Terminal) (mode : Nat) : t.TellsNothing (t.eraseInLine mode) := by
  unfold Terminal.eraseInLine
  dsimp only
  split
  · exact mapScreen t _
  · exact mapScreen t _
  · exact mapScreen t _
  · exact refl t

theorem setMode (t : Terminal) (params : List Nat) (enable : Bool) :
    t.TellsNothing (t.setMode params enable) := by
  have hopen : ∀ code presented, t.TellsNothing (t.openDirective code presented) := by
    intro code presented
    unfold openDirective
    split
    · exact refl t
    · cases code with
      | prompt => exact ⟨rfl, rfl, id, rfl⟩
      | payload => exact (scrollRows t _).trans ⟨rfl, rfl, id, rfl⟩
  unfold Terminal.setMode
  split
  · exact refl t
  · split
    · cases enable <;> exact ⟨rfl, rfl, id, rfl⟩
    · split
      · split
        · exact hopen _ _
        · exact refl t
      · exact refl t

/-- **No action tells the viewer anything**: that is for updates alone. -/
theorem perform (t : Terminal) (action : Action) : t.TellsNothing (t.perform action) := by
  cases action with
  | print char => exact print t char
  | lineFeed => exact cursorDown t
  | index => exact cursorDown t
  | nextLine => exact (cursorDown t).trans (withCursor _ _)
  | reverseIndex => exact reverseIndex t
  | restoreCursor => exact touch t _
  | fullReset => exact ⟨rfl, rfl, fun _ => rfl, rfl⟩
  | insertBlanks count => exact mapScreen t _
  | cursorDown count => exact touch t _
  | cursorNextLine count => exact (touch t _).trans (withCursor _ _)
  | cursorRow row => exact touch t _
  | cursorPosition row col => exact touch t _
  | eraseInDisplay mode => exact eraseInDisplay t mode
  | eraseInLine mode => exact eraseInLine t mode
  | insertLines count => exact mapScreen t _
  | deleteLines count => exact mapScreen t _
  | deleteChars count => exact mapScreen t (·.deleteChars _ _ count)
  | eraseChars count => exact mapScreen t (·.eraseChars _ _ count)
  | setScrollRegion top bottom =>
    unfold Terminal.perform
    dsimp only
    split
    · exact ⟨rfl, rfl, id, rfl⟩
    · exact refl t
  | setMode params => exact setMode t params true
  | resetMode params => exact setMode t params false
  | _ => exact ⟨rfl, rfl, id, rfl⟩

/-- Another size is not told either, until the next update. -/
theorem resize (t : Terminal) (height width : Nat) : t.TellsNothing (t.resize height width) := by
  have hrebuild : ∀ (u : Terminal) (height width : Nat),
      u.TellsNothing (u.rebuild height width) := by
    intro u height width
    unfold rebuild
    dsimp only
    split <;> exact ⟨rfl, rfl, fun _ => rfl, rfl⟩
  have hdue : t.TellsNothing { t with needsUpdating := true } := ⟨rfl, rfl, fun _ => rfl, rfl⟩
  unfold Terminal.resize
  dsimp only
  split
  · exact hdue
  · exact hdue.trans ((scrollRows _ _).trans (hrebuild _ _ _))

end TellsNothing

end GlassTty.Terminal
