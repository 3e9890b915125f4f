import GlassTty.Proofs.Terminal.ActiveRows

/-!
# Rows with no mark and no text

Two things that a terminal keeps through everything (`GlassTty.Terminal.Clean`): the rows of the
alternate screen have no marks, and with no active rows the main screen is blank. Unlike what
stands below the active rows in general, this needs no condition: text that is pushed out was
active before, and so rows are active then, and the changes after which none are, blank the screen.
-/

namespace GlassTty.Terminal

/-- **A clean terminal**: marks are for the main screen, and that one is blank if no row of it is
active. -/
structure Clean (t : Terminal) : Prop where
  alt : t.alt.AllFrom Row.IsUnmarked 0
  main : t.activeRows = 0 → t.NothingBelow

namespace Clean

variable {t u : Terminal}

theorem of_nothingBelow (halt : t.alt.AllFrom Row.IsUnmarked 0) (hmain : t.NothingBelow) :
    t.Clean :=
  ⟨halt, fun _ => hmain⟩

theorem mapScreen (h : t.Clean) {change : Screen → Screen} (hc : Screen.MakesNothing change) :
    (t.mapScreen change).Clean := by
  unfold Terminal.mapScreen
  split
  · exact ⟨hc.lasts Row.lasting_isUnmarked _ h.alt, h.main⟩
  · refine ⟨h.alt, fun hnone => ?_⟩
    have hblank : t.main.AllFrom Row.IsBlank 0 := fun row r hrow hr =>
      h.main hnone row r (le_of_eq_of_le hnone hrow) hr
    exact (hc.lasts Row.lasting_isBlank _ hblank).mono (Nat.zero_le _)

/-- On the main screen the row of the cursor is active now, so that only the alternate one has to
be looked at. -/
theorem touched (halt : u.alt.AllFrom Row.IsUnmarked 0)
    (hmain : u.altMode = true → u.activeRows = 0 → u.NothingBelow) : u.touchCursorRow.Clean := by
  unfold Terminal.touchCursorRow
  split
  · next h => exact ⟨halt, hmain h⟩
  · refine ⟨halt, fun hnone => ?_⟩
    have hactive : u.cursor.row + 1 ≤ max u.activeRows (u.cursor.row + 1) := le_max_right _ _
    have hnone' : max u.activeRows (u.cursor.row + 1) = 0 := hnone
    omega

theorem touch (h : t.Clean) (cursor : Cursor) : (t.withCursor cursor).touchCursorRow.Clean :=
  touched (u := t.withCursor cursor) h.alt fun _ => h.main

theorem cursorDown (h : t.Clean) : t.cursorDown.Clean := by
  have hsave : t.saveTopRow.Clean := by
    unfold saveTopRow
    split <;> exact ⟨h.alt, h.main⟩
  have hfeed : t.feedLine.Clean := by
    unfold feedLine
    split
    · exact hsave.mapScreen (.of_keeps fun hP => .scrollUp hP _ _)
    · split <;> exact ⟨h.alt, h.main⟩
  exact hfeed.touch _

theorem markRow (h : t.Clean) (mark : Option PromptMark) : (t.markRow mark).Clean := by
  cases mark with
  | none => exact h
  | some mark => exact ⟨h.alt, fun hnone => (h.main hnone).setMark _ _⟩

theorem print (h : t.Clean) (char : Char) : (t.print char).Clean := by
  have hwrap : t.wrap.Clean := by
    unfold wrap
    split
    · have hdown : t.cursorDown.toFirstCol.Clean := ⟨h.cursorDown.alt, h.cursorDown.main⟩
      exact hdown.markRow _
    · exact h
  unfold Terminal.print putChar Terminal.mapScreen
  dsimp only
  split
  · exact touched (hwrap.alt.setCell_unmarked _ _ _) fun _ => hwrap.main
  · next hmain => exact touched hwrap.alt fun halt => absurd halt hmain

theorem scrollRows (h : t.Clean) (hbounds : t.InBounds) (count : Nat) :
    (t.scrollRows count).Clean := by
  have halt : (t.scrollRows count).alt = t.alt := by
    unfold Terminal.scrollRows
    split
    · rfl
    · rw [foldl_scrollOff]
      rfl
  refine ⟨halt ▸ h.alt, fun hnone => ?_⟩
  by_cases hcount : count = 0
  · subst hcount
    exact h.main hnone
  · exact nothingBelow_scrollRows hbounds hcount

theorem eraseInDisplay (h : t.Clean) (mode : Nat) : (t.eraseInDisplay mode).Clean := by
  unfold Terminal.eraseInDisplay
  dsimp only
  split
  · split
    · exact h.mapScreen (.of_keeps fun hP => .eraseLines hP _ _)
    · exact h.mapScreen (.of_keeps fun hP => .eraseRange hP _ _ _ _)
  · split
    · exact h.mapScreen (.of_keeps fun hP => .eraseLines hP _ _)
    · exact h.mapScreen (.of_keeps fun hP => .eraseRange hP _ _ _ _)
  · exact h.mapScreen (.of_keeps fun hP => .clear hP)
  · exact h.mapScreen (.of_keeps fun hP => .clear hP)
  · exact h

theorem eraseInLine (h : t.Clean) (mode : Nat) : (t.eraseInLine mode).Clean := by
  unfold Terminal.eraseInLine
  dsimp only
  split
  · exact h.mapScreen (.of_keeps fun hP => .eraseRange hP _ _ _ _)
  · exact h.mapScreen (.of_keeps fun hP => .eraseRange hP _ _ _ _)
  · exact h.mapScreen (.of_keeps fun hP => .eraseLines hP _ _)
  · exact h

theorem setMode (h : t.Clean) (hbounds : t.InBounds) (params : List Nat) (enable : Bool) :
    (t.setMode params enable).Clean := by
  have hopen : ∀ code presented, (t.openDirective code presented).Clean := by
    intro code presented
    unfold openDirective
    split
    · exact h
    · cases code with
      | prompt => exact ⟨h.alt, h.main⟩
      | payload =>
        have hscroll := h.scrollRows hbounds t.activeRows
        exact ⟨hscroll.alt, hscroll.main⟩
  unfold Terminal.setMode
  split
  · exact h
  · split
    · cases enable with
      | false => exact ⟨h.alt, h.main⟩
      | true => exact ⟨Screen.Keeps.clear Row.lasting_isUnmarked _ _ h.alt, h.main⟩
    · split
      · split
        · exact hopen _ _
        · exact h
      · exact h

theorem reset (t : Terminal) : t.reset.Clean :=
  of_nothingBelow (Screen.allFrom_blank Row.lasting_isUnmarked _ _ _) (.reset t)

/-- **Every action leaves a clean terminal.** -/
theorem perform (h : t.Clean) (hbounds : t.InBounds) (action : Action) :
    (t.perform action).Clean := by
  cases action with
  | print char => exact h.print char
  | lineFeed => exact h.cursorDown
  | index => exact h.cursorDown
  | nextLine => exact ⟨h.cursorDown.alt, h.cursorDown.main⟩
  | reverseIndex =>
    have hback : t.backLine.Clean := by
      unfold backLine
      split
      · exact h.mapScreen (.scrollDown _ _)
      · exact ⟨h.alt, h.main⟩
    exact hback.touch _
  | restoreCursor => exact h.touch _
  | fullReset => exact reset { t with altMode := false }
  | insertBlanks count =>
    exact h.mapScreen (.repeated (.of_keeps fun hP => .insertBlank hP _ _) _)
  | cursorDown count => exact h.touch _
  | cursorNextLine count =>
    have hdown : (t.moveDown count).Clean := h.touch _
    exact ⟨hdown.alt, hdown.main⟩
  | cursorRow row => exact h.touch _
  | cursorPosition row col => exact h.touch _
  | eraseInDisplay mode => exact h.eraseInDisplay mode
  | eraseInLine mode => exact h.eraseInLine mode
  | insertLines count => exact h.mapScreen (.repeated (.scrollDown _ _) _)
  | deleteLines count => exact h.mapScreen (.repeated (.of_keeps fun hP => .scrollUp hP _ _) _)
  | deleteChars count => exact h.mapScreen (.of_keeps fun hP => .deleteChars hP _ _ count)
  | eraseChars count => exact h.mapScreen (.of_keeps fun hP => .eraseChars hP _ _ count)
  | setScrollRegion top bottom =>
    unfold Terminal.perform
    dsimp only
    split <;> exact ⟨h.alt, h.main⟩
  | setMode params => exact h.setMode hbounds params true
  | resetMode params => exact h.setMode hbounds params false
  | _ => exact ⟨h.alt, h.main⟩

theorem tidy (h : t.Clean) (hbounds : t.InBounds) : t.tidy.Clean := by
  unfold Terminal.tidy
  split
  · exact h
  · exact h.scrollRows hbounds _

theorem update (h : t.Clean) (hbounds : t.InBounds) : t.update.Clean :=
  ⟨(h.tidy hbounds).alt, (h.tidy hbounds).main⟩

theorem expectPrompt (h : t.Clean) (directory : String) : (t.expectPrompt directory).Clean := by
  unfold Terminal.expectPrompt
  split
  · exact ⟨h.alt, fun hnone => (h.main hnone).setMark _ _⟩
  · exact h

/-- **Every byte leaves a clean terminal.** -/
theorem does {m : Moment} (hu : m.Does u) (h : m.terminal.Clean) (hbounds : m.terminal.InBounds) :
    u.Clean := by
  have hclosed : m.closed.Clean := ⟨h.alt, h.main⟩
  cases hu with
  | nothing parser directive => exact ⟨h.alt, h.main⟩
  | perform parser action =>
    exact perform (t := { m.terminal with parser }) ⟨h.alt, h.main⟩ { hbounds with } action
  | mark parser directory =>
    have hmark := hclosed.expectPrompt directory
    exact ⟨hmark.alt, hmark.main⟩
  | update parser event =>
    have hupdate := hclosed.update { hbounds with }
    exact ⟨hupdate.alt, hupdate.main⟩

/-! ### Requests -/

theorem resize (h : t.Clean) (height width : Nat) : (t.resize height width).Clean := by
  unfold Terminal.resize
  dsimp only
  split
  · exact ⟨h.alt, h.main⟩
  · refine of_nothingBelow ?_ (.rebuild _ _ _)
    unfold rebuild
    dsimp only
    split <;> exact Screen.allFrom_blank Row.lasting_isUnmarked _ _ _

theorem clear (h : t.Clean) : t.clear.Clean := by
  unfold Terminal.clear
  dsimp only
  split
  · exact ⟨h.alt, fun hnone => by cases hnone⟩
  · exact ⟨h.alt, h.main⟩

theorem clearLast (h : t.Clean) (guard : Option Nat) : (t.clearLast guard).Clean := by
  unfold Terminal.clearLast clearLast?
  cases t.reporter.clearLast? guard <;> exact ⟨h.alt, h.main⟩

end Clean

end GlassTty.Terminal
