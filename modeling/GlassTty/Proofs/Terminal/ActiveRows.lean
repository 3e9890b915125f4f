import GlassTty.Proofs.Screen.Lasting
import GlassTty.Proofs.Terminal.Moments
import GlassTty.Proofs.Terminal.Prompt

/-!
# What stands below the active rows

Only the active rows of the main screen are told, and only they go into the scrollback, so no text
may stand below them (`GlassTty.Terminal.NothingBelow`). Their number is raised at the row of the
cursor alone. This is enough for characters, which are put there, and for what erases rows or brings
them up (`GlassTty.Screen.Keeps`). It is not enough where rows are shifted down: a reverse line feed
at the top of the region and an inserted line take text away from the cursor, and the lowest active
row may come to a place that does not count (`GlassTty.Terminal.text_below_active_rows`).

As long as no action pushes text out in this way (`GlassTty.Terminal.PushesOut`), nothing stands
below the active rows of a terminal, whatever it goes through, and an update loses no text
(`GlassTty.Terminal.blank_below_run`).
-/

namespace GlassTty

theorem Cursor.row_advanced (c : Cursor) (cols : Nat) : (c.advanced cols).row = c.row := by
  unfold advanced
  split <;> rfl

namespace Terminal

/-- **Nothing stands below the active rows** of the main screen. -/
def NothingBelow (t : Terminal) : Prop :=
  t.main.AllFrom Row.IsBlank t.activeRows

/-- Rows that go into the scrollback leave nothing below those that come up. -/
theorem nothingBelow_scrollRows {t : Terminal} (h : t.InBounds) {count : Nat} (hcount : count ≠ 0) :
    (t.scrollRows count).NothingBelow := by
  have hheight := (Screen.hasSize_iff.mp h.main).2
  have hcome := Screen.allFrom_comeUp Row.lasting_isBlank t.main count (t.activeRows - count)
  rw [hheight] at hcome
  rw [Terminal.scrollRows, if_neg hcount, foldl_scrollOff]
  exact hcome

namespace NothingBelow

variable {t : Terminal}

/-! ### Small changes -/

theorem mapScreen (h : t.NothingBelow) {change : Screen → Screen}
    (hc : Screen.Keeps Row.IsBlank change) : (t.mapScreen change).NothingBelow := by
  unfold Terminal.mapScreen
  split
  · exact h
  · exact hc t.main t.activeRows h

/-- With more rows that are active there is less below them. -/
theorem touchCursorRow (h : t.NothingBelow) : t.touchCursorRow.NothingBelow := by
  unfold Terminal.touchCursorRow
  split
  · exact h
  · exact h.mono (le_max_left _ _)

theorem touch (h : t.NothingBelow) (cursor : Cursor) :
    (t.withCursor cursor).touchCursorRow.NothingBelow :=
  touchCursorRow (t := t.withCursor cursor) h

/-- A character is put in the row of the cursor, which counts as active afterwards. -/
theorem put (h : t.NothingBelow) (char : Char) {cursor : Cursor}
    (hrow : cursor.row = t.cursor.row) :
    ((t.putChar char).withCursor cursor).touchCursorRow.NothingBelow := by
  cases halt : t.altMode with
  | true =>
    have hput : (t.putChar char).withCursor cursor =
        { t with
          alt := t.alt.setCell t.cursor.row t.cursor.col ⟨char, t.style⟩
          cursor } := by
      rw [putChar, Terminal.mapScreen, if_pos halt]
      rfl
    rw [hput]
    exact touchCursorRow (t := { t with alt := _, cursor }) h
  | false =>
    have hput : (t.putChar char).withCursor cursor =
        { t with
          main := t.main.setCell t.cursor.row t.cursor.col ⟨char, t.style⟩
          cursor } := by
      rw [putChar, mapScreen_of_main halt]
      rfl
    rw [hput, touchCursorRow_of_main (t := { t with main := _, cursor }) halt]
    -- the row of the cursor is none of those below
    exact (h.mono (le_max_left _ (cursor.row + 1))).setCell (by omega) _ _

theorem cursorDown (h : t.NothingBelow) : t.cursorDown.NothingBelow := by
  have hscroll : t.scrollRegionUp.NothingBelow := by
    have hsave : t.saveTopRow.NothingBelow := by
      unfold saveTopRow
      split <;> exact h
    exact hsave.mapScreen (.scrollUp Row.lasting_isBlank _ _)
  have hfeed : t.feedLine.NothingBelow := by
    unfold feedLine
    split
    · exact hscroll
    · split <;> exact h
  exact hfeed.touch _

theorem markRow (h : t.NothingBelow) (mark : Option PromptMark) :
    (t.markRow mark).NothingBelow := by
  cases mark with
  | none => exact h
  | some mark => exact h.setMark _ _

theorem print (h : t.NothingBelow) (char : Char) : (t.print char).NothingBelow := by
  have hwrap : t.wrap.NothingBelow := by
    unfold wrap
    split
    · have hdown : t.cursorDown.toFirstCol.NothingBelow := h.cursorDown
      exact hdown.markRow _
    · exact h
  have hrow : ∀ u : Terminal, (u.putChar char).cursor = u.cursor := by
    intro u
    unfold putChar Terminal.mapScreen
    split <;> rfl
  refine hwrap.put char ?_
  rw [Cursor.row_advanced, hrow]

theorem scrollRows (h : t.NothingBelow) (hbounds : t.InBounds) (count : Nat) :
    (t.scrollRows count).NothingBelow := by
  by_cases hcount : count = 0
  · subst hcount
    exact h
  · exact nothingBelow_scrollRows hbounds hcount

theorem eraseInDisplay (h : t.NothingBelow) (mode : Nat) :
    (t.eraseInDisplay mode).NothingBelow := by
  unfold Terminal.eraseInDisplay
  dsimp only
  split
  · split
    · exact h.mapScreen (.eraseLines Row.lasting_isBlank _ _)
    · exact h.mapScreen (.eraseRange Row.lasting_isBlank _ _ _ _)
  · split
    · exact h.mapScreen (.eraseLines Row.lasting_isBlank _ _)
    · exact h.mapScreen (.eraseRange Row.lasting_isBlank _ _ _ _)
  · exact h.mapScreen (.clear Row.lasting_isBlank)
  · exact h.mapScreen (.clear Row.lasting_isBlank)
  · exact h

theorem eraseInLine (h : t.NothingBelow) (mode : Nat) : (t.eraseInLine mode).NothingBelow := by
  unfold Terminal.eraseInLine
  dsimp only
  split
  · exact h.mapScreen (.eraseRange Row.lasting_isBlank _ _ _ _)
  · exact h.mapScreen (.eraseRange Row.lasting_isBlank _ _ _ _)
  · exact h.mapScreen (.eraseLines Row.lasting_isBlank _ _)
  · exact h

theorem setMode (h : t.NothingBelow) (hbounds : t.InBounds) (params : List Nat) (enable : Bool) :
    (t.setMode params enable).NothingBelow := by
  have hopen : ∀ code presented, (t.openDirective code presented).NothingBelow := by
    intro code presented
    unfold openDirective
    split
    · exact h
    · cases code with
      | prompt => exact h
      | payload => exact h.scrollRows hbounds _
  unfold Terminal.setMode
  split
  · exact h
  · split
    · cases enable <;> exact h
    · split
      · split
        · exact hopen _ _
        · exact h
      · exact h

theorem reset (t : Terminal) : t.reset.NothingBelow :=
  Screen.allFrom_blank Row.lasting_isBlank _ _ _

end NothingBelow

/-! ### Rows that are shifted down -/

/-- The row from which an action shifts rows down, and how far. -/
def shift? (t : Terminal) : Action → Option (Nat × Nat)
  | .reverseIndex => if t.cursor.row = t.region.top then some (t.region.top, 1) else none
  | .insertLines count => some (t.cursor.row, t.shifts count)
  | _ => none

/-- **An action pushes text out**: of the rows that it shifts down on the main screen, one that is
not blank comes from the active rows to a place below them. -/
def PushesOut (t : Terminal) (action : Action) : Prop :=
  t.altMode = false ∧
    ∃ top count row r, t.shift? action = some (top, count) ∧ top ≤ row ∧ row < t.activeRows ∧
      t.activeRows ≤ row + count ∧ row + count ≤ t.region.bottom ∧
        t.main.row? row = some r ∧ ¬r.IsBlank

/-- Nothing is below the active rows after a shift that pushes no text out. -/
theorem NothingBelow.shift {t : Terminal} (h : t.NothingBelow) (hbounds : t.InBounds)
    {action : Action} (hpush : ¬t.PushesOut action) {top count : Nat}
    (hshift : t.shift? action = some (top, count)) (htop : top ≤ t.region.bottom) :
    (t.repeatScreen count (·.scrollDown top t.region.bottom)).NothingBelow := by
  have hheight := (Screen.hasSize_iff.mp hbounds.main).2
  have hbottom : t.region.bottom < t.main.height := by
    rw [hheight]
    exact hbounds.region.bottom
  unfold repeatScreen Terminal.mapScreen
  split
  · exact h
  · next hmain =>
    intro row r hrow hr
    have hrow' : t.activeRows ≤ row := hrow
    rw [Screen.row?_repeat_scrollDown t.main htop hbottom] at hr
    split at hr
    · split at hr
      · rw [← Option.some.inj hr]
        exact Row.isBlank_blank _
      · next hin hout =>
        -- the row was shifted to where it is, from an active row or from below them
        rcases Nat.lt_or_ge (row - count) t.activeRows with hactive | hbelow
        · by_contra hblank
          exact hpush ⟨by simpa using hmain, top, count, row - count, r, hshift, by omega, hactive,
            by omega, by omega, hr, hblank⟩
        · exact h (row - count) r hbelow hr
    · exact h row r hrow' hr

namespace NothingBelow

variable {t : Terminal}

/-- **An action that pushes no text out leaves nothing below the active rows.** -/
theorem perform (h : t.NothingBelow) (hbounds : t.InBounds) {action : Action}
    (hpush : ¬t.PushesOut action) : (t.perform action).NothingBelow := by
  have hregion := hbounds.region
  cases action with
  | print char => exact h.print char
  | lineFeed => exact h.cursorDown
  | index => exact h.cursorDown
  | nextLine => exact h.cursorDown
  | reverseIndex =>
    have hback : t.backLine.NothingBelow := by
      unfold backLine
      split
      · next htop =>
        have hshift : t.shift? .reverseIndex = some (t.region.top, 1) := by
          rw [shift?, if_pos htop]
        exact h.shift hbounds hpush hshift hregion.ordered
      · exact h
    exact hback.touch _
  | restoreCursor => exact h.touch _
  | fullReset => exact reset { t with altMode := false }
  | insertBlanks count => exact h.mapScreen (.repeated (.insertBlank Row.lasting_isBlank _ _) _)
  | cursorDown count => exact h.touch _
  | cursorNextLine count => exact h.touch _
  | cursorRow row => exact h.touch _
  | cursorPosition row col => exact h.touch _
  | eraseInDisplay mode => exact h.eraseInDisplay mode
  | eraseInLine mode => exact h.eraseInLine mode
  | insertLines count =>
    by_cases hin : t.region.contains t.cursor.row = true
    · have htop : t.cursor.row ≤ t.region.bottom := by
        simp only [ScrollRegion.contains, Bool.and_eq_true, decide_eq_true_eq] at hin
        exact hin.2
      exact h.shift hbounds hpush rfl htop
    · -- outside of the region nothing is shifted
      have hnone : t.shifts count = 0 := by rw [shifts, if_neg hin]
      change (t.repeatScreen (t.shifts count) _).NothingBelow
      rw [hnone]
      exact h.mapScreen fun _ _ hs => hs
  | deleteLines count => exact h.mapScreen (.repeated (.scrollUp Row.lasting_isBlank _ _) _)
  | deleteChars count => exact h.mapScreen (.deleteChars Row.lasting_isBlank _ _ count)
  | eraseChars count => exact h.mapScreen (.eraseChars Row.lasting_isBlank _ _ count)
  | setScrollRegion top bottom =>
    unfold Terminal.perform
    dsimp only
    split <;> exact h
  | setMode params => exact h.setMode hbounds params true
  | resetMode params => exact h.setMode hbounds params false
  | _ => exact h

/-! ### Output -/

theorem update (h : t.NothingBelow) (hbounds : t.InBounds) : t.update.NothingBelow := by
  have htidy : t.tidy.NothingBelow := by
    unfold tidy
    split
    · exact h
    · exact h.scrollRows hbounds _
  exact htidy

end NothingBelow

end Terminal

namespace Moment

/-- The byte completes an action that pushes text out. -/
def PushesOut (m : Moment) : Prop :=
  ∃ action, m.action? = some action ∧ m.terminal.PushesOut action

/-- Whether each row that the byte shifts down is blank, or goes to a row that is active already or
out of the region. -/
def keepsText (m : Moment) : Bool :=
  match m.action?.bind m.terminal.shift? with
  | none => true
  | some (top, count) =>
    (List.range m.terminal.activeRows).all fun row =>
      row < top || row + count < m.terminal.activeRows || m.terminal.region.bottom < row + count ||
        (m.terminal.main.row? row).all fun r => r.cells.all (·.isBlank)

theorem not_pushesOut_of_keepsText {m : Moment} (h : m.keepsText = true) : ¬m.PushesOut := by
  rintro ⟨action, haction, -, top, count, row, r, hshift, htop, hactive, hout, hbottom, hr, htext⟩
  rw [keepsText, haction, Option.bind_some, hshift] at h
  have hrow := List.all_eq_true.mp h row (List.mem_range.mpr hactive)
  simp only [Bool.or_eq_true, decide_eq_true_eq, hr, Option.all_some] at hrow
  rcases hrow with ((hlow | hin) | hlost) | hblank
  · omega
  · omega
  · omega
  · exact htext fun cell hcell => Array.all_eq_true_iff_forall_mem.mp hblank cell hcell

end Moment

namespace Terminal.NothingBelow

variable {t : Terminal}

theorem does {m : Moment} {u : Terminal} (hu : m.Does u) (h : m.terminal.NothingBelow)
    (hbounds : m.terminal.InBounds) (hpush : ¬m.PushesOut) : u.NothingBelow := by
  cases hu with
  | nothing parser directive => exact h
  | perform parser action completed =>
    have hparser : ({ m.terminal with parser }).InBounds := { hbounds with }
    exact perform (t := { m.terminal with parser }) h hparser fun hout =>
      hpush ⟨action, completed, hout⟩
  | mark parser directory =>
    unfold expectPrompt
    split
    · exact Screen.AllFrom.setMark h _ _
    · exact h
  | update parser event =>
    have hclosed : m.closed.InBounds := { hbounds with }
    exact update (t := m.closed) h hclosed

theorem write (h : t.NothingBelow) (hvalid : t.Valid) (files : FileSystem) (bytes : Bytes)
    (hpush : ∀ m ∈ (t.marked true).moments files bytes, ¬m.PushesOut) :
    (t.write files bytes).1.NothingBelow :=
  hvalid.write_of_moments (P := fun t _ _ => t.NothingBelow)
    (fun m hm hm' hbelow => does m.does_next hbelow hm'.toInBounds (hpush m hm)) h h

/-! ### Requests -/

theorem rebuild (t : Terminal) (height width : Nat) : (t.rebuild height width).NothingBelow := by
  unfold Terminal.rebuild
  dsimp only
  split
  · next kept hkept =>
    -- only the first row is written, and it is the one that is active
    have hcells : ∀ (cols : List Nat) (cell : Nat → Cell) (s : Screen),
        s.AllFrom Row.IsBlank 1 →
          (cols.foldl (fun s col => s.setCell 0 col (cell col)) s).AllFrom Row.IsBlank 1 := by
      intro cols cell
      induction cols with
      | nil => exact fun s hs => hs
      | cons col cols ih => exact fun s hs => ih _ (hs.setCell Nat.one_pos _ _)
    exact (hcells _ _ _ (Screen.allFrom_blank Row.lasting_isBlank _ _ _)).setMark _ _
  · exact reset _

theorem resize (h : t.NothingBelow) (height width : Nat) :
    (t.resize height width).NothingBelow := by
  unfold Terminal.resize
  dsimp only
  split
  · exact h
  · exact rebuild _ _ _

theorem clear (h : t.NothingBelow) (hbounds : t.InBounds) : t.clear.NothingBelow := by
  unfold Terminal.clear
  dsimp only
  split
  · have hheight := (Screen.hasSize_iff.mp hbounds.main).2
    have hcome := Screen.allFrom_comeUp Row.lasting_isBlank t.main
      (min t.cursor.row (t.activeRows - 1)) 1
    rw [hheight] at hcome
    exact hcome
  · exact h

theorem clearLast (h : t.NothingBelow) (guard : Option Nat) : (t.clearLast guard).NothingBelow := by
  unfold Terminal.clearLast clearLast?
  cases t.reporter.clearLast? guard <;> exact h

theorem operate (h : t.NothingBelow) (hvalid : t.Valid) (files : FileSystem)
    (operation : Operation) (hpush : ∀ m ∈ t.momentsOf files operation, ¬m.PushesOut) :
    (t.operate files operation).1.NothingBelow := by
  cases operation with
  | write bytes => exact h.write hvalid files bytes hpush
  | update => exact h.update hvalid.toInBounds
  | resize height width => exact h.resize _ _
  | clear => exact h.clear hvalid.toInBounds
  | clearLast guard => exact h.clearLast guard
  | clickPaste click setting fallback =>
    exact clickPaste_induction (P := NothingBelow) files click setting fallback h h.clearLast
  | _ => exact h

end Terminal.NothingBelow

namespace Terminal

/-- **Text stands in active rows only**, as long as no action pushes it out. Whatever else a
terminal of a size within words has gone through, all rows of the main screen from the active ones
on are blank. So an update hides no text and drops none: each row that is not blank is one of those
that go into the scrollback, or it is an active row of the screen afterwards. -/
theorem blank_below_run (name : String) (config : TerminalConfig) (files : FileSystem)
    (operations : List Operation) (hwidth : config.width ≤ maxWord)
    (hheight : config.height ≤ maxWord)
    (hpush : ∀ m ∈ (new name config).momentsOfRun files operations, ¬m.PushesOut) :
    let t := ((new name config).run files operations).1
    (∀ row r, t.activeRows ≤ row → t.main.row? row = some r → r.IsBlank) ∧
      (t.altMode = false → ∀ row r, t.main.row? row = some r → ¬r.IsBlank →
        row < t.lastPromptRow ∨
          (row - t.lastPromptRow < t.update.activeRows ∧
            t.update.main.row? (row - t.lastPromptRow) = some r)) := by
  intro t
  have hnew := valid_new name hwidth hheight
  have hvalid : t.Valid := hnew.run files operations
  have hbelow : t.NothingBelow :=
    hnew.run_of_moments (fun t files operation ht hm h => h.operate ht files operation hm) hpush
      (Screen.allFrom_blank Row.lasting_isBlank _ _ _)
  refine ⟨hbelow, fun hmain row r hr htext => ?_⟩
  have hactive : row < t.activeRows := by
    by_contra hge
    exact htext (hbelow row r (Nat.not_lt.mp hge) hr)
  have htidy : t.tidy = t.scrollRows t.lastPromptRow := by
    rw [tidy, if_neg (by rw [hmain]; exact Bool.false_ne_true)]
    rfl
  change row < t.lastPromptRow ∨
    row - t.lastPromptRow < t.tidy.activeRows ∧
      t.tidy.main.row? (row - t.lastPromptRow) = some r
  rw [htidy, activeRows_scrollRows]
  rcases Nat.lt_or_ge row t.lastPromptRow with hgone | hstays
  · exact Or.inl hgone
  · right
    refine ⟨by omega, ?_⟩
    by_cases hzero : t.lastPromptRow = 0
    · rw [hzero, Nat.sub_zero]
      exact hr
    · rw [row?_scrollRows hvalid.toInBounds t.lastPromptRow_le hzero, if_pos (by omega),
        Nat.add_sub_cancel' hstays]
      exact hr

/-- A reverse line feed at the top of a screen of three rows, the first two of which are active. The
text of the first one comes down to the second, and what comes down from there is blank. -/
theorem blank_below_run_reverse_line_feed :
    let config : TerminalConfig := { width := 1, height := 3, cookie := "" }
    let operations : List Operation := [.write (utf8Bytes "a\r\n\x1b[H\x1bM"), .update]
    let t := ((new "back" config).run default operations).1
    ((config.width ≤ maxWord ∧ config.height ≤ maxWord) ∧
      ∀ m ∈ (new "back" config).momentsOfRun default operations, ¬m.PushesOut) ∧
      (∀ row r, t.activeRows ≤ row → t.main.row? row = some r → r.IsBlank) ∧
        (t.altMode = false → ∀ row r, t.main.row? row = some r → ¬r.IsBlank →
          row < t.lastPromptRow ∨
            (row - t.lastPromptRow < t.update.activeRows ∧
              t.update.main.row? (row - t.lastPromptRow) = some r)) := by
  intro config operations t
  have hkeeps : ((new "back" config).momentsOfRun default operations).all
      Moment.keepsText = true := by decide +kernel
  have hpush : ∀ m ∈ (new "back" config).momentsOfRun default operations, ¬m.PushesOut :=
    fun m hm => Moment.not_pushesOut_of_keepsText (List.all_eq_true.mp hkeeps m hm)
  exact ⟨⟨by decide, hpush⟩,
    blank_below_run "back" config default operations (by decide) (by decide) hpush⟩

/-- **A reverse line feed at the top pushes text out.** Two rows are active and come down by one.
The lower one is then below the rows that count as active, and an update of the whole screen leaves
it out. -/
theorem text_below_active_rows :
    let config : TerminalConfig := { width := 1, height := 3, cookie := "" }
    let t := ((new "pushed" config).run default
      [.write (utf8Bytes "a\r\nb\x1b[H\x1bM")]).1
    (t.activeRows = 2 ∧ t.main.row? 2 = some ⟨#[⟨'b', .normal⟩], none⟩) ∧
      (t.update.events.getLast?.bind TerminalEvent.rowUpdate?).map
          (fun u => (u.fullUpdate, u.rows.map fun c => (c.row, c.text))) =
        some (true, [(0, .plain ""), (1, .plain "a")]) := by
  decide +kernel

end Terminal

end GlassTty
