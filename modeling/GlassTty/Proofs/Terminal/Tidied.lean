import GlassTty.Proofs.Terminal.Settled

/-!
# The screen behind an update

An update brings the newest command line to the top of the main screen. This file says in full what
that does (`GlassTty.Terminal.update_run_tidied`): which row is meant, what goes into the scrollback
and in which order, where each row and the cursor come to stand, and what is left below.

The newest command line is told by a property of its row (`GlassTty.Terminal.NewestPrompt`) and not
by the search that finds it; `GlassTty.Terminal.newestPrompt_or_noPrompt` says that they agree.
-/

namespace GlassTty

/-- **The first rows of a screen go into the scrollback**, one after the other. -/
def Reporter.scrollOffRows (r : Reporter) (s : Screen) (count : Nat) : Reporter :=
  (List.range count).foldl (fun r row => r.scrollOff (s.rowText row) (s.mark? row)) r

namespace Terminal

variable {t : Terminal}

/-! ### The newest command line -/

/-- **The newest command line** among the active rows. -/
structure NewestPrompt (t : Terminal) (row : Nat) : Prop where
  active : row < t.activeRows
  prompt : t.isPromptRow row = true
  newest : ∀ other, row < other → other < t.activeRows → t.isPromptRow other = false

/-- No active row is a command line. -/
def NoPrompt (t : Terminal) : Prop :=
  ∀ row, row < t.activeRows → t.isPromptRow row = false

/-- The search finds the newest command line, and the first row if there is none. -/
theorem newestPrompt_or_noPrompt (t : Terminal) :
    t.NewestPrompt t.lastPromptRow ∨ t.NoPrompt ∧ t.lastPromptRow = 0 := by
  have hnewest : ∀ other, t.lastPromptRow < other → other < t.activeRows →
      t.isPromptRow other = false := by
    intro other hlt hactive
    by_contra hnot
    have := le_lastPromptRow hactive (by simpa using hnot)
    omega
  by_cases hzero : t.lastPromptRow = 0
  · by_cases hfirst : 0 < t.activeRows ∧ t.isPromptRow 0 = true
    · rw [hzero] at hnewest ⊢
      exact .inl ⟨hfirst.1, hfirst.2, hnewest⟩
    · refine .inr ⟨fun row hactive => ?_, hzero⟩
      rcases Nat.eq_zero_or_pos row with rfl | hpos
      · by_contra hnot
        exact hfirst ⟨hactive, by simpa using hnot⟩
      · exact hnewest row (hzero ▸ hpos) hactive
  · obtain ⟨hactive, hrow⟩ := isPromptRow_lastPromptRow hzero
    exact .inl ⟨hactive, hrow, hnewest⟩

theorem reporter_scrollToPrompt (t : Terminal) :
    t.scrollToPrompt.reporter = t.reporter.scrollOffRows t.main t.lastPromptRow :=
  (frame_scrollRows t t.lastPromptRow).1

theorem activeRows_scrollToPrompt (t : Terminal) :
    t.scrollToPrompt.activeRows = t.activeRows - t.lastPromptRow :=
  activeRows_scrollRows t t.lastPromptRow

/-- The row of the newest command line is an active one, so that one is left at least and the cursor
keeps its column. -/
theorem cursor_scrollToPrompt (t : Terminal) :
    t.scrollToPrompt.cursor = { t.cursor with row := t.cursor.row - t.lastPromptRow } := by
  unfold scrollToPrompt scrollRows
  split
  · next hzero => rw [hzero, Nat.sub_zero]
  · next hpos =>
    have hleft : t.activeRows - t.lastPromptRow ≠ 0 := by
      have := (isPromptRow_lastPromptRow hpos).1
      omega
    rw [foldl_scrollOff, dropRows]
    exact if_neg hleft

/-- **The active rows come up** as they are, cells and marks. -/
theorem row?_scrollToPrompt (h : t.InBounds) {row : Nat}
    (hrow : row < t.activeRows - t.lastPromptRow) :
    t.scrollToPrompt.main.row? row = t.main.row? (row + t.lastPromptRow) := by
  by_cases hzero : t.lastPromptRow = 0
  · rw [scrollToPrompt, scrollRows, if_pos hzero, hzero, Nat.add_zero]
  · rw [scrollToPrompt, row?_scrollRows h t.lastPromptRow_le hzero, if_pos hrow, Nat.add_comm]

/-- The newest command line comes to the first row. -/
theorem row?_zero_scrollToPrompt (h : t.InBounds) :
    t.scrollToPrompt.main.row? 0 = t.main.row? t.lastPromptRow := by
  by_cases hzero : t.lastPromptRow = 0
  · rw [scrollToPrompt, scrollRows, if_pos hzero, hzero]
  · have hactive := (isPromptRow_lastPromptRow hzero).1
    rw [row?_scrollToPrompt h (by omega), Nat.zero_add]

theorem prompt_scrollToPrompt (t : Terminal) :
    t.scrollToPrompt.reporter.prompt = t.reporter.prompt := by
  rw [scrollToPrompt, (TellsNothing.scrollRows t _).reporter]

/-- What an update does to a terminal that shows its main screen. -/
theorem update_of_main (hmain : t.altMode = false) : t.update = t.scrollToPrompt.report := by
  rw [update, tidy, if_neg (by rw [hmain]; exact Bool.false_ne_true)]

/-- **What an update does to the main screen.** Let the main screen be shown by a terminal of a size
within words, whatever it has gone through, and let `newest` be the row of the newest command line,
or the first row if there is none.

* The rows above it have gone into the scrollback, in their order, and the lines there are reported
  up to now.
* There are as many active rows less. They have come up with their cells and their marks, and if any
  row has gone, nothing stands below them.
* The cursor has gone up with the rows, to the first row at most, and is in the same column.
* The first row is the one that the newest command line was in, and no active row below it is a
  command line. -/
theorem update_run_tidied (name : String) (config : TerminalConfig) (files : FileSystem)
    (operations : List Operation) (hwidth : config.width ≤ maxWord)
    (hheight : config.height ≤ maxWord) :
    let t := ((new name config).run files operations).1
    let newest := t.lastPromptRow
    let scrolled := t.reporter.scrollOffRows t.main newest
    t.altMode = false →
    (t.NewestPrompt newest ∨ t.NoPrompt ∧ newest = 0) ∧
    t.update.scrollback =
      { scrolled.scrollback with reported := scrolled.scrollback.total } ∧
    t.update.activeRows + newest = t.activeRows ∧
    (∀ row, row < t.update.activeRows →
      ∃ r, t.main.row? (row + newest) = some r ∧ t.update.main.row? row = some r) ∧
    (0 < newest → ∀ row, t.update.activeRows ≤ row → row < t.height →
      t.update.main.row? row = some (Row.blank t.width)) ∧
    t.update.cursor = { t.cursor with row := t.cursor.row - newest } ∧
    t.update.main.row? 0 = t.main.row? newest ∧
    t.update.isPromptRow 0 = t.isPromptRow newest ∧
    ∀ row, 0 < row → row < t.update.activeRows → t.update.isPromptRow row = false := by
  intro t newest scrolled hmain
  have hvalid : t.Valid := (valid_new name hwidth hheight).run files operations
  have hbounds := hvalid.toInBounds
  obtain ⟨-, hrows⟩ := Screen.hasSize_iff.mp hbounds.main
  have hheight := hbounds.activeRows
  have hle : newest ≤ t.activeRows := t.lastPromptRow_le
  rw [update_of_main hmain]
  have hactive : t.scrollToPrompt.report.activeRows = t.activeRows - newest :=
    t.activeRows_scrollToPrompt
  have hprompt : t.scrollToPrompt.report.reporter.prompt = t.reporter.prompt :=
    t.prompt_scrollToPrompt
  have hup : ∀ row, row < t.activeRows - newest →
      t.scrollToPrompt.report.main.row? row = t.main.row? (row + newest) :=
    fun row hrow => row?_scrollToPrompt hbounds hrow
  have hfirst : t.scrollToPrompt.report.main.row? 0 = t.main.row? newest :=
    row?_zero_scrollToPrompt hbounds
  refine ⟨t.newestPrompt_or_noPrompt, ?_, by omega, ?_, ?_, t.cursor_scrollToPrompt, hfirst,
    isPromptRow_congr hprompt hfirst, ?_⟩
  · change t.scrollToPrompt.reporter.scrollback.takeUnreported.2 = _
    rw [reporter_scrollToPrompt]
    rfl
  · intro row hrow
    rw [hactive] at hrow
    obtain ⟨r, hr⟩ := t.main.row?_eq_some_of_lt (i := row + newest) (by omega)
    exact ⟨r, hr, (hup row hrow).trans hr⟩
  · intro hpos row hbelow hrow
    rw [hactive] at hbelow
    have hblank := row?_scrollRows hbounds hle (Nat.ne_of_gt hpos) row
    rwa [if_neg (Nat.not_lt.mpr hbelow), if_pos hrow] at hblank
  · intro row hpos hrow
    rw [hactive] at hrow
    rw [isPromptRow_congr hprompt (hup row hrow)]
    -- what was a command line below the newest one would have been a newer one
    rcases t.newestPrompt_or_noPrompt with hnewest | ⟨hnone, -⟩
    · exact hnewest.newest _ (by omega) (by omega)
    · exact hnone _ (by omega)

/-- Two command lines with output behind each. The upper one and its output go into the scrollback,
the others come up, and the cursor behind the last output goes with them. -/
theorem update_run_tidied_two_prompts :
    let config : TerminalConfig :=
      { width := 4, height := 5, cookie := "", prompt := some ⟨"%", "", "$"⟩ }
    let t := ((new "two" config).run default [.write (utf8Bytes "%$a\r\nb\r\n%$c\r\nd")]).1
    let scrolled := t.reporter.scrollOffRows t.main 2
    ((config.width ≤ maxWord ∧ config.height ≤ maxWord) ∧ t.altMode = false) ∧
    (t.NewestPrompt 2 ∧ scrolled.scrollback.lines.map (·.line) = ["%$a", "b"]) ∧
    t.update.scrollback =
      { scrolled.scrollback with reported := scrolled.scrollback.total } ∧
    t.update.activeRows = 2 ∧
    t.update.main.row? 0 = t.main.row? 2 ∧ t.update.main.row? 1 = t.main.row? 3 ∧
    t.update.main.row? 2 = some (Row.blank 4) ∧
    t.update.cursor = ⟨1, 1, false⟩ ∧ t.update.isPromptRow 1 = false := by
  intro config t scrolled
  have hlast : t.lastPromptRow = 2 := by decide +kernel
  have hmain : t.altMode = false := by decide +kernel
  have hlines : scrolled.scrollback.lines.map (·.line) = ["%$a", "b"] := by decide +kernel
  have hrows : t.activeRows = 4 ∧ t.height = 5 ∧ t.width = 4 ∧ t.cursor = ⟨3, 1, false⟩ := by
    decide +kernel
  have htidied := update_run_tidied "two" config default
    [.write (utf8Bytes "%$a\r\nb\r\n%$c\r\nd")] (by decide) (by decide) hmain
  -- the run has been evaluated, and is not to be again
  rw [show ((new "two" config).run default
    [.write (utf8Bytes "%$a\r\nb\r\n%$c\r\nd")]).1 = t from rfl, hlast] at htidied
  clear_value t
  obtain ⟨hnewest, hscrollback, hactive, hup, hblank, hcursor, hfirst, -, hbelow⟩ := htidied
  obtain ⟨hfour, hfive, hwidth, hwas⟩ := hrows
  have htwo : t.update.activeRows = 2 := by omega
  rw [hfive, hwidth] at hblank
  rw [hwas] at hcursor
  obtain ⟨r, hold, hnew⟩ := hup 1 (by omega)
  refine ⟨⟨by decide, hmain⟩, ⟨?_, hlines⟩, hscrollback, htwo, hfirst, hnew.trans hold.symm,
    hblank (by decide) 2 (by omega) (by decide), hcursor, hbelow 1 Nat.one_pos (by omega)⟩
  rcases hnewest with hnewest | ⟨-, hzero⟩
  · exact hnewest
  · cases hzero

end Terminal

end GlassTty
