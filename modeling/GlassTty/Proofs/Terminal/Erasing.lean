import GlassTty.Proofs.Terminal.Blocks

/-!
# Erasing whole rows

To erase from the cursor to the end of the screen, or from its start to the cursor, is to erase some
rows from end to end (`GlassTty.Terminal.ErasesWhole`) and a part of the cursor's row. With the
cursor at the edge of its row (`GlassTty.Terminal.edge`) that row is erased from end to end too, and
then whole rows are erased; in any other column it is a range of cells.

The rows that are erased from end to end are blank in both cases. Their marks are not treated alike
(`GlassTty.Terminal.row?_eraseInDisplay`): they go with whole rows, and stay when a range is erased,
although all of the row lies in it (`GlassTty.Terminal.mark_behind_erased_prompt`). So the column of
the cursor makes no difference to rows that have no mark, and to no other ones
(`GlassTty.Terminal.erased_rows_run`).
-/

namespace GlassTty.Terminal

/-- **The row is erased from end to end**, wherever in its row the cursor is: those below it when
all is erased from the cursor on (0), and those above it when all is erased up to the cursor (1). -/
def ErasesWhole (t : Terminal) (mode row : Nat) : Prop :=
  mode = 0 ∧ t.cursor.row < row ∧ row < t.height ∨ mode = 1 ∧ row < t.cursor.row

/-- The column of the cursor in which its own row is erased from end to end too. -/
def edge (t : Terminal) (mode : Nat) : Nat :=
  if mode = 0 then 0 else t.width - 1

/-- The terminal with its cursor in another column. -/
def atCol (t : Terminal) (col : Nat) : Terminal :=
  t.withCursor { t.cursor with col }

variable {t : Terminal}

theorem screen_mapScreen (t : Terminal) (change : Screen → Screen) :
    (t.mapScreen change).screen = change t.screen := by
  unfold mapScreen screen
  split <;> rfl

/-- **What becomes of a row that is erased from end to end.** It is blank, and its mark is gone if
the cursor is at the edge of its row. -/
theorem row?_eraseInDisplay (hsize : t.screen.HasSize t.width t.height)
    (hcursor : t.cursor.row < t.height) {mode row : Nat} (hrow : t.ErasesWhole mode row) :
    (t.perform (.eraseInDisplay mode)).screen.row? row =
      some ((Row.blank t.width).withMark
        (if t.cursor.col = t.edge mode then none else t.screen.mark? row)) := by
  obtain ⟨hwidth, hheight⟩ := Screen.hasSize_iff.mp hsize
  obtain ⟨rfl, hbelow, hlt⟩ | ⟨rfl, habove⟩ := hrow
  · change (t.eraseInDisplay 0).screen.row? row = _
    rw [eraseInDisplay, edge, if_pos rfl]
    split
    · rw [screen_mapScreen, Screen.row?_eraseLines, if_pos (by omega), hwidth]
      rfl
    · rw [screen_mapScreen, Screen.row?_eraseRange_of_covers _ (by omega) (by omega) (by omega),
        hwidth]
  · change (t.eraseInDisplay 1).screen.row? row = _
    rw [eraseInDisplay, edge, if_neg Nat.one_ne_zero]
    split
    · rw [screen_mapScreen, Screen.row?_eraseLines, if_pos (by omega), hwidth]
      rfl
    · rw [screen_mapScreen, Screen.row?_eraseRange_of_covers _ (by omega) (by omega) (by omega),
        hwidth]

/-- **Rows that are erased from end to end are blank**, whatever the terminal has gone through and
whatever the column of the cursor. They have no mark either if they had none before, and then the
column makes no difference to them; of any other row the mark goes if the cursor is at the edge of
its row, and stays if it is not. -/
theorem erased_rows_run (name : String) (config : TerminalConfig) (hwidth : config.width ≤ maxWord)
    (hheight : config.height ≤ maxWord) (files : FileSystem) (operations : List Operation)
    (mode row : Nat) (hrow : ((new name config).run files operations).1.ErasesWhole mode row) :
    let t := ((new name config).run files operations).1
    let erased := fun col => ((t.atCol col).perform (.eraseInDisplay mode)).screen.row? row
    (∀ col, erased col =
        some ((Row.blank t.width).withMark
          (if col = t.edge mode then none else t.screen.mark? row))) ∧
      (t.screen.mark? row = none → ∀ col, erased col = some (Row.blank t.width)) := by
  intro t erased
  have hbounds : t.InBounds := ((valid_new name hwidth hheight).run files operations).toInBounds
  have hrows : ∀ col, erased col =
      some ((Row.blank t.width).withMark
        (if col = t.edge mode then none else t.screen.mark? row)) := fun col =>
    row?_eraseInDisplay (t := t.atCol col) hbounds.hasSize_screen hbounds.cursor.row hrow
  refine ⟨hrows, fun hmark col => ?_⟩
  rw [hrows, hmark, ite_self]
  rfl

/-- Three rows, of which the last one has a mark and the one between no mark. The cursor is in the
second column of the first row, and everything from it on is erased. -/
theorem erased_rows_run_below :
    let config : TerminalConfig :=
      { width := 2, height := 3, cookie := "", prompt := some ⟨"", "", "$"⟩ }
    let t := ((new "erased" config).run default
      [.write (utf8Bytes "a\r\nb\r\n$\x1b[?1150;h/\x1b[?1150;l\x1b[1;2H")]).1
    let u := t.perform (.eraseInDisplay 0)
    (config.width ≤ maxWord ∧ config.height ≤ maxWord ∧ t.ErasesWhole 0 1 ∧ t.ErasesWhole 0 2 ∧
        t.screen.mark? 1 = none ∧ t.cursor.col ≠ t.edge 0) ∧
      u.screen.row? 1 = some (Row.blank t.width) ∧
      u.screen.row? 2 = some ((Row.blank t.width).withMark (t.screen.mark? 2)) := by
  intro config t u
  have hwidth : config.width ≤ maxWord := by decide
  have hheight : config.height ≤ maxWord := by decide
  have hsecond : t.ErasesWhole 0 1 := Or.inl (by decide +kernel)
  have hthird : t.ErasesWhole 0 2 := Or.inl (by decide +kernel)
  have hmark : t.screen.mark? 1 = none := by decide +kernel
  have hcol : t.cursor.col ≠ t.edge 0 := by decide +kernel
  obtain ⟨-, hblank⟩ := erased_rows_run "erased" config hwidth hheight default _ 0 1 hsecond
  obtain ⟨hkept, -⟩ := erased_rows_run "erased" config hwidth hheight default _ 0 2 hthird
  refine ⟨⟨hwidth, hheight, hsecond, hthird, hmark, hcol⟩, hblank hmark t.cursor.col, ?_⟩
  exact (hkept t.cursor.col).trans (by rw [if_neg hcol])

/-- **A mark stays behind on an erased prompt.** The prompt is below the cursor, which is in the
second column; the row has no text any more, but it is still the row of a prompt, and what is
printed on it next is a command line. In the first column of the same row the mark goes. -/
theorem mark_behind_erased_prompt :
    let config : TerminalConfig :=
      { width := 2, height := 2, cookie := "", prompt := some ⟨"", "", "$"⟩ }
    let t := ((new "erased" config).run default
      [.write (utf8Bytes "a\r\n$\x1b[?1150;h/\x1b[?1150;l\x1b[1;2H")]).1
    let u := t.perform (.eraseInDisplay 0)
    t.ErasesWhole 0 1 ∧
      (u.screen.row? 1 = some ((Row.blank 2).withMark (some (.prompt "/"))) ∧
        ((t.atCol 0).perform (.eraseInDisplay 0)).screen.row? 1 = some (Row.blank 2)) ∧
      (u.run default [.write (utf8Bytes "\r\n>$")]).1.isPromptRow 1 = true := by
  refine ⟨Or.inl (by decide +kernel), by decide +kernel, by decide +kernel⟩

end GlassTty.Terminal
