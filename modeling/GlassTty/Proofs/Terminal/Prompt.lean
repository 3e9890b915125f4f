import GlassTty.Proofs.Screen.Rows
import GlassTty.Proofs.Terminal.Bounds

/-!
# Bringing the newest prompt to the top

Before an update the rows above the newest command line go into the scrollback
(`GlassTty.Terminal.scrollToPrompt`). The rows that come up keep their texts and their marks
(`GlassTty.Terminal.row?_scrollRows`), and those below the newest command line are none, so
afterwards the newest one is in the first row (`GlassTty.Terminal.lastPromptRow_scrollToPrompt`).
-/

namespace GlassTty.Terminal

/-- Whether a row is a command line is a matter of the row and of the prompt that is looked for. -/
theorem isPromptRow_congr {t u : Terminal} {i j : Nat}
    (hprompt : u.reporter.prompt = t.reporter.prompt) (hrow : u.main.row? i = t.main.row? j) :
    u.isPromptRow i = t.isPromptRow j := by
  unfold isPromptRow Screen.rowText Screen.mark? Reporter.promptOffset
  rw [hprompt, hrow]

/-- No active row below the newest prompt is a command line. -/
theorem le_lastPromptRow {t : Terminal} {row : Nat} (hactive : row < t.activeRows)
    (hrow : t.isPromptRow row = true) : row ≤ t.lastPromptRow := by
  have hmem : row ∈ (List.range t.activeRows).reverse :=
    List.mem_reverse.mpr (List.mem_range.mpr hactive)
  unfold lastPromptRow
  cases hfind : (List.range t.activeRows).reverse.find? t.isPromptRow with
  | none => exact absurd hrow (List.find?_eq_none.mp hfind row hmem)
  | some newest =>
    obtain ⟨-, before, after, hsplit, hbefore⟩ := List.find?_eq_some_iff_append.mp hfind
    rw [hsplit] at hmem
    rw [Option.getD_some]
    rcases List.mem_append.mp hmem with hin | hin
    · -- rows that come before it in the search are no command lines
      have := hbefore row hin
      rw [hrow] at this
      cases this
    · rcases List.mem_cons.mp hin with rfl | hin
      · exact le_rfl
      · have hsorted : (before ++ newest :: after).Pairwise (· > ·) := by
          rw [← hsplit, List.pairwise_reverse]
          exact List.pairwise_lt_range
        exact (List.rel_of_pairwise_cons (List.pairwise_append.mp hsorted).2.1 hin).le

/-- If there is a command line below the first row, the newest one is an active row. -/
theorem isPromptRow_lastPromptRow {t : Terminal} (h : t.lastPromptRow ≠ 0) :
    t.lastPromptRow < t.activeRows ∧ t.isPromptRow t.lastPromptRow = true := by
  unfold lastPromptRow at h ⊢
  cases hfind : (List.range t.activeRows).reverse.find? t.isPromptRow with
  | none =>
    rw [hfind] at h
    exact absurd rfl h
  | some newest =>
    have hmem := List.mem_of_find?_eq_some hfind
    simp only [List.mem_reverse, List.mem_range] at hmem
    exact ⟨hmem, List.find?_some hfind⟩

/-- The rows of the main screen after rows have gone into the scrollback: the others have come up,
and nothing stands below them. -/
theorem row?_scrollRows {t : Terminal} (h : t.InBounds) {count : Nat}
    (hcount : count ≤ t.activeRows) (hpos : count ≠ 0) (i : Nat) :
    (t.scrollRows count).main.row? i =
      if i < t.activeRows - count then t.main.row? (count + i)
      else if i < t.height then some (Row.blank t.width) else none := by
  obtain ⟨hwidth, hheight⟩ := Screen.hasSize_iff.mp h.main
  have hactive := h.activeRows
  rw [scrollRows, if_neg hpos, foldl_scrollOff]
  have hmain : ∀ reporter, ({ t with reporter }.dropRows count).main =
      (t.main.copyRows count 0 (t.activeRows - count)).eraseLines (t.activeRows - count)
        (t.main.height - 1) := by
    intro reporter
    rw [hheight]
    rfl
  rw [hmain, Screen.row?_comeUp t.main (by omega), hheight, hwidth]

theorem activeRows_scrollRows (t : Terminal) (count : Nat) :
    (t.scrollRows count).activeRows = t.activeRows - count := by
  unfold scrollRows
  split
  · next h => rw [h, Nat.sub_zero]
  · rw [foldl_scrollOff]
    rfl

/-- Rows that leave the screen leave everything but the main screen and the cursor as it is, and the
scrollback has them in their order. -/
theorem frame_scrollRows (t : Terminal) (count : Nat) :
    (t.scrollRows count).reporter =
        (List.range count).foldl
          (fun r row => r.scrollOff (t.main.rowText row) (t.main.mark? row)) t.reporter ∧
      (t.scrollRows count).alt = t.alt ∧ (t.scrollRows count).altMode = t.altMode ∧
      (t.scrollRows count).replies = t.replies := by
  unfold scrollRows
  split
  · next hzero =>
    rw [hzero]
    exact ⟨rfl, rfl, rfl, rfl⟩
  · rw [foldl_scrollOff]
    exact ⟨rfl, rfl, rfl, rfl⟩

/-- **The newest prompt has come to the first row**, and no prompt is below it. -/
theorem lastPromptRow_scrollToPrompt {t : Terminal} (h : t.InBounds) :
    t.scrollToPrompt.lastPromptRow = 0 := by
  by_cases hzero : t.lastPromptRow = 0
  · rw [scrollToPrompt, scrollRows, if_pos hzero]
    exact hzero
  unfold scrollToPrompt
  set moved := t.scrollRows t.lastPromptRow with hmoved
  by_contra hnewer
  obtain ⟨hactive, hrow⟩ := isPromptRow_lastPromptRow hnewer
  rw [hmoved, activeRows_scrollRows, ← hmoved] at hactive
  -- a prompt that is left below the first row was one before, further down
  have hprompt : moved.reporter.prompt = t.reporter.prompt := by
    rw [hmoved, (TellsNothing.scrollRows t _).reporter]
  have hcame : moved.main.row? moved.lastPromptRow =
      t.main.row? (t.lastPromptRow + moved.lastPromptRow) := by
    rw [hmoved, row?_scrollRows h t.lastPromptRow_le hzero, ← hmoved, if_pos hactive]
  rw [isPromptRow_congr hprompt hcame] at hrow
  have := le_lastPromptRow (by omega) hrow
  omega

end GlassTty.Terminal
