import GlassTty.Proofs.Report.Viewer
import GlassTty.Proofs.Terminal.Prompt

/-!
# When nothing is left to tell

After an update there is nothing to tell until something happens. This file says what that means of
the terminal (`GlassTty.Terminal.Settled`): the newest prompt stands in the first row, so that no
row has to go into the scrollback, and the reporter finds no difference between what it keeps and
what it is shown. A settled terminal tells nothing but an empty update, and is left as it was.

* Every update settles (`GlassTty.Terminal.settled_update`). It moves rows before it compares, and
  the point is that there is no second row to move afterwards
  (`GlassTty.Terminal.lastPromptRow_scrollToPrompt`): the rows that come up keep their texts and
  their marks, and those below the newest prompt are no prompts.
* What an update does not look at may change, and the terminal stays settled
  (`GlassTty.Terminal.Settled.of_looksLike`).
-/

namespace GlassTty

/-! ### Updates that tell nothing -/

/-- No difference: not everything is told, no row and no line. -/
def ScreenDiff.nothing : ScreenDiff :=
  { fullUpdate := false, rows := [], scrollback := [] }

/-- Lines that have been told are not told again. -/
theorem Scrollback.takeUnreported_twice (s : Scrollback) :
    s.takeUnreported.2.takeUnreported = ([], s.takeUnreported.2) := by
  have hnone : s.takeUnreported.2.unreported = 0 := by
    simp only [Scrollback.takeUnreported, Scrollback.unreported]
    omega
  rw [Scrollback.takeUnreported, hnone, Nat.sub_zero, List.drop_length]
  rfl

/-- **A view that was told is not told again.** -/
theorem Reporter.update_twice (r : Reporter) (view : LiveView) :
    (r.update view).2.update view = (.nothing, (r.update view).2) := by
  set told := (r.update view).2 with htold
  have hfull : told.needsFull view = false := by
    simp [Reporter.needsFull, htold, Reporter.update]
  have hscreen : told.compared view = some view.screen := by
    rw [Reporter.compared_eq hfull]
    exact Viewer.toldScreen_update r view
  have hrows : told.changedRows view = [] := by
    rw [List.eq_nil_iff_forall_not_mem]
    intro c hc
    obtain ⟨-, live, hlive, htells, -⟩ := Reporter.mem_changedRows.mp hc
    -- the row is compared with itself, and the cursor is where it was
    have hsame : told.tells view (told.compared view) c.row live = false := by
      rw [Reporter.tells, hfull, hscreen]
      simp [hlive, htold, Reporter.update]
    rw [hsame] at htells
    cases htells
  have hlines := r.scrollback.takeUnreported_twice
  unfold Reporter.update
  rw [hfull, hrows]
  have hkept : told.scrollback = r.scrollback.takeUnreported.2 := rfl
  rw [hkept, hlines]
  rfl

namespace Terminal

/-! ### Settled terminals -/

/-- **Nothing is left to tell**: no row has to go into the scrollback, the reporter finds no
difference, no request is to be answered and no update is due. -/
structure Settled (t : Terminal) : Prop where
  prompt : t.altMode = false → t.lastPromptRow = 0
  reporter : t.reporter.update t.view = (.nothing, t.reporter)
  pending : t.pendingReconnect = none
  due : t.needsUpdating = false

/-- With the newest prompt in the first row there is nothing to be moved. -/
theorem tidy_eq_self {t : Terminal} (h : t.altMode = false → t.lastPromptRow = 0) :
    t.tidy = t := by
  unfold tidy
  split
  · rfl
  · next hmain =>
    rw [scrollToPrompt, h (by simpa using hmain)]
    rfl

/-- **What a settled terminal tells**: an update with nothing in it. All else stays as it is. -/
theorem Settled.update_eq {t : Terminal} (h : t.Settled) :
    t.update = t.tell (.rowUpdate "" (t.rowUpdate .nothing)) := by
  have htidy : t.tidy = t := tidy_eq_self h.prompt
  have hsame : { t with needsUpdating := false, pendingReconnect := none } = t := by
    rw [← h.due, ← h.pending]
  have hreport : t.report = ({ t with needsUpdating := false, pendingReconnect := none }).tell
      (.rowUpdate "" (t.rowUpdate .nothing)) := by
    rw [report, h.reporter, h.pending]
    rfl
  rw [update, htidy, hreport, hsame]

theorem isSome_alt_view (t : Terminal) : t.view.alt.isSome = t.altMode := by
  unfold view
  cases t.altMode <;> rfl

/-- Where the newest prompt stands is a matter of what is shown. -/
theorem lastPromptRow_congr {t u : Terminal} (hview : u.view = t.view)
    (hprompt : u.reporter.prompt = t.reporter.prompt) :
    u.altMode = t.altMode ∧ u.lastPromptRow = t.lastPromptRow := by
  have hactive : u.activeRows = t.activeRows := congrArg LiveView.activeRows hview
  have hmain : u.main = t.main := congrArg LiveView.main hview
  have hrows : u.isPromptRow = t.isPromptRow := by
    funext row
    exact isPromptRow_congr hprompt (by rw [hmain])
  constructor
  · rw [← isSome_alt_view, ← isSome_alt_view, hview]
  · rw [lastPromptRow, lastPromptRow, hactive, hrows]

/-- The same is shown in two terminals, and the same was told. -/
structure LooksLike (t u : Terminal) : Prop where
  view : u.view = t.view
  reporter : u.reporter = t.reporter

theorem LooksLike.trans {t u v : Terminal} (h : t.LooksLike u) (h' : u.LooksLike v) :
    t.LooksLike v :=
  ⟨h'.view.trans h.view, h'.reporter.trans h.reporter⟩

theorem Settled.of_looksLike {t u : Terminal} (h : t.Settled) (hu : t.LooksLike u)
    (hpending : u.pendingReconnect = none) (hdue : u.needsUpdating = false) : u.Settled where
  prompt := by
    obtain ⟨halt, hnewest⟩ := lastPromptRow_congr hu.view (by rw [hu.reporter])
    rw [halt, hnewest]
    exact h.prompt
  reporter := by rw [hu.view, hu.reporter]; exact h.reporter
  pending := hpending
  due := hdue

/-- **Every update settles.** -/
theorem settled_update {t : Terminal} (h : t.InBounds) : t.update.Settled where
  prompt := by
    intro hmain
    have htidy : t.tidy.altMode = false := hmain
    have hcongr : t.update.lastPromptRow = t.tidy.lastPromptRow := rfl
    rw [hcongr]
    unfold tidy at htidy ⊢
    split
    · next halt =>
      rw [if_pos halt] at htidy
      rw [halt] at htidy
      cases htidy
    · exact lastPromptRow_scrollToPrompt h
  reporter := t.tidy.reporter.update_twice t.tidy.view
  pending := rfl
  due := rfl

/-- **An update that follows another one tells nothing.** Whatever a terminal of a size within
words has gone through, a second update is one with nothing in it: not everything is told, no row
and no line of the scrollback, and it answers no request. It leaves the terminal as the first one
left it, with one more event for the viewer. -/
theorem update_update_run (name : String) (config : TerminalConfig) (files : FileSystem)
    (operations : List Operation) (hwidth : config.width ≤ maxWord)
    (hheight : config.height ≤ maxWord) :
    let t := ((new name config).run files operations).1
    t.update.update = t.update.tell (.rowUpdate "" (t.update.rowUpdate .nothing)) := by
  intro t
  have hvalid : t.Valid := (valid_new name hwidth hheight).run files operations
  exact (settled_update hvalid.toInBounds).update_eq

/-- Two command lines: the first update moves the upper one into the scrollback. -/
theorem update_update_two_prompts :
    let config : TerminalConfig :=
      { width := 4, height := 3, cookie := "", prompt := some ⟨"%", "", "$"⟩ }
    let t := ((new "two" config).run default [.write (utf8Bytes "%$a\r\n%$b")]).1
    (config.width ≤ maxWord ∧ config.height ≤ maxWord) ∧
      t.update.update = t.update.tell (.rowUpdate "" (t.update.rowUpdate .nothing)) :=
  ⟨by decide, update_update_run "two" _ default _ (by decide) (by decide)⟩

end Terminal

end GlassTty
