import GlassTty.Proofs.Report.Offsets
import GlassTty.Proofs.Terminal.Clean
import GlassTty.Proofs.Terminal.Settled

/-!
# Where commands begin

With every row that is told goes the column where the command begins on it. That column depends on
the text of the row and on its mark, but a row is told again only if its cells have changed or the
cursor has come or gone. So the viewer may be left with an old column: if the shell reports a prompt
on a row that was told before, the row becomes a command line and the viewer does not hear of it
(`GlassTty.Terminal.offset_missed_of_late_prompt`).

Only the first row of the main screen can be concerned. The rows below it are no command lines when
they are told, as an update brings the newest command line to the top first, and the rows of the
alternate screen have no marks. As long as the first row, while it is left out, begins its command
where it was told to (`GlassTty.Terminal.keepsCommandLine`), the viewer knows for each row that is
shown what an update of everything would tell it (`GlassTty.Terminal.heard_toldOfRun_update`).

What is carried from operation to operation is `GlassTty.Terminal.Informed`: with the events that
still wait for it, the viewer knows what the screen was like when it was told last
(`GlassTty.Reporter.Knows`).
-/

namespace GlassTty

open TerminalEvent (heard)

namespace Terminal

variable {t u : Terminal} {row : Nat} {known : Option Nat}

theorem screen_view (t : Terminal) : t.view.screen = t.screen := by
  unfold view LiveView.screen screen
  cases t.altMode <;> rfl

/-- **The first row begins its command where it was told to**: if the main screen is shown and its
first row is left out of the update, the mark that the row has now gives the column that the mark
gave that it was told with. -/
def keepsCommandLine (t : Terminal) : Bool :=
  t.altMode ||
    match t.main.row? 0, t.reporter.main.bind (·.row? 0) with
    | some live, some before =>
      t.reporter.tells t.view t.reporter.main 0 live ||
        t.reporter.promptOffset live.text live.mark = t.reporter.promptOffset live.text before.mark
    | _, _ => true

theorem keepsCommandLine_spec (h : t.keepsCommandLine = true) (hmain : t.altMode = false)
    {told : Screen} {before live : Row} (htold : t.reporter.main = some told)
    (hbefore : told.row? 0 = some before) (hlive : t.main.row? 0 = some live)
    (hleft : t.reporter.tells t.view t.reporter.main 0 live = false) :
    t.reporter.promptOffset live.text live.mark =
      t.reporter.promptOffset live.text before.mark := by
  have hrow : t.reporter.main.bind (·.row? 0) = some before := by
    rw [htold]
    exact hbefore
  rw [keepsCommandLine, hmain, hlive, hrow] at h
  simpa [hleft] using h

/-- A row of the main screen below the newest command line is none. -/
theorem promptOffset_of_not_prompt {live : Row} (hnewest : t.lastPromptRow = 0) (hrow : row ≠ 0)
    (hactive : row < t.activeRows) (hlive : t.main.row? row = some live) :
    t.reporter.promptOffset live.text live.mark = 0 := by
  by_contra hpos
  have hprompt : t.isPromptRow row = true := by
    rw [isPromptRow, Screen.rowText, Screen.mark?, hlive]
    exact decide_eq_true (Nat.pos_of_ne_zero hpos)
  have := le_lastPromptRow hactive hprompt
  omega

/-! ### What an update tells of a row -/

theorem rowCount_view_of_main (h : t.altMode = false) : t.view.rowCount = t.activeRows := by
  rw [LiveView.rowCount, isSome_alt_view, h]
  rfl

theorem alt_view_of_alt (h : t.altMode = true) : t.view.alt = some t.alt := by
  rw [view, if_pos h]

theorem altMode_eq_of_alt_view {alt : Option Screen} (h : t.view.alt = alt) :
    t.altMode = alt.isSome := by
  rw [← isSome_alt_view, h]

/-- Unless everything is told anew, the screen that was told before is the one that is shown. -/
theorem alt_of_not_needsFull (h : t.altMode = false)
    (hfull : t.reporter.needsFull t.view = false) : t.reporter.alt = none := by
  simp only [Reporter.needsFull, Bool.or_eq_false_iff, decide_eq_false_iff_not, ne_eq,
    not_not] at hfull
  rw [← Option.isNone_iff_eq_none, ← Option.not_isSome, ← hfull.2, isSome_alt_view, h]
  rfl

theorem rowCount_told (t : Terminal) : t.told.rowCount = t.view.rowCount := by
  unfold RowUpdate.rowCount LiveView.rowCount
  rw [isSome_alt_view]
  rfl

/-- What is known of a row that is shown: what is told now, or what was known. -/
theorem offsetAfter_told {live : Row} (hrow : row < t.view.rowCount)
    (hlive : t.screen.row? row = some live) (known : Option Nat) :
    t.told.offsetAfter row known =
      if t.reporter.tells t.view (t.reporter.compared t.view) row live then
        some (t.reporter.promptOffset live.text live.mark)
      else known := by
  have hfind := t.reporter.find?_changedRows hrow (by rw [screen_view]; exact hlive)
  have hrows : t.told.rows = t.reporter.changedRows t.view := rfl
  have hfull : t.told.fullUpdate = t.reporter.needsFull t.view := rfl
  rw [RowUpdate.offsetAfter, rowCount_told, if_neg (Nat.not_le.mpr hrow), hrows, hfind, hfull]
  cases htells : t.reporter.tells t.view (t.reporter.compared t.view) row live with
  | true => rfl
  | false =>
    rw [(Reporter.told_of_not_tells htells).1]
    rfl

/-- A row of the alternate screen, while that is shown. -/
theorem offsetAfter_told_alt (hbounds : t.InBounds) {live : Row} (halt : t.altMode = true)
    (hlive : t.alt.row? row = some live) (known : Option Nat) :
    t.told.offsetAfter row known =
      if t.reporter.tells t.view t.reporter.alt row live then
        some (t.reporter.promptOffset live.text live.mark)
      else known := by
  have hrow : row < t.view.rowCount := by
    have hlt := Screen.lt_height_of_row? hlive
    rw [(Screen.hasSize_iff.mp hbounds.alt).2] at hlt
    rw [LiveView.rowCount, isSome_alt_view, halt]
    exact hlt
  have hshown : t.screen.row? row = some live := by
    rw [screen, halt]
    exact hlive
  rw [offsetAfter_told hrow hshown, Reporter.compared, isSome_alt_view, halt]
  rfl

/-- An active row of the main screen, while that is shown. -/
theorem offsetAfter_told_main {live : Row} (hmain : t.altMode = false) (hrow : row < t.activeRows)
    (hlive : t.main.row? row = some live) (known : Option Nat) :
    t.told.offsetAfter row known =
      if t.reporter.tells t.view t.reporter.main row live then
        some (t.reporter.promptOffset live.text live.mark)
      else known := by
  have hrow' : row < t.view.rowCount := by rwa [rowCount_view_of_main hmain]
  have hshown : t.screen.row? row = some live := by
    rw [screen, hmain]
    exact hlive
  rw [offsetAfter_told hrow' hshown, Reporter.compared, isSome_alt_view, hmain]
  rfl

/-- Of a row that is not shown nothing is known. -/
theorem offsetAfter_told_of_le (hmain : t.altMode = false) (hrow : t.activeRows ≤ row)
    (known : Option Nat) : t.told.offsetAfter row known = none := by
  rw [RowUpdate.offsetAfter, rowCount_told, rowCount_view_of_main hmain, if_pos hrow]

/-- **With an update a viewer comes to know what it is told.** -/
theorem knows_report (hbounds : t.InBounds) (hclean : t.Clean)
    (hnewest : t.altMode = false → t.lastPromptRow = 0) (hkeeps : t.keepsCommandLine = true)
    (h : t.reporter.Knows row known) :
    t.report.reporter.Knows row (t.told.offsetAfter row known) where
  alt := by
    intro screen live hscreen hlive
    have halt : t.altMode = true := altMode_eq_of_alt_view hscreen
    obtain rfl : t.alt = screen := Option.some.inj ((alt_view_of_alt halt).symm.trans hscreen)
    have hmark : live.mark = none := hclean.alt row live (Nat.zero_le _) hlive
    rw [offsetAfter_told_alt hbounds halt hlive]
    split
    · rw [hmark]
      rfl
    · next hleft =>
      rw [Bool.not_eq_true] at hleft
      obtain ⟨-, screen, before, hscreen, hbefore, hcells⟩ := Reporter.told_of_not_tells hleft
      rw [h.alt screen before hscreen hbefore, Row.text, hcells]
      rfl
  first := by
    rintro screen live halt hscreen rfl hlive
    have hmain : t.altMode = false := altMode_eq_of_alt_view halt
    obtain rfl : t.main = screen := Option.some.inj hscreen
    rcases Nat.eq_zero_or_pos t.activeRows with hnone | hactive
    · -- the row is not shown, and it is blank
      have hblank : live.IsBlank := hclean.main hnone 0 live (le_of_eq hnone) hlive
      rw [offsetAfter_told_of_le hmain (le_of_eq hnone), hblank.text]
      exact (promptOffset_empty _ _).symm
    · rw [offsetAfter_told_main hmain hactive hlive]
      split
      · rfl
      · next hleft =>
        rw [Bool.not_eq_true] at hleft
        obtain ⟨hfull, screen, before, hscreen, hbefore, hcells⟩ :=
          Reporter.told_of_not_tells hleft
        have htext : before.text = live.text := by rw [Row.text, Row.text, hcells]
        rw [h.first screen before (alt_of_not_needsFull hmain hfull) hscreen rfl hbefore, htext]
        exact (keepsCommandLine_spec hkeeps hmain hscreen hbefore hlive hleft).symm
  below := by
    intro halt _ hrow
    have hmain : t.altMode = false := altMode_eq_of_alt_view halt
    rcases Nat.lt_or_ge row t.activeRows with hactive | hbelow
    · obtain ⟨live, hlive⟩ : ∃ live, t.main.row? row = some live := by
        have hlt : row < t.main.height := by
          rw [(Screen.hasSize_iff.mp hbounds.main).2]
          exact hactive.trans_le hbounds.activeRows
        exact ⟨_, Array.getElem?_eq_getElem hlt⟩
      rw [offsetAfter_told_main hmain hactive hlive]
      split
      · exact promptOffset_of_not_prompt (hnewest hmain) hrow hactive hlive
      · next hleft =>
        rw [Bool.not_eq_true] at hleft
        obtain ⟨hfull, screen, -, hscreen, -⟩ := Reporter.told_of_not_tells hleft
        exact h.below (alt_of_not_needsFull hmain hfull) (by rw [hscreen]; rfl) hrow
    · rw [offsetAfter_told_of_le hmain hbelow]
      rfl

/-! ### Runs -/

/-- What is taken with an operation of all that the viewer is to be told. -/
def drainedOf (t : Terminal) (_ : FileSystem) : Operation → List TerminalEvent
  | .drainEvents => t.drainEvents.1
  | _ => []

/-- **All that the viewer is told** in a run: what was taken on the way and what is left. -/
def toldOfRun (t : Terminal) (files : FileSystem) (operations : List Operation) :
    List TerminalEvent :=
  t.alongRun drainedOf files operations ++ (t.run files operations).1.events

/-- The terminals that are told with an operation, the newest prompt being at the top. -/
def reportedOf (t : Terminal) (files : FileSystem) : Operation → List Terminal
  | .update => [t.tidy]
  | .write bytes =>
    (((t.marked true).moments files bytes).filter (·.endsPayload)).map (·.closed.tidy)
  | _ => []

/-- The terminals that are told in a run. -/
def reportedOfRun (t : Terminal) (files : FileSystem) (operations : List Operation) :
    List Terminal :=
  t.alongRun reportedOf files operations

/-- **The viewer of a terminal is informed** about a row, `known` being what it knew before the
events that wait for it: with these it knows what it was told. -/
structure Informed (t : Terminal) (row : Nat) (known : Option Nat) : Prop where
  clean : t.Clean
  knows : t.reporter.Knows row (heard row known t.events)

namespace Informed

theorem of_tellsNothing (h : t.Informed row known) (hclean : u.Clean) (hsilent : t.TellsNothing u) :
    u.Informed row known where
  clean := hclean
  knows := by
    rw [hsilent.events]
    exact h.knows.congr (by rw [hsilent.reporter]) (by rw [hsilent.reporter])
      (by rw [hsilent.reporter])

theorem update (h : t.Informed row known) (hvalid : t.Valid)
    (hkeeps : t.tidy.keepsCommandLine = true) : t.update.Informed row known where
  clean := h.clean.update hvalid.toInBounds
  knows := by
    have hclean := h.clean.tidy hvalid.toInBounds
    have htidy := h.of_tellsNothing hclean (.tidy t)
    have hevents : t.update.events = t.tidy.events ++ [.rowUpdate _ t.tidy.told] := rfl
    rw [hevents, TerminalEvent.heard_append]
    exact knows_report hvalid.tidy.toInBounds hclean (settled_update hvalid.toInBounds).prompt
      hkeeps htidy.knows

/-- A directive's result says nothing of rows. -/
theorem tell (h : t.Informed row known) (event : DirectiveEvent) :
    (t.tell (.directive event)).Informed row known where
  clean := ⟨h.clean.alt, h.clean.main⟩
  knows := by
    rw [Terminal.tell, TerminalEvent.heard_append]
    exact h.knows

theorem does {m : Moment} (hu : m.Does u) (h : m.terminal.Informed row known)
    (hvalid : m.terminal.Valid)
    (hkeeps : m.endsPayload = true → m.closed.tidy.keepsCommandLine = true) :
    u.Informed row known := by
  cases htold : m.endsPayload with
  | false => exact h.of_tellsNothing (h.clean.does hu hvalid.toInBounds) (hu.tellsNothing htold)
  | true =>
    obtain ⟨parser, event, rfl⟩ := hu.eq_of_endsPayload htold
    have hclosed : m.closed.Informed row known := ⟨⟨h.clean.alt, h.clean.main⟩, h.knows⟩
    have hvalid' : m.closed.Valid := ⟨{ hvalid with }, hvalid.cursor_active⟩
    have hupdate := (hclosed.update hvalid' (hkeeps htold)).tell event
    exact ⟨⟨hupdate.clean.alt, hupdate.clean.main⟩, hupdate.knows⟩

theorem write (h : t.Informed row known) (hvalid : t.Valid) (files : FileSystem) (bytes : Bytes)
    (hkeeps : ∀ u ∈ t.reportedOf files (.write bytes), u.keepsCommandLine = true) :
    (t.write files bytes).1.Informed row known := by
  refine hvalid.write_of_moments (P := fun t _ _ => t.Informed row known) (fun m hm hm' hm'' => ?_)
    h ⟨⟨h.clean.alt, h.clean.main⟩, h.knows⟩
  refine does m.does_next hm'' hm' fun htold => hkeeps _ ?_
  exact List.mem_map_of_mem (List.mem_filter.mpr ⟨hm, htold⟩)

theorem resize (h : t.Informed row known) (height width : Nat) :
    (t.resize height width).Informed row known :=
  h.of_tellsNothing (h.clean.resize height width) (.resize t height width)

theorem clear (h : t.Informed row known) : t.clear.Informed row known where
  clean := h.clean.clear
  knows := by
    unfold Terminal.clear
    dsimp only
    split <;> exact h.knows.congr rfl rfl rfl

theorem clearLast (h : t.Informed row known) (guard : Option Nat) :
    (t.clearLast guard).Informed row known where
  clean := h.clean.clearLast guard
  knows := by
    unfold Terminal.clearLast clearLast? Reporter.clearLast?
    cases t.reporter.scrollback.clearLast? guard with
    | none => exact h.knows
    | some scrollback => exact h.knows.congr rfl rfl rfl

theorem operate (h : t.Informed row known) (hvalid : t.Valid) (files : FileSystem)
    (operation : Operation)
    (hkeeps : ∀ u ∈ t.reportedOf files operation, u.keepsCommandLine = true) :
    (t.operate files operation).1.Informed row (heard row known (t.drainedOf files operation)) := by
  cases operation with
  | write bytes => exact h.write hvalid files bytes hkeeps
  | update => exact h.update hvalid (hkeeps _ List.mem_cons_self)
  | reconnect responseId => exact ⟨⟨h.clean.alt, h.clean.main⟩, h.knows.congr rfl rfl rfl⟩
  | resize height width => exact h.resize _ _
  | clear => exact h.clear
  | clearLast guard => exact h.clearLast guard
  | clickPaste click setting fallback =>
    exact clickPaste_induction (P := (Informed · row known)) files click setting fallback h
      h.clearLast
  | saveFile path content => exact h.tell _
  | drainEvents => exact ⟨⟨h.clean.alt, h.clean.main⟩, h.knows⟩
  | _ => exact ⟨⟨h.clean.alt, h.clean.main⟩, h.knows⟩

theorem run (h : t.Informed row known) (hvalid : t.Valid) (files : FileSystem)
    (operations : List Operation)
    (hkeeps : ∀ u ∈ t.reportedOfRun files operations, u.keepsCommandLine = true) :
    (t.run files operations).1.Informed row
      (heard row known (t.alongRun drainedOf files operations)) := by
  induction operations generalizing t files known with
  | nil => exact h
  | cons operation rest ih =>
    have hfirst := h.operate hvalid files operation
      fun u hu => hkeeps u (List.mem_append_left _ hu)
    rw [alongRun, TerminalEvent.heard_append]
    exact ih hfirst (hvalid.operate files operation) _
      fun u hu => hkeeps u (List.mem_append_right _ hu)

/-- After an update the viewer knows where the command begins on each row that is shown. -/
theorem eq_of_shown (h : t.update.Informed row known) (hbounds : t.InBounds) {live : Row}
    (hrow : row < t.update.view.rowCount) (hlive : t.update.screen.row? row = some live) :
    (heard row known t.update.events).getD 0 =
      t.update.reporter.promptOffset live.text live.mark := by
  have htold : t.update.reporter.alt = t.update.view.alt := rfl
  have hmain : t.update.reporter.main = some t.update.main := rfl
  cases halt : t.update.altMode with
  | true =>
    rw [screen, if_pos halt] at hlive
    have hmark : live.mark = none := h.clean.alt row live (Nat.zero_le _) hlive
    rw [h.knows.alt _ live (htold.trans (alt_view_of_alt halt)) hlive, hmark]
  | false =>
    have hnone : t.update.view.alt = none := by
      rw [view, halt]
      rfl
    have hlive' : t.update.main.row? row = some live := by
      rw [screen, halt] at hlive
      exact hlive
    rw [rowCount_view_of_main halt] at hrow
    by_cases hzero : row = 0
    · subst hzero
      exact h.knows.first _ live (htold.trans hnone) hmain rfl hlive'
    · rw [h.knows.below (htold.trans hnone) (by rw [hmain]; rfl) hzero]
      exact (promptOffset_of_not_prompt ((settled_update hbounds).prompt halt) hzero hrow
        hlive').symm

end Informed

/-- **What a viewer was told last of a row is what it would be told now**, as long as the first row
begins its command where it was told to. After any run that ends with an update, a row that is shown
begins its command where the viewer knows it to, and this is where an update of everything would
have it. A viewer that knows nothing of a row takes it for no command line. -/
theorem heard_toldOfRun_update (name : String) (config : TerminalConfig) (files : FileSystem)
    (operations : List Operation) (hwidth : config.width ≤ maxWord)
    (hheight : config.height ≤ maxWord)
    (hkeeps : ∀ u ∈ (new name config).reportedOfRun files (operations ++ [.update]),
      u.keepsCommandLine = true) :
    let t := ((new name config).run files (operations ++ [.update])).1
    let told := (new name config).toldOfRun files (operations ++ [.update])
    ∀ row live, row < t.view.rowCount → t.screen.row? row = some live →
      (heard row none told).getD 0 = t.reporter.promptOffset live.text live.mark ∧
        ⟨row, t.reporter.promptOffset live.text live.mark, live.encoded⟩ ∈
          (t.reporter.forceFullUpdate.update t.view).1.rows := by
  intro t told row live hrow hlive
  have hnew := valid_new name hwidth hheight
  have hstart : (new name config).Informed row none :=
    ⟨.of_nothingBelow (Screen.allFrom_blank Row.lasting_isUnmarked _ _ _)
        (Screen.allFrom_blank Row.lasting_isBlank _ _ _),
      ⟨fun _ _ halt => (by cases halt), fun _ _ _ hmain => (by cases hmain),
        fun _ hmain => (by cases hmain)⟩⟩
  have hend := hstart.run hnew files (operations ++ [.update]) hkeeps
  have ht : t = ((new name config).run files operations).1.update :=
    congrArg Prod.fst (run_append _ _ _ _)
  have htold : heard row none told =
      heard row (heard row none ((new name config).alongRun drainedOf files
        (operations ++ [.update]))) t.events :=
    TerminalEvent.heard_append _ _ _ _
  refine ⟨?_, ?_⟩
  · change t.Informed row _ at hend
    rw [htold]
    rw [ht] at hend hrow hlive ⊢
    exact hend.eq_of_shown (hnew.run files operations).toInBounds hrow hlive
  · have hfull : t.reporter.forceFullUpdate.tells t.view
        (t.reporter.forceFullUpdate.compared t.view) row live = true := rfl
    exact Reporter.mem_changedRows.mpr
      ⟨hrow, live, by rw [screen_view]; exact hlive, hfull, rfl⟩

/-- A command line that is left out of the second update, where only the row below it is told. -/
theorem heard_toldOfRun_row_left_out :
    let config : TerminalConfig :=
      { width := 4, height := 2, cookie := "", prompt := some ⟨"", "", "$"⟩ }
    let operations : List Operation :=
      [.write (utf8Bytes "\x1b[?1150;h/\x1b[?1150l$ a\r\nx"), .update, .write (utf8Bytes "y")]
    let t := ((new "left" config).run default (operations ++ [.update])).1
    let told := (new "left" config).toldOfRun default (operations ++ [.update])
    ((config.width ≤ maxWord ∧ config.height ≤ maxWord) ∧
      ∀ u ∈ (new "left" config).reportedOfRun default (operations ++ [.update]),
        u.keepsCommandLine = true) ∧
      ∀ row live, row < t.view.rowCount → t.screen.row? row = some live →
        (heard row none told).getD 0 = t.reporter.promptOffset live.text live.mark ∧
          ⟨row, t.reporter.promptOffset live.text live.mark, live.encoded⟩ ∈
            (t.reporter.forceFullUpdate.update t.view).1.rows := by
  intro config operations t told
  have hall : ((new "left" config).reportedOfRun default (operations ++ [.update])).all
      keepsCommandLine = true := by decide +kernel
  have hkeeps := List.all_eq_true.mp hall
  exact ⟨⟨by decide, hkeeps⟩,
    heard_toldOfRun_update "left" config default operations (by decide) (by decide) hkeeps⟩

/-- **A prompt that is reported late is missed.** The row was told before the shell reported the
prompt that stands on it. With that the row becomes a command line, but its cells and the cursor are
as they were, so it is left out of the next update. An update of everything would tell it. -/
theorem offset_missed_of_late_prompt :
    let config : TerminalConfig :=
      { width := 4, height := 2, cookie := "", prompt := some ⟨"", "", "$"⟩ }
    let operations : List Operation :=
      [.write (utf8Bytes "$ "), .update, .write (utf8Bytes "\x1b[?1150;h/\x1b[?1150l"), .update]
    let t := ((new "late" config).run default operations).1
    heard 0 none ((new "late" config).toldOfRun default operations) = some 0 ∧
      (t.reporter.forceFullUpdate.update t.view).1.rows = [⟨0, 1, .plain "$ "⟩] := by
  decide +kernel

end Terminal

end GlassTty
