import GlassTty.Proofs.Escape.Feed
import GlassTty.Proofs.Terminal.Run
import GlassTty.Proofs.Transcript.Shows

/-!
# Nothing that is printed is lost

The lines of the scrollback and the active rows of the screen, one after the other, are the text
that a program has printed, piece by piece
(`GlassTty.Transcript.scrollback_append_rows_eq_transcript`). Rows come to the scrollback in two
ways, one at a time where the screen is full and in blocks when an update brings a prompt to the
top, and neither loses one, tells one twice or changes their order.

The terminal shows a sheet at all times (`GlassTty.Terminal.Shows`), and all pieces of the sheet are
the transcript of what was printed so far; here this is carried through the bytes of an item
(`GlassTty.Terminal.Printed.item`), the items of a write and the steps of a run.
-/

namespace GlassTty

namespace Terminal

open Transcript

variable {t : Terminal}

/-! ### Items -/

section Items

variable {width capacity : Nat} {s : Sheet} {items : List Item}

/-- A character is printed. -/
theorem Shows.interpret_char (h : t.Shows width capacity s) (files : FileSystem) {c : Char}
    (hc : 0x20 ≤ c.toNat) :
    t.interpret files (String.utf8EncodeChar c) = (t.print c, files) := by
  obtain ⟨lead, byte, p, hencode, hfeed, hlast⟩ := Parser.feed_encodeChar hc
  rw [hencode]
  exact interpret_of_start h.directive h.parser files hfeed hlast

/-- The end of a line is a carriage return and a line feed. -/
theorem Shows.interpret_newline (h : t.Shows width capacity s) (files : FileSystem) :
    t.interpret files [0x0D, 0x0A] =
      ((t.withCursor t.cursor.carriageReturn).cursorDown, files) := by
  have hdirective : (t.perform .carriageReturn).directive = none := h.directive
  have hparser : (t.perform .carriageReturn).parser = .start := h.parser
  have hreturn : t.interpret files ([] ++ [0x0D]) = (t.perform .carriageReturn, files) :=
    interpret_of_start h.directive h.parser files rfl (by decide)
  have hfeed : (t.perform .carriageReturn).interpret files ([] ++ [0x0A]) =
      ((t.perform .carriageReturn).perform .lineFeed, files) :=
    interpret_of_start hdirective hparser files rfl (by decide)
  rw [show ([0x0D, 0x0A] : Bytes) = ([] ++ [0x0D]) ++ ([] ++ [0x0A]) from rfl, interpret_append,
    hreturn]
  exact hfeed

/-- The last byte of a mode sets it or resets it. -/
theorem feed_mode :
    ∃ p, Parser.start.feed Item.mode = ([], p) ∧
      p.advance 0x68 = (some (.setMode [DirectiveCode.promptMode, 0]), .start) ∧
      p.advance 0x6C = (some (.resetMode [DirectiveCode.promptMode, 0]), .start) :=
  ⟨_, rfl, by decide, by decide⟩

/-- The mode for directories opens a prompt directive, on the main screen. -/
theorem perform_setMode_prompt (hmain : t.altMode = false) :
    ∃ buffer : DirectiveBuffer, buffer.code = .prompt ∧
      t.perform (.setMode [DirectiveCode.promptMode, 0]) = { t with directive := some buffer } := by
  let buffer : DirectiveBuffer :=
    { code := .prompt
      validated := presentsCookie (some 0) t.cookie
      limit := t.maxDirectiveBytes }
  refine ⟨buffer, rfl, ?_⟩
  change t.openDirective .prompt (some 0) = _
  rw [openDirective, if_neg (by rw [hmain]; exact Bool.false_ne_true)]
  rfl

/-- The end of a prompt directive leaves at most a mark on the row of the cursor. -/
theorem finish_prompt (t : Terminal) (files : FileSystem) {buffer : DirectiveBuffer}
    (hcode : buffer.code = .prompt) :
    ∃ u, t.finish files buffer = (u, files) ∧
      (u = { t with directive := none } ∨
        ∃ directory, u = { t with directive := none }.expectPrompt directory) := by
  have hquiet : buffer.isTold = false := by simp [DirectiveBuffer.isTold, hcode]
  rw [finish_eq, hquiet]
  exact ⟨_, rfl, t.ended_eq buffer⟩

theorem activeRows_expectPrompt (t : Terminal) (directory : String) :
    (t.expectPrompt directory).activeRows = t.activeRows := by
  unfold expectPrompt
  split <;> rfl

/-- **A directory that is told** leaves at most a mark on the row of the cursor. -/
theorem Shows.interpret_directory (h : t.Shows width capacity s) (files : FileSystem) {dir : Bytes}
    (hfree : Parser.esc ∉ dir) :
    ∃ u, t.interpret files (Item.opening ++ dir ++ Item.closing) = (u, files) ∧
      u.Shows width capacity s ∧ u.activeRows = t.activeRows := by
  obtain ⟨p, hfeed, hset, hreset⟩ := feed_mode
  obtain ⟨buffer, hcode, hperform⟩ := perform_setMode_prompt h.main_shown
  obtain ⟨u, hfinish, hu⟩ := finish_prompt { t with directive := some buffer } files
    ((DirectiveBuffer.code_extend buffer dir).trans hcode)
  have hself : { t with directive := none } = t := by rw [← h.directive]
  dsimp only at hu
  rw [hself] at hu
  have hshows : u.Shows width capacity s ∧ u.activeRows = t.activeRows := by
    rcases hu with rfl | ⟨directory, rfl⟩
    · exact ⟨h, rfl⟩
    · exact ⟨h.expectPrompt directory, activeRows_expectPrompt t directory⟩
  refine ⟨u, ?_, hshows⟩
  calc t.interpret files (Item.opening ++ dir ++ Item.closing)
    _ = ({ t with directive := some buffer } : Terminal).interpret files
        (dir ++ Parser.esc :: (Item.mode.tail ++ [0x6C])) := by
      -- the mode is set, which opens the directive
      rw [List.append_assoc, interpret_append, Item.opening,
        interpret_of_start h.directive h.parser files hfeed hset, hperform]
      rfl
    _ = (u.parse Parser.esc).interpret files (Item.mode.tail ++ [0x6C]) := by
      -- the escape that resets the mode ends it first
      rw [interpret_of_escape rfl files hfree, hfinish]
    _ = u.interpret files Item.closing := (interpret_of_none hshows.1.directive files _ _).symm
    _ = (u, files) := interpret_of_start hshows.1.directive hshows.1.parser files hfeed hreset

end Items

/-! ### What has been printed -/

/-- **Items have been printed**: the terminal shows a sheet with their transcript, and has an active
row if any of them belongs to the text. -/
def Printed (t : Terminal) (width capacity : Nat) (items : List Item) : Prop :=
  ∃ s : Sheet, t.Shows width capacity s ∧ s.all = transcript width items ∧
    (items.any Item.isText = true → 1 ≤ t.activeRows)

/-- A row that is entered is active. -/
theorem one_le_activeRows_touch (h : t.touchCursorRow.altMode = false) :
    1 ≤ t.touchCursorRow.activeRows := by
  have hmain : t.altMode = false := by
    unfold touchCursorRow at h
    split at h <;> exact h
  rw [touchCursorRow_of_main hmain]
  dsimp only
  omega

theorem activeRows_update (h : t.altMode = false) :
    t.update.activeRows = t.activeRows - t.lastPromptRow := by
  change t.tidy.activeRows = _
  rw [tidy, if_neg (by rw [h]; exact Bool.false_ne_true), scrollToPrompt, scrollRows]
  split
  · omega
  · rw [foldl_scrollOff]
    rfl

namespace Printed

variable {width capacity : Nat} {items : List Item}

/-- **One more item has been printed** once its bytes are interpreted. -/
theorem item (h : t.Printed width capacity items) (files : FileSystem) (item : Item) :
    (t.interpret files item.bytes).1.Printed width capacity (items ++ [item]) ∧
      (t.interpret files item.bytes).2 = files := by
  obtain ⟨s, hshows, hall, hactive⟩ := h
  cases item with
  | char c printable =>
    have hc : c ≠ '\x00' := by
      -- a control, which no cell that is printed holds
      rintro rfl
      exact absurd printable (by decide)
    obtain ⟨hle, htype⟩ := Sheet.all_type hshows.width_pos t.height hall printable
    have hprint := hshows.print hle hc
    rw [Item.bytes, hshows.interpret_char files printable]
    exact ⟨⟨_, hprint, htype, fun _ => one_le_activeRows_touch hprint.main_shown⟩, rfl⟩
  | newline =>
    have hline := hshows.newLine
    rw [Item.bytes, hshows.interpret_newline files]
    refine ⟨⟨_, hline, ?_, fun _ => one_le_activeRows_touch hline.main_shown⟩, rfl⟩
    rw [s.all_feed, hall, transcript_append_newline]
  | directory dir free =>
    obtain ⟨u, hinterpret, hu, hrows⟩ := hshows.interpret_directory files free
    rw [Item.bytes, hinterpret]
    refine ⟨⟨s, hu, ?_, fun htext => ?_⟩, rfl⟩
    · rw [hall, transcript_append_directory]
    · rw [hrows]
      exact hactive (by simpa [Item.isText] using htext)

theorem interpret (h : t.Printed width capacity items) (files : FileSystem) (more : List Item) :
    (t.interpret files (more.flatMap Item.bytes)).1.Printed width capacity (items ++ more) := by
  induction more generalizing t items files with
  | nil =>
    rw [List.flatMap_nil, interpret_nil, List.append_nil]
    exact h
  | cons item more ih =>
    obtain ⟨hitem, hfiles⟩ := h.item files item
    rw [List.flatMap_cons, interpret_append, List.append_cons]
    exact ih hitem _

/-- The items of a write have been printed after it. -/
theorem write (h : t.Printed width capacity items) (files : FileSystem) (more : List Item) :
    (t.write files (more.flatMap Item.bytes)).1.Printed width capacity (items ++ more) := by
  rw [Terminal.write]
  split
  · next hempty =>
    have hnone := h.interpret files more
    rw [List.isEmpty_iff.mp hempty, interpret_nil] at hnone
    exact hnone
  · obtain ⟨s, hshows, hall, hactive⟩ := h
    have hdue : { t with needsUpdating := true }.Printed width capacity items :=
      ⟨s, { hshows with }, hall, hactive⟩
    exact hdue.interpret files more

/-- An update prints nothing, and takes no row of the newest prompt away. -/
theorem update (h : t.Printed width capacity items) : t.update.Printed width capacity items := by
  obtain ⟨s, hshows, hall, hactive⟩ := h
  refine ⟨_, hshows.update, (s.all_scroll _).trans hall, fun htext => ?_⟩
  have hrows := hactive htext
  have hprompt := t.lastPromptRow_lt
  rw [activeRows_update hshows.main_shown]
  omega

/-- **The text that has been printed** is in the scrollback and on the active rows, unless more of
it has left the screen than the scrollback keeps. -/
theorem lines_append_rows (h : t.Printed width capacity items)
    (htext : items.any Item.isText = true)
    (hfits : (transcript width items).length ≤ capacity + t.activeRows) :
    t.scrollback.lines.map (·.line) ++ (List.range t.activeRows).map t.main.rowText =
      (transcript width items).map shownText := by
  obtain ⟨s, hshows, hall, hactive⟩ := h
  have hrows : t.activeRows = s.above.length + 1 := by
    have := hshows.active
    have := hactive htext
    omega
  have hgone : s.gone.length ≤ capacity := by
    rw [← hall, hrows, Sheet.all, List.length_append, List.length_append,
      List.length_singleton] at hfits
    omega
  have hlast : t.main.rowText s.above.length = shownText s.last := by
    rw [hshows.rowText_eq hshows.row_lt, s.row_length_above]
  rw [hshows.remembers.lines_eq (by rwa [List.length_map]), hrows, List.range_succ,
    List.map_append, hshows.map_rowText le_rfl, List.take_length, List.map_singleton, hlast, ← hall,
    Sheet.all, List.map_append, List.map_append, List.append_assoc]
  rfl

end Printed

/-- A new terminal has printed nothing, and shows an empty sheet. -/
theorem printed_new (name : String) (config : TerminalConfig) :
    (new name config).Printed (max config.width 1) config.maxScrollLines [] := by
  have hwidth : 1 ≤ max config.width 1 := le_max_right _ _
  have hheight : 1 ≤ max config.height 1 := le_max_right _ _
  refine ⟨Sheet.empty, ?_, (transcript_nil _).symm, fun h => absurd h Bool.false_ne_true⟩
  exact
    { width_eq := rfl
      parser := rfl
      directive := rfl
      main_shown := rfl
      region := rfl
      size := Screen.hasSize_blank hwidth hheight
      row := rfl
      row_lt := hheight
      holds := fun i r hr => by
        rw [Array.eq_of_mem_replicate (Array.mem_of_getElem? hr)]
        cases i <;> exact Row.holds_blank _
      remembers := Scrollback.remembers_empty _
      active := rfl
      col := (Nat.zero_min _).symm
      wrap := (decide_eq_false (by simp [Sheet.empty]; omega)).symm }

end Terminal

namespace Transcript

open Terminal

/-! ### Runs -/

/-- Something that is done with a terminal that a text is printed on. -/
inductive Step where
  /-- Items are printed in one write. -/
  | write (items : List Item)
  | update

namespace Step

/-- The items that a step prints. -/
def items : Step → List Item
  | .write items => items
  | .update => []

/-- What is done with the terminal. -/
def operation : Step → Operation
  | .write items => .write (items.flatMap Item.bytes)
  | .update => .update

end Step

theorem printed_run {t : Terminal} {width capacity : Nat} {items : List Item}
    (h : t.Printed width capacity items) (files : FileSystem) (steps : List Step) :
    (t.run files (steps.map Step.operation)).1.Printed width capacity
      (items ++ steps.flatMap Step.items) := by
  induction steps generalizing t items files with
  | nil => rwa [List.flatMap_nil, List.append_nil]
  | cons step steps ih =>
    rw [List.flatMap_cons, ← List.append_assoc]
    cases step with
    | write more => exact ih (h.write files more) _
    | update =>
      rw [Step.items, List.append_nil]
      exact ih h.update _

/-- **Nothing that is printed is lost.** Whatever the size of a new terminal and the prompt of its
shell, whatever is printed on it in whatever writes and whenever it is updated in between: if
anything of it is text, and the rows that have left the screen are no more than the scrollback
keeps, then the lines of the scrollback and the active rows are the transcript. -/
theorem scrollback_append_rows_eq_transcript (name : String) (config : TerminalConfig)
    (files : FileSystem) (steps : List Step)
    (htext : (steps.flatMap Step.items).any Item.isText = true)
    (hfits : (transcript (max config.width 1) (steps.flatMap Step.items)).length ≤
      config.maxScrollLines +
        ((new name config).run files (steps.map Step.operation)).1.activeRows) :
    let t := ((new name config).run files (steps.map Step.operation)).1
    t.scrollback.lines.map (·.line) ++ (List.range t.activeRows).map t.main.rowText =
      (transcript (max config.width 1) (steps.flatMap Step.items)).map shownText :=
  (printed_run (printed_new name config) files steps).lines_append_rows htext hfits

/-- On a screen of one row of two cells with a prompt, where the second update takes the first row
away before anything else could. -/
theorem three_rows_eq_transcript :
    let config : TerminalConfig :=
      { width := 2, height := 1, cookie := "", prompt := some ⟨"$", "", ">"⟩ }
    let a : Item := .char 'a' (by decide)
    let line : List Item := [a, a, a, .newline, .directory [0x2F] (by decide), a]
    let steps : List Step := [.update, .write line, .update, .update]
    let t := ((new "one row" config).run default (steps.map Step.operation)).1
    t.scrollback.lines.map (·.line) ++ (List.range t.activeRows).map t.main.rowText =
      ["aa", "a", "a"] := by
  intro config a line steps t
  have htranscript : transcript 2 line = [['a', 'a'], ['a'], ['a']] := by
    have hlines : lines line = [['a', 'a', 'a'], ['a']] := rfl
    rw [transcript, hlines]
    simp [pieces]
  have hlength : (transcript (max config.width 1) (steps.flatMap Step.items)).length ≤
      config.maxScrollLines := by
    change (transcript 2 line).length ≤ 500
    rw [htranscript]
    decide
  have h : t.scrollback.lines.map (·.line) ++ (List.range t.activeRows).map t.main.rowText =
      (transcript 2 line).map shownText :=
    scrollback_append_rows_eq_transcript "one row" config default steps rfl
      (hlength.trans (Nat.le_add_right _ _))
  rw [h, htranscript]
  decide

end Transcript

end GlassTty
