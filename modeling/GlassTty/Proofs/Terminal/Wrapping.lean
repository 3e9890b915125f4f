import GlassTty.Proofs.Directive.Framing
import GlassTty.Proofs.Escape.Feed
import GlassTty.Proofs.Terminal.Strip

/-!
# A command line that is wrapped

A command is typed behind a prompt, and it may be longer than its row. The rows that it takes up are
the end of a strip (`GlassTty.Terminal.Typing`): the first one has the mark of the prompt, each
further one a mark that continues the one above it, and the text stands on them up to the cursor.
Each character keeps this (`GlassTty.Terminal.Types.print`), so a text of any length does
(`GlassTty.Terminal.Types.printAll`). The row of the prompt may have left the screen long before the
text ends.

When the payload of a directive is opened all rows go into the scrollback, and those of the command
line become lines of one entry (`GlassTty.Terminal.command_line_one_entry_run`).
-/

namespace GlassTty.Terminal

/-! ### What is typed -/

/-- How many cells of the cursor's row stand before the next character. -/
def filled (t : Terminal) : Nat :=
  if t.cursor.pendingWrap then t.width else t.cursor.col

/-- **A command line is being typed**: its rows are the end of a strip, the first of them is that of
the prompt, and what stands on them up to the cursor is the text. -/
structure Typing (t : Terminal) (width : Nat) (r : Reporter) (directory : String)
    (above front : List Row) (last : Row) (text : List Char) : Prop where
  strip : t.Strip width r (above ++ front) last
  marks : Row.IsCommandLine directory (front ++ [last])
  col_lt : t.cursor.col < width
  chars : front.flatMap Row.chars ++ last.chars.take t.filled = text
  length : front.length * width + t.filled = text.length

/-- **Between two characters** there is one on the row that the line was continued on last. -/
structure Types (t : Terminal) (width : Nat) (r : Reporter) (directory : String)
    (above front : List Row) (last : Row) (text : List Char) : Prop extends
    Typing t width r directory above front last text where
  begun : front = [] ∨ 0 < t.filled

section Typing

variable {t : Terminal} {width : Nat} {r : Reporter} {directory : String} {above front : List Row}
  {last : Row} {text : List Char}

theorem Typing.filled_le (h : t.Typing width r directory above front last text) :
    t.filled ≤ width := by
  rw [filled, h.strip.width_eq]
  split
  · exact le_rfl
  · exact h.col_lt.le

/-- A character is put into a row with room for it. -/
theorem Typing.put (h : t.Typing width r directory above front last text)
    (hroom : t.cursor.pendingWrap = false) (c : Char) :
    let put := ((t.putChar c).withCursor
      ((t.putChar c).cursor.advanced (t.putChar c).width)).touchCursorRow
    put.Types width r directory above front (last.set t.cursor.col ⟨c, t.style⟩) (text ++ [c]) ∧
      put.activeRows = put.cursor.row + 1 := by
  intro put
  obtain ⟨hstrip, hcursor, hactive⟩ := h.strip.put c
  have hcol := h.col_lt
  have hbefore : t.filled = t.cursor.col := by rw [filled, hroom, if_neg Bool.false_ne_true]
  have hfilled : put.filled = t.cursor.col + 1 := by
    have hwidth : put.width = width := hstrip.width_eq
    rw [filled, hwidth, show put.cursor = _ from hcursor, Cursor.advanced]
    split
    · rw [if_pos rfl]
      omega
    · rw [if_neg (by simp [hroom])]
  refine ⟨⟨⟨hstrip, h.marks.of_last rfl, ?_, ?_, ?_⟩, Or.inr ?_⟩, hactive⟩
  · rw [hcursor, Cursor.advanced]
    split <;> dsimp only <;> omega
  · rw [hfilled, Row.take_chars_set _ (by rw [h.strip.cells_last]; exact hcol), ← h.chars, hbefore,
      List.append_assoc]
  · rw [hfilled, List.length_append, List.length_singleton, ← h.length, hbefore, Nat.add_assoc]
  · rw [hfilled]
    exact Nat.succ_pos _

/-- A wrap that is due begins another row of the command line. -/
theorem Typing.wrap (h : t.Typing width r directory above front last text)
    (hdue : t.cursor.pendingWrap = true) :
    ∃ next, t.wrap.Typing width r directory above (front ++ [last]) next text ∧
      t.wrap.cursor.pendingWrap = false := by
  -- the mark is read before the line feed, which may take its row off the screen
  obtain ⟨mark, hmark⟩ := h.marks.exists_mark (List.mem_append_right _ List.mem_cons_self)
  obtain ⟨next, hnext, hcol, hsettled⟩ := h.strip.wrap hdue hmark
  have hbefore : t.filled = width := by rw [filled, hdue, if_pos rfl, h.strip.width_eq]
  have hfilled : t.wrap.filled = 0 := by rw [filled, hsettled, if_neg Bool.false_ne_true, hcol]
  have hwhole : last.chars.take width = last.chars := by
    refine List.take_of_length_le ?_
    rw [Row.length_chars, h.strip.cells_last]
  rw [List.append_assoc] at hnext
  refine ⟨_, ⟨hnext, h.marks.append rfl, ?_, ?_, ?_⟩, hsettled⟩
  · rw [hcol]
    exact Nat.zero_lt_of_lt h.col_lt
  · rw [hfilled, List.take_zero, List.append_nil, List.flatMap_append, List.flatMap_singleton,
      ← h.chars, hbefore, hwhole]
  · rw [hfilled, List.length_append, List.length_singleton, Nat.succ_mul, Nat.add_zero, ← h.length,
      hbefore]

/-- **A character is typed.** -/
theorem Types.print (h : t.Types width r directory above front last text) (c : Char) :
    (∃ front last, (t.print c).Types width r directory above front last (text ++ [c])) ∧
      (t.print c).activeRows = (t.print c).cursor.row + 1 := by
  cases hdue : t.cursor.pendingWrap with
  | false =>
    have hself : t.wrap = t := by rw [Terminal.wrap, hdue, if_neg Bool.false_ne_true]
    obtain ⟨htyped, hactive⟩ := h.put hdue c
    rw [Terminal.print, hself]
    exact ⟨⟨_, _, htyped⟩, hactive⟩
  | true =>
    obtain ⟨next, hnext, hsettled⟩ := h.wrap hdue
    obtain ⟨htyped, hactive⟩ := hnext.put hsettled c
    exact ⟨⟨_, _, htyped⟩, hactive⟩

/-- **A text is typed**, of any length. -/
theorem Types.printAll (h : t.Types width r directory above front last text) (more : List Char) :
    (∃ front last,
        (more.foldl Terminal.print t).Types width r directory above front last (text ++ more)) ∧
      (t.activeRows = t.cursor.row + 1 ∨ more ≠ [] →
        (more.foldl Terminal.print t).activeRows =
          (more.foldl Terminal.print t).cursor.row + 1) := by
  induction more generalizing t front last text with
  | nil =>
    rw [List.append_nil]
    exact ⟨⟨front, last, h⟩, fun hactive => hactive.resolve_right (by simp)⟩
  | cons c rest ih =>
    obtain ⟨⟨front', last', hprint⟩, hactive⟩ := h.print c
    obtain ⟨htyped, hrest⟩ := ih hprint
    rw [List.append_assoc] at htyped
    exact ⟨htyped, fun _ => hrest (Or.inl hactive)⟩

end Typing

/-! ### The rows that are taken up -/

/-- **How many rows a command line takes up**, with so many characters behind the cursor. As long as
nothing is active and nothing is typed it takes up none. -/
def rowsTaken (t : Terminal) (count : Nat) : Nat :=
  if t.activeRows = 0 ∧ count = 0 then 0
  else max 1 ((t.filled + count + (t.width - 1)) / t.width)

/-- Rows that are full but for the last one. -/
theorem rows_of_length {width rows filled total : Nat} (hfilled : filled ≤ width)
    (hwidth : 0 < width) (hbegun : rows = 0 ∨ 0 < filled)
    (htotal : rows * width + filled = total) :
    rows + 1 = max 1 ((total + (width - 1)) / width) := by
  rcases hbegun with rfl | hbegun
  · have hone : (total + (width - 1)) / width ≤ 1 := by
      rw [← Nat.lt_succ_iff, Nat.div_lt_iff_lt_mul hwidth]
      omega
    omega
  · have hdiv : (total + (width - 1)) / width = rows + 1 := by
      refine Nat.div_eq_of_lt_le ?_ ?_
      · rw [Nat.succ_mul]
        omega
      · rw [Nat.succ_mul, Nat.succ_mul]
        omega
    omega

/-! ### The end of the command line -/

/-- **A text is printed** character by character, and nothing else comes of it. -/
theorem interpret_text {t : Terminal} (hopen : t.directive = none) (hstart : t.parser = .start)
    (files : FileSystem) {text : List Char} (htext : ∀ c ∈ text, 0x20 ≤ c.toNat) :
    t.interpret files (text.flatMap String.utf8EncodeChar) = (text.foldl print t, files) ∧
      (text.foldl print t).directive = none ∧ (text.foldl print t).parser = .start := by
  induction text generalizing t with
  | nil => exact ⟨interpret_nil t files, hopen, hstart⟩
  | cons c rest ih =>
    obtain ⟨lead, byte, p, hencode, hfeed, hlast⟩ :=
      Parser.feed_encodeChar (htext c List.mem_cons_self)
    have hsurroundings : (t.print c).surroundings = t.surroundings :=
      surroundings_perform t (.print c)
    have hopen' : (t.print c).directive = none :=
      (congrArg Surroundings.directive hsurroundings).trans hopen
    have hstart' : (t.print c).parser = .start :=
      (congrArg Surroundings.parser hsurroundings).trans hstart
    have hchar : t.interpret files (String.utf8EncodeChar c) = (t.print c, files) := by
      rw [hencode]
      exact interpret_of_start hopen hstart files hfeed hlast
    rw [List.flatMap_cons, interpret_append, hchar]
    exact ih hopen' hstart' fun d hd => htext d (List.mem_cons_of_mem _ hd)

/-- The rows from the top go into the scrollback in their order. -/
theorem foldl_scrollOff_rows (s : Screen) (r : Reporter) {count : Nat} (h : count ≤ s.height) :
    (List.range count).foldl (fun r row => r.scrollOff (s.rowText row) (s.mark? row)) r =
      r.scrollOffAll (s.firstRows count) := by
  induction count with
  | zero => rfl
  | succ count ih =>
    obtain ⟨row, hrow⟩ := s.row?_eq_some_of_lt (i := count) (by omega)
    rw [List.range_succ, List.foldl_append, ih (by omega), Screen.firstRows_succ hrow,
      Reporter.scrollOffAll_append, List.foldl_cons, List.foldl_nil, Screen.rowText, Screen.mark?,
      hrow]
    rfl

/-- **All rows go**: those above the command line, and those of the command line. -/
theorem Types.reporter_scrollRows {t : Terminal} {width : Nat} {r : Reporter} {directory : String}
    {above front : List Row} {last : Row} {text : List Char}
    (h : t.Types width r directory above front last text)
    (hactive : t.activeRows = t.cursor.row + 1) :
    (t.scrollRows t.activeRows).reporter = r.scrollOffAll (above ++ (front ++ [last])) := by
  obtain ⟨gone, hfront, hreporter⟩ := h.strip.front
  have hlt := h.strip.row_lt
  have hheight := (Screen.hasSize_iff.mp h.strip.size).2
  rw [(frame_scrollRows t _).1, foldl_scrollOff_rows _ _ (by omega), hactive,
    Screen.firstRows_succ h.strip.last, hreporter, ← Reporter.scrollOffAll_append,
    ← List.append_assoc gone, hfront, List.append_assoc]

/-- **At a prompt**: its directory was just told, so the row of the cursor is marked. No sequence
and no directive is open, the main screen is shown, and all of it scrolls; the prompt has no
lead. -/
structure AtPrompt (t : Terminal) (p : PromptFormat) (directory : String) : Prop where
  main_shown : t.altMode = false
  region : t.region = .full t.height
  parser : t.parser = .start
  directive : t.directive = none
  prompt : t.prompt = some p
  lead : p.lead = ""
  /-- The row is the last that is active, if any is; the directive marks no other. -/
  active : t.activeRows = 0 ∨ t.cursor.row + 1 = t.activeRows
  mark : t.main.mark? t.cursor.row = some (.prompt directory)

/-- At a prompt a command line begins on the row of the cursor. -/
theorem AtPrompt.types {t : Terminal} {p : PromptFormat} {directory : String}
    (h : t.AtPrompt p directory) (hbounds : t.InBounds) :
    ∃ tagged, t.main.row? t.cursor.row = some tagged ∧
      t.Types t.width t.reporter directory (t.main.firstRows t.cursor.row) [] tagged
        (tagged.chars.take t.filled) := by
  have hheight := (Screen.hasSize_iff.mp hbounds.main).2
  have hrow := hbounds.cursor.row
  have hcol := hbounds.cursor.col
  obtain ⟨tagged, htagged⟩ := t.main.row?_eq_some_of_lt (i := t.cursor.row) (by omega)
  have hmark : tagged.mark = some (.prompt directory) := by
    have hown := h.mark
    rwa [Screen.mark?, htagged, Option.bind_some] at hown
  have hactive : t.activeRows ≤ t.cursor.row + 1 := by
    rcases h.active with hnone | hlast <;> omega
  have hstrip : t.Strip t.width t.reporter (t.main.firstRows t.cursor.row ++ []) tagged :=
    { width_eq := rfl
      main_shown := h.main_shown
      region := h.region
      size := hbounds.main
      row_lt := hrow
      active := hactive
      last := htagged
      front := ⟨[], (List.append_nil _).symm, rfl⟩ }
  have hfilled : t.filled ≤ t.width := by
    rw [filled]
    split <;> omega
  have hlength : tagged.chars.length = t.width := by
    rw [Row.length_chars, hstrip.cells_last]
  -- what stands before the cursor counts as typed, the prompt itself too
  refine ⟨tagged, htagged, ⟨⟨hstrip, ⟨?_, by simp⟩, hcol, rfl, ?_⟩, Or.inl rfl⟩⟩
  · intro first hfirst
    obtain rfl : tagged = first := by simpa using hfirst
    exact hmark
  · rw [List.length_nil, Nat.zero_mul, Nat.zero_add, List.length_take, hlength,
      Nat.min_eq_left hfilled]

/-- **What is written at a prompt**: the text is typed, and the opening of a payload takes all rows
that are active then. -/
theorem AtPrompt.reporter_run {t : Terminal} {p : PromptFormat} {directory : String}
    (h : t.AtPrompt p directory) (hbounds : t.InBounds) (files : FileSystem) {text : List Char}
    (htext : ∀ c ∈ text, 0x20 ≤ c.toNat) {n : Nat} (hn : n ≤ ControlSequence.maxParam)
    {chunks : List Bytes}
    (hchunks : chunks.flatten = text.flatMap String.utf8EncodeChar ++ Payload.opening n) :
    let typed := text.foldl print t
    (t.run files (chunks.map .write)).1.reporter =
      (typed.scrollRows typed.activeRows).reporter := by
  intro typed
  obtain ⟨_, _, hstart⟩ := h.types hbounds
  obtain ⟨⟨_, _, htyped⟩, -⟩ := hstart.printAll text
  obtain ⟨hprint, hopen, hparser⟩ := interpret_text h.directive h.parser files htext
  obtain ⟨q, hfeed, hset⟩ := Parser.feed_opening hn
  obtain ⟨due, hwritten⟩ := run_writes t files chunks
  rw [hwritten, hchunks, interpret_append, hprint, Payload.opening_eq,
    interpret_of_start hopen hparser files hfeed hset, perform_payload htyped.strip.main_shown]
  rfl

/-- **The rows that go**: those above the prompt, and behind them those of the command line, with
the text on them where the prompt ends. -/
theorem AtPrompt.exists_rows {t : Terminal} {p : PromptFormat} {directory : String}
    (h : t.AtPrompt p directory) (hvalid : t.Valid) (text : List Char) :
    let typed := text.foldl print t
    ∃ rows, (typed.scrollRows typed.activeRows).reporter =
        t.reporter.scrollOffAll (t.main.firstRows t.cursor.row ++ rows) ∧
      Row.IsCommandLine directory rows ∧ rows.length = t.rowsTaken text.length ∧
      ∀ tagged ∈ t.main.row? t.cursor.row, rows ≠ [] →
        tagged.chars.take t.filled ++ text <+: rows.flatMap Row.chars := by
  intro typed
  obtain ⟨tagged, htagged, hstart⟩ := h.types hvalid.toInBounds
  obtain ⟨⟨front, last, htyped⟩, hactive⟩ := hstart.printAll text
  by_cases hnothing : t.activeRows = 0 ∧ text.length = 0
  · -- nothing is active and nothing is typed, so nothing goes
    have hsame : typed = t := by
      change text.foldl print t = t
      rw [List.length_eq_zero_iff.mp hnothing.2]
      rfl
    have hfirst : t.cursor.row = 0 := by
      have hcursor := hvalid.cursor_active h.main_shown
      omega
    rw [hsame, hnothing.1, hfirst, rowsTaken, if_pos hnothing]
    exact ⟨[], rfl, ⟨by simp, by simp⟩, rfl, fun _ _ hne => absurd rfl hne⟩
  · have hlast : typed.activeRows = typed.cursor.row + 1 := by
      refine hactive ?_
      rcases h.active with hnone | hrow
      · exact Or.inr fun hempty => hnothing ⟨hnone, by rw [hempty]; rfl⟩
      · exact Or.inl hrow.symm
    refine ⟨front ++ [last], htyped.reporter_scrollRows hlast, htyped.marks, ?_, ?_⟩
    · have htotal : (tagged.chars.take t.filled ++ text).length = t.filled + text.length := by
        have hlength := hstart.length
        rw [List.length_nil, Nat.zero_mul, Nat.zero_add] at hlength
        rw [List.length_append, ← hlength]
      rw [rowsTaken, if_neg hnothing, List.length_append, List.length_singleton]
      refine rows_of_length htyped.filled_le hvalid.width_pos ?_ (htyped.length.trans htotal)
      exact htyped.begun.imp_left fun hnil => by rw [hnil]; rfl
    · intro other hother _
      obtain rfl : tagged = other := Option.some.inj (htagged.symm.trans hother)
      rw [← htyped.chars, List.flatMap_append, List.flatMap_singleton]
      exact (List.prefix_append_right_inj _).mpr (List.take_prefix _ _)

/-- **A command line is one entry, however long it is.** Let a terminal that has gone through
anything be at a prompt without a lead, write a text and then the opening of a payload, in any
pieces, and let there be room for all rows that go. Then behind the rows above the prompt there are
those of the command line, as many as the text takes up, with the text on them where the prompt
ends. Their lines all belong to one entry; the first has markup if the prompt's mark stands on it,
and the others have none, whatever stands on them. -/
theorem command_line_one_entry_run (name : String) (config : TerminalConfig)
    (hwidth : config.width ≤ maxWord) (hheight : config.height ≤ maxWord) (files : FileSystem)
    (operations : List Operation) (p : PromptFormat) (directory : String) (text : List Char)
    (htext : ∀ c ∈ text, 0x20 ≤ c.toNat) (n : Nat) (hn : n ≤ ControlSequence.maxParam)
    (chunks : List Bytes)
    (hchunks : chunks.flatten = text.flatMap String.utf8EncodeChar ++ Payload.opening n) :
    let before := (new name config).run files operations
    let t := before.1
    t.AtPrompt p directory →
    t.scrollback.lines.length + (t.cursor.row + t.rowsTaken text.length) ≤
      t.scrollback.capacity →
    let moved := (t.run before.2 (chunks.map .write)).1
    ∃ above command rows,
      moved.scrollback.lines = t.scrollback.lines ++ (above ++ command) ∧
      (above.map (·.line) = (List.range t.cursor.row).map t.main.rowText ∧
        command.map (·.line) = rows.map Row.text) ∧
      (Row.IsCommandLine directory rows ∧ rows.length = t.rowsTaken text.length ∧
        ∀ tagged ∈ t.main.row? t.cursor.row, rows ≠ [] →
          tagged.chars.take t.filled ++ text <+: rows.flatMap Row.chars) ∧
      ScrollbackLine.OneEntry p moved.scrollback.entryIndex command := by
  intro before t hprompt hroom moved
  have hvalid : t.Valid := (valid_new name hwidth hheight).run files operations
  have hrow : t.cursor.row ≤ t.main.height := by
    rw [(Screen.hasSize_iff.mp hvalid.main).2]
    exact hvalid.cursor.row.le
  obtain ⟨rows, hrows, hmarks, htaken, hchars⟩ := hprompt.exists_rows hvalid text
  have hmoved : moved.reporter = _ :=
    (hprompt.reporter_run hvalid.toInBounds before.2 htext hn hchunks).trans hrows
  have hrooms : t.scrollback.lines.length +
      ((t.main.firstRows t.cursor.row).length + rows.length) ≤ t.scrollback.capacity := by
    rw [htaken, t.main.length_firstRows hrow]
    exact hroom
  obtain ⟨above, command, hgains, htexts, hlines, hentry⟩ :=
    Reporter.oneEntry_scrollOffAll_append hprompt.prompt hprompt.lead hmarks hrooms
  rw [← hmoved] at hgains hentry
  exact ⟨above, command, rows, hgains.lines,
    ⟨htexts.trans (t.main.map_text_firstRows hrow), hlines⟩, ⟨hmarks, htaken, hchars⟩, hentry⟩

/-- Behind a row of output a command is typed on a screen of two rows. It takes up three, so that
the row of the prompt has left the screen before the last one is begun, and the prompt's mark stands
on the second one too. -/
theorem command_line_one_entry_run_three_rows :
    let config : TerminalConfig :=
      { width := 4, height := 2, cookie := "", prompt := some ⟨"", "~", "$"⟩ }
    let operations : List Operation := [.write (utf8Bytes "a\r\n$ \x1b[?1150;h/\x1b[?1150;l")]
    let text := ['a', 'b', '$', 'c', 'd', '$', 'e']
    let chunks := [utf8Bytes "ab$c", utf8Bytes "d$e\x1b[?11", utf8Bytes "55;0h"]
    let before := (new "wrapped" config).run default operations
    let t := before.1
    let moved := (t.run before.2 (chunks.map .write)).1
    (t.AtPrompt ⟨"", "~", "$"⟩ "/" ∧ (∀ c ∈ text, 0x20 ≤ c.toNat) ∧
        0 ≤ ControlSequence.maxParam ∧
        chunks.flatten = text.flatMap String.utf8EncodeChar ++ Payload.opening 0 ∧
        t.scrollback.lines.length + (t.cursor.row + t.rowsTaken text.length) ≤
          t.scrollback.capacity) ∧
      ∃ above command, moved.scrollback.lines = t.scrollback.lines ++ (above ++ command) ∧
        above.map (·.line) = ["a"] ∧ command.length = 3 ∧
        ScrollbackLine.OneEntry ⟨"", "~", "$"⟩ moved.scrollback.entryIndex command := by
  intro config operations text chunks before t moved
  have hprompt : t.AtPrompt ⟨"", "~", "$"⟩ "/" :=
    { main_shown := by decide +kernel
      region := by decide +kernel
      parser := by decide +kernel
      directive := by decide +kernel
      prompt := by decide +kernel
      lead := rfl
      active := Or.inr (by decide +kernel)
      mark := by decide +kernel }
  have htext : ∀ c ∈ text, 0x20 ≤ c.toNat := by simp [text]
  have hchunks : chunks.flatten = text.flatMap String.utf8EncodeChar ++ Payload.opening 0 := by
    decide +kernel
  have hroom : t.scrollback.lines.length + (t.cursor.row + t.rowsTaken text.length) ≤
      t.scrollback.capacity := by decide +kernel
  obtain ⟨above, command, rows, hlines, ⟨habove, hcommand⟩, ⟨-, htaken, -⟩, hentry⟩ :=
    command_line_one_entry_run "wrapped" config (by decide) (by decide) default operations
      ⟨"", "~", "$"⟩ "/" text htext 0 (by decide) chunks hchunks hprompt hroom
  refine ⟨⟨hprompt, htext, by decide, hchunks, hroom⟩, above, command, hlines, ?_, ?_, hentry⟩
  · exact habove.trans (by decide +kernel)
  · rw [← List.length_map (·.line), hcommand, List.length_map, htaken]
    decide +kernel

end GlassTty.Terminal
