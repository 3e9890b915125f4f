import GlassTty.Proofs.Directive.Collection
import GlassTty.Proofs.Escape.Decimal
import GlassTty.Proofs.History.Remembers
import GlassTty.Proofs.Terminal.Prompt

/-!
# The frame of a payload

A payload stands between a mode that is set, with a number behind it, and the same mode reset
(`GlassTty.Payload.opening`, `GlassTty.Payload.closing`). Interpreted on the main screen, with no
directive open, the three together come to what the end of the directive does on a screen whose
active rows have gone into the scrollback (`GlassTty.Terminal.interpret_framed`):

* the opening moves the rows away and opens the directive,
* the payload is collected, all of it or nothing,
* the escape of the closing ends the directive, and what is left of the closing resets a mode that
  means nothing.

So the viewer is told the screen first, with the lines that have just gone, and then the one result
of the payload; an empty payload is not told at all
(`GlassTty.Terminal.finish_framed`). How the bytes are cut into pieces makes no difference.
-/

namespace GlassTty

/-! ### Opening and closing -/

namespace Payload

/-- The mode of payloads, up to the number behind it. -/
def mode : Bytes :=
  utf8Bytes "\x1b[?1155;"

/-- **The bytes before a payload**: the mode is set, and a number presented. -/
def opening (n : Nat) : Bytes :=
  utf8Bytes ("\x1b[?1155;" ++ toString n ++ "h")

/-- **The bytes behind a payload**: the mode is reset. -/
def closing : Bytes :=
  utf8Bytes "\x1b[?1155;l"

theorem opening_eq (n : Nat) : opening n = mode ++ decimal n ++ [0x68] := by
  rw [opening, utf8Bytes_append, utf8Bytes_append]
  rfl

theorem closing_eq : closing = mode ++ [0x6C] :=
  rfl

end Payload

namespace Parser

open Payload

/-- A known sequence that ends in an `h` sets a mode. -/
theorem advance_setMode {s : ControlSequence} (hroom : s.length < maxSequence)
    (hknown : s.unknown = false) :
    (control s).advance 0x68 = (some (.setMode s.allParams), .start) := by
  change onControl s 0x68 = _
  have hfits : ¬maxSequence < s.length + 1 := Nat.not_lt.mpr hroom
  simp [onControl, hfits, ControlSequence.action?, hknown, Action.ofSequence?,
    ControlSequence.allParams]

/-- **The opening of a payload is read as it is meant**, with any number that a word of sixty-four
bits holds: it is short enough. -/
theorem feed_opening {n : Nat} (hn : n ≤ ControlSequence.maxParam) :
    ∃ p, start.feed (mode ++ decimal n) = ([], p) ∧
      p.advance 0x68 = (some (.setMode [DirectiveCode.payloadMode, n]), .start) := by
  let s : ControlSequence :=
    { params := [DirectiveCode.payloadMode], current := some 0, marker := some '?', length := 8 }
  have hmode : start.feed mode = ([], .control s) := by decide
  have hdigits : (decimal n).length ≤ 20 :=
    length_decimal_le (by decide) (Nat.lt_of_le_of_lt hn (by decide))
  have hnumber := feed_decimal s rfl hn (by change 8 + _ ≤ 32; omega)
  refine ⟨_, by rw [feed_append, hmode, hnumber]; rfl, ?_⟩
  exact advance_setMode (by change 8 + _ < 32; omega) rfl

theorem feed_closing :
    ∃ p, start.feed mode = ([], p) ∧
      p.advance 0x6C = (some (.resetMode [DirectiveCode.payloadMode, 0]), .start) :=
  ⟨_, rfl, by decide⟩

end Parser

namespace Terminal

variable {t : Terminal}

/-! ### A payload in one piece -/

theorem surroundings_scrollRows (t : Terminal) (count : Nat) :
    (t.scrollRows count).surroundings = t.surroundings := by
  have hwithin := congrArg surroundings (scrollRows_within t t.surroundings count)
  exact hwithin

/-- The opening moves all active rows away and opens the directive. -/
theorem perform_payload (hmain : t.altMode = false) (n : Nat) :
    let o : Opening := ⟨.payload, some n⟩
    t.perform (.setMode [DirectiveCode.payloadMode, n]) =
      { t.scrollRows t.activeRows with
        directive := some (o.buffer t.cookie t.maxDirectiveBytes) } := by
  intro o
  have hopening : Opening.ofAction? (.setMode [DirectiveCode.payloadMode, n]) = some o := rfl
  rw [perform_opening t hopening, openDirective,
    if_neg (by rw [hmain]; exact Bool.false_ne_true)]
  dsimp only [o]
  rw [if_pos rfl]
  rw [show (t.scrollRows t.activeRows).maxDirectiveBytes = t.maxDirectiveBytes from
    congrArg Surroundings.maxDirectiveBytes (surroundings_scrollRows t _)]
  rfl

/-- **A payload with its frame** comes to what its end does, once the active rows have gone. -/
theorem interpret_framed (hmain : t.altMode = false) (hopen : t.directive = none)
    (hstart : t.parser = .start) (files : FileSystem) {n : Nat}
    (hn : n ≤ ControlSequence.maxParam) {payload : Bytes} (hfree : Parser.esc ∉ payload) :
    let o : Opening := ⟨.payload, some n⟩
    t.interpret files (Payload.opening n ++ payload ++ Payload.closing) =
      (t.scrollRows t.activeRows).finish files
        ((o.buffer t.cookie t.maxDirectiveBytes).extend payload) := by
  intro o
  let buffer := o.buffer t.cookie t.maxDirectiveBytes
  let moved := t.scrollRows t.activeRows
  let ended := moved.finish files (buffer.extend payload)
  obtain ⟨p, hfeed, hset⟩ := Parser.feed_opening hn
  obtain ⟨q, hfeed', hreset⟩ := Parser.feed_closing
  have hclosed : ended.1.directive = none := (frame_finish _ _ _).2.2
  have hended : ended.1.parser = .start :=
    (frame_finish _ _ _).2.1.trans
      ((congrArg Surroundings.parser (surroundings_scrollRows t _)).trans hstart)
  calc t.interpret files (Payload.opening n ++ payload ++ Payload.closing)
    _ = ({ moved with directive := some buffer } : Terminal).interpret files
        (payload ++ Parser.esc :: Payload.closing.tail) := by
      -- the mode is set, which opens the directive
      rw [List.append_assoc, interpret_append, Payload.opening_eq,
        interpret_of_start hopen hstart files hfeed hset, perform_payload hmain]
      rfl
    _ = (ended.1.parse Parser.esc).interpret ended.2 Payload.closing.tail := by
      -- the escape that resets the mode ends it first
      rw [interpret_of_escape rfl files hfree]
      rfl
    _ = ended.1.interpret ended.2 Payload.closing := (interpret_of_none hclosed _ _ _).symm
    _ = ended := by
      rw [Payload.closing_eq]
      exact interpret_of_start hclosed hended ended.2 hfeed' hreset

/-! ### What a payload comes to -/

/-- **The result of a payload** whose opening presents the number `n`: the event for the viewer, and
the files. Past the limit it is a message that says so. -/
def payloadResult (t : Terminal) (files : FileSystem) (n : Nat) (payload : Bytes) :
    DirectiveEvent × FileSystem :=
  let validated := presentsCookie (some n) t.cookie
  if t.maxDirectiveBytes < payload.length then
    (Directive.overflowOutput validated t.maxDirectiveBytes, files)
  else Directive.interpret files (Utf8.lossy payload) validated t.maxFileBytes t.extractor

/-- **The end of a payload** that was collected from the opening on: an update and the result are
told, unless there is nothing in it. -/
theorem finish_framed (t : Terminal) (files : FileSystem) (n : Nat) (payload : Bytes) :
    let o : Opening := ⟨.payload, some n⟩
    t.finish files ((o.buffer t.cookie t.maxDirectiveBytes).extend payload) =
      if payload = [] then ({ t with directive := none }, files)
      else
        (({ t with directive := none } : Terminal).update.tell
            (.directive (t.payloadResult files n payload).1),
          (t.payloadResult files n payload).2) := by
  intro o
  rw [DirectiveBuffer.extend_opening, finish_eq]
  unfold payloadResult outcome DirectiveBuffer.isTold
  rcases Nat.lt_or_ge t.maxDirectiveBytes payload.length with hover | hfits
  · have hne : payload ≠ [] := by
      rintro rfl
      exact Nat.not_lt_zero _ hover
    simp [hover, hne, o, Opening.buffer]
  · rw [if_neg (Nat.not_lt.mpr hfits)]
    cases payload with
    | nil => rfl
    | cons byte rest =>
      have hroom : ¬t.maxDirectiveBytes < rest.length + 1 := Nat.not_lt.mpr hfits
      simp [hroom, o, Opening.buffer]

/-- Where no row is active an update has nothing to move. -/
theorem tidy_of_activeRows (h : t.activeRows = 0) : t.tidy = t := by
  have hlast : t.lastPromptRow = 0 := Nat.le_zero.mp (h ▸ t.lastPromptRow_le)
  rw [tidy, scrollToPrompt, hlast, scrollRows, if_pos rfl, ite_self]

/-- Between sequences an escape begins one, whatever character was begun. -/
theorem interpret_of_ground (hopen : t.directive = none) {decoder : Utf8.Decoder}
    (hground : t.parser = .ground decoder) (files : FileSystem) (rest : Bytes) :
    t.interpret files (Parser.esc :: rest) =
      ({ t with parser := .start } : Terminal).interpret files (Parser.esc :: rest) := by
  have hopen' : ({ t with parser := .start } : Terminal).directive = none := hopen
  rw [interpret_of_none hopen, interpret_of_none hopen', Moment.parse_esc, Moment.parse_esc,
    hground]
  rfl

/-- **What a payload with its frame leaves**: the screens without the active rows, in what stood
around them. -/
theorem interpret_payload (hmain : t.altMode = false) (hopen : t.directive = none)
    {decoder : Utf8.Decoder} (hground : t.parser = .ground decoder) (files : FileSystem) {n : Nat}
    (hn : n ≤ ControlSequence.maxParam) {payload : Bytes} (hfree : Parser.esc ∉ payload) :
    let closed := (t.scrollRows t.activeRows).within
      { t.surroundings with parser := .start, directive := none }
    t.interpret files (Payload.opening n ++ payload ++ Payload.closing) =
      if payload = [] then (closed, files)
      else
        (closed.update.tell (.directive (t.payloadResult files n payload).1),
          (t.payloadResult files n payload).2) := by
  intro closed
  obtain ⟨rest, hrest⟩ :
      ∃ rest, Payload.opening n ++ payload ++ Payload.closing = Parser.esc :: rest := by
    rw [Payload.opening_eq]
    exact ⟨_, rfl⟩
  let started := t.within { t.surroundings with parser := .start }
  have hmoved : started.scrollRows started.activeRows =
      (t.scrollRows t.activeRows).within { t.surroundings with parser := .start } :=
    scrollRows_within t _ _
  have hframed := interpret_framed (t := started) hmain hopen rfl files hn hfree
  have hfinish := finish_framed (started.scrollRows started.activeRows) files n payload
  rw [hmoved] at hframed hfinish
  rw [hrest, interpret_of_ground hopen hground, ← hrest]
  exact hframed.trans hfinish

/-- **A payload in its frame.** Let a terminal show the main screen, have no directive open and be
between sequences. Write the opening with a number, a payload free of escapes and the closing, cut
into any pieces. Then

* an empty payload is not told. Of any other an update is told, with all lines of the scrollback
  that were not told before and are still there, and then its result, and that is all;
* all rows that were active have gone into the scrollback, in their order;
* the screens, the cursor and the replies are what they are without the payload;
* at no time is more of the payload held than the limit allows;
* no directive is open afterwards, and the parser is between sequences. -/
theorem run_framed (t : Terminal) (hmain : t.altMode = false) (hopen : t.directive = none)
    (hground : ∃ decoder, t.parser = .ground decoder) (files : FileSystem) (n : Nat)
    (hn : n ≤ ControlSequence.maxParam) (payload : Bytes) (hfree : Parser.esc ∉ payload)
    (chunks : List Bytes)
    (hchunks : chunks.flatten = Payload.opening n ++ payload ++ Payload.closing) :
    let written := t.run files (chunks.map .write)
    let kept := ((List.range t.activeRows).foldl
      (fun r row => r.scrollOff (t.main.rowText row) (t.main.mark? row)) t.reporter).scrollback
    let before := t.scrollback.lines.map (·.line)
    let rows := (List.range t.activeRows).map t.main.rowText
    (if payload = [] then written.1.events = t.events ∧ written.2 = files
      else
        ∃ update, written.1.events =
            t.events ++ [.rowUpdate (t.pendingReconnect.getD "") update,
              .directive (t.payloadResult files n payload).1] ∧
          update.scrollback =
            kept.lines.drop (kept.lines.length - (kept.total - kept.reported)) ∧
          written.2 = (t.payloadResult files n payload).2) ∧
    (written.1.activeRows = 0 ∧ written.1.scrollback.lines = kept.lines ∧
      (t.scrollback.capacity ≠ 0 → kept.lines.map (·.line) <:+ before ++ rows) ∧
      (before.length + rows.length ≤ t.scrollback.capacity →
        kept.lines.map (·.line) = before ++ rows)) ∧
    (written.1.main = (t.scrollRows t.activeRows).main ∧ written.1.alt = t.alt ∧
      written.1.cursor = (t.scrollRows t.activeRows).cursor ∧ written.1.replies = t.replies) ∧
    (∀ m ∈ t.momentsOfRun files (chunks.map .write), ∀ buffer,
      m.terminal.directive = some buffer → buffer.data.size ≤ t.maxDirectiveBytes) ∧
    written.1.directive = none ∧ written.1.parser = .start := by
  intro written kept before rows
  obtain ⟨decoder, hground⟩ := hground
  obtain ⟨due, hwritten⟩ := run_writes t files chunks
  obtain ⟨hreporter, halt, hmode, hreplies⟩ := frame_scrollRows t t.activeRows
  have hactive : (t.scrollRows t.activeRows).activeRows = 0 := by
    rw [activeRows_scrollRows, Nat.sub_self]
  have hinterpret := interpret_payload hmain hopen hground files hn hfree
  dsimp only at hinterpret
  rw [← hchunks] at hinterpret
  have hsuffix : t.scrollback.capacity ≠ 0 → kept.lines.map (·.line) <:+ before ++ rows :=
    fun hroom => Reporter.suffix_foldl_scrollOff _ hroom _ _
  have hall : before.length + rows.length ≤ t.scrollback.capacity →
      kept.lines.map (·.line) = before ++ rows := by
    intro hfits
    rw [List.length_map, List.length_map] at hfits
    exact Reporter.lines_foldl_scrollOff _ _ hfits _ _
  have hcollecting : t.Collecting := by simp [Collecting, hopen]
  have hbound : ∀ m ∈ t.momentsOfRun files (chunks.map .write), ∀ buffer,
      m.terminal.directive = some buffer → buffer.data.size ≤ t.maxDirectiveBytes :=
    fun _ hm _ hbuffer => hcollecting.size_of_mem_momentsOfRun hm hbuffer
  set closed := (t.scrollRows t.activeRows).within
    { t.surroundings with parser := .start, directive := none } with hclosed
  have hkept : closed.reporter.scrollback = kept := congrArg Reporter.scrollback hreporter
  have hlines : closed.reporter.scrollback.lines = kept.lines := congrArg Scrollback.lines hkept
  by_cases hempty : payload = []
  · have hend : written = (closed.marked due, files) := by
      rw [if_pos hempty] at hinterpret
      rw [show written = _ from hwritten, hinterpret]
    rw [if_pos hempty, hend]
    exact ⟨⟨rfl, rfl⟩, ⟨hactive, hlines, hsuffix, hall⟩,
      ⟨rfl, halt, rfl, hreplies⟩, hbound, rfl, rfl⟩
  · have hupdate : closed.update = closed.report := by
      rw [update, tidy_of_activeRows (t := closed) hactive]
    have hend : written =
        ((closed.report.tell (.directive (t.payloadResult files n payload).1)).marked due,
          (t.payloadResult files n payload).2) := by
      rw [if_neg hempty, hupdate] at hinterpret
      rw [show written = _ from hwritten, hinterpret]
    have htold : closed.told.scrollback =
        kept.lines.drop (kept.lines.length - (kept.total - kept.reported)) := by
      rw [← hkept]
      exact Scrollback.takeUnreported_eq_drop _
    rw [if_neg hempty, hend]
    refine ⟨⟨closed.told, ?_, htold, rfl⟩, ⟨hactive, hlines, hsuffix, hall⟩,
      ⟨rfl, halt, rfl, hreplies⟩, hbound, rfl, rfl⟩
    exact List.append_assoc t.events _ _

/-- Two rows are on the screen when a payload comes that is no UTF-8. It is cut inside its opening
and right behind the escape that ends it. -/
theorem run_framed_not_utf8 :
    let config : TerminalConfig := { width := 4, height := 3, cookie := "7" }
    let t := ((new "framed" config).run default [.write (utf8Bytes "a\r\nb")]).1
    let payload : Bytes := [0x41, 0xFF]
    let chunks : List Bytes :=
      [utf8Bytes "\x1b[?11", utf8Bytes "55;7hA", [0xFF, Parser.esc], utf8Bytes "[?1155;l"]
    let written := t.run default (chunks.map .write)
    (t.altMode = false ∧ t.directive = none ∧ (∃ decoder, t.parser = .ground decoder) ∧
        7 ≤ ControlSequence.maxParam ∧ Parser.esc ∉ payload ∧
        chunks.flatten = Payload.opening 7 ++ payload ++ Payload.closing) ∧
      (∃ update, written.1.events =
          t.events ++ [.rowUpdate (t.pendingReconnect.getD "") update,
            .directive (t.payloadResult default 7 payload).1] ∧
        update.scrollback.map (·.line) = ["a", "b"]) ∧
      written.1.scrollback.lines.map (·.line) = ["a", "b"] ∧ written.1.activeRows = 0 ∧
      written.1.directive = none ∧ written.1.parser = .start := by
  intro config t payload chunks written
  have hmain : t.altMode = false := by decide +kernel
  have hopen : t.directive = none := by decide +kernel
  have hground : t.parser = .ground {} := by decide +kernel
  have hfree : Parser.esc ∉ payload := by decide
  have hchunks : chunks.flatten = Payload.opening 7 ++ payload ++ Payload.closing := by
    decide +kernel
  have hframed := run_framed t hmain hopen ⟨{}, hground⟩ default 7 (by decide) payload hfree chunks
    hchunks
  obtain ⟨htold, ⟨hactive, hkept, -, hall⟩, -, -, hclosed, hparser⟩ := hframed
  rw [if_neg (List.cons_ne_nil _ _)] at htold
  obtain ⟨update, hevents, hscrollback, -⟩ := htold
  refine ⟨⟨hmain, hopen, ⟨{}, hground⟩, by decide, hfree, hchunks⟩,
    ⟨update, hevents, ?_⟩, ?_, hactive, hclosed, hparser⟩
  · rw [hscrollback]
    decide +kernel
  · rw [hkept, hall (by decide +kernel)]
    decide +kernel

end Terminal

end GlassTty
