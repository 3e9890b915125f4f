import GlassTty.Proofs.Escape.Parameters
import GlassTty.Proofs.Terminal.Bounds

/-!
# The position that a terminal tells

Asked for the position of its cursor, a terminal answers with a control sequence that has the row
and the column in it. The sequence that sends the cursor to a position differs from that answer in
its final byte only (`GlassTty.Terminal.positionSequence`), so a program can keep the answer and
bring the cursor back with it later.

That this works at all sizes rests on three bounds. Rows and columns are counted from one there, so
they are words of sixteen bits still; such a word has five digits at most, so the sequence is not
too long for the parser; and the cursor is on the screen, so nothing brings it back to an edge.
-/

namespace GlassTty

/-! ### Two parameters -/

namespace ControlSequence

/-- **Two parameters in decimal** are the ones that are named. -/
theorem parametersOf_pair {m n : Nat} (hm : m ≤ maxParam) (hn : n ≤ maxParam) :
    parametersOf (decimal m ++ semicolon :: decimal n) = [m, n] := by
  have hword : ∀ k ≤ maxParam, (UInt64.ofNat k).toNat = k := fun k hk =>
    UInt64.toNat_ofNat_of_lt' (Nat.lt_succ_of_le hk)
  have hwritten : written [UInt64.ofNat m, UInt64.ofNat n] =
      decimal m ++ semicolon :: decimal n := by
    simp [written, hword m hm, hword n hn]
  rw [← hwritten, parametersOf_written]
  simp [hword m hm, hword n hn]

theorem isParameter_pair (m n : Nat) :
    ∀ byte ∈ decimal m ++ semicolon :: decimal n, IsParameter byte := by
  rw [List.forall_mem_append, List.forall_mem_cons]
  exact ⟨fun byte h => .inl ((decimal_digits m).1 byte h), .inr rfl,
    fun byte h => .inl ((decimal_digits n).1 byte h)⟩

end ControlSequence

namespace Terminal

open GlassTty.Parser ControlSequence

variable {t : Terminal}

/-! ### Question and answer -/

/-- The bytes that ask for the position of the cursor. -/
def positionRequest : Bytes := escaped "[6n"

/-- **A position in a control sequence**, counted from one, up to the final byte. -/
def positionText (cursor : Cursor) : Bytes :=
  unfinished none (decimal (cursor.row + 1) ++ semicolon :: decimal (cursor.col + 1))

/-- The text of a position, character by character. -/
theorem escaped_position (cursor : Cursor) :
    escaped ("[" ++ toString (cursor.row + 1) ++ ";" ++ toString (cursor.col + 1)) =
      positionText cursor := by
  have hbracket : utf8Bytes "[" = [0x5B] := by decide
  have hsemicolon : utf8Bytes ";" = [semicolon] := by decide
  rw [escaped, utf8Bytes_append, utf8Bytes_append, utf8Bytes_append, hbracket, hsemicolon]
  simp [positionText, unfinished, decimal]

/-- The answer is such a sequence. -/
theorem positionReply_eq (cursor : Cursor) :
    positionReply cursor = positionText cursor ++ [0x52] := by
  have hfinal : utf8Bytes "R" = [0x52] := by decide
  rw [positionReply, escaped, utf8Bytes_append, hfinal, ← escaped_position]
  rfl

/-- **The text of a position is not too long** where rows and columns fit words. -/
theorem length_positionText_lt {cursor : Cursor} (hrow : cursor.row < maxWord)
    (hcol : cursor.col < maxWord) : (positionText cursor).length < maxSequence := by
  have hword : maxWord < Nat.pow 10 5 := by decide
  have hfirst : (decimal (cursor.row + 1)).length ≤ 5 := length_decimal_le (by decide) (by omega)
  have hsecond : (decimal (cursor.col + 1)).length ≤ 5 := length_decimal_le (by decide) (by omega)
  have hroom : maxSequence = 32 := rfl
  simp only [positionText, unfinished, Option.toList_none, List.nil_append, List.length_cons,
    List.length_append]
  omega

/-- **Reading a position**: nothing is done before the final byte, and a sequence that sends the
cursor somewhere sends it to the position in the text. -/
theorem feed_positionText (decoder : Utf8.Decoder) {cursor : Cursor} (hrow : cursor.row < maxWord)
    (hcol : cursor.col < maxWord) :
    ∃ p, (ground decoder).feed (positionText cursor) = ([], p) ∧
      p.advance 0x48 = (some (.cursorPosition (cursor.row + 1) (cursor.col + 1)), start) := by
  have hlength := length_positionText_lt hrow hcol
  have hmax : maxWord < maxParam := by decide
  have hmarker : ∀ byte ∈ (none : Option UInt8), IsMarker byte := by simp
  obtain ⟨params, current, hfeed, hparams⟩ := feed_unfinished decoder hmarker
    (isParameter_pair (cursor.row + 1) (cursor.col + 1)) hlength.le
  rw [parametersOf_pair (by omega) (by omega)] at hparams
  refine ⟨_, hfeed, (advance_final _ hlength (by decide)).trans ?_⟩
  rw [action?, allParams, hparams]
  have hcount : ∀ n, n < maxWord → max (min (n + 1) Action.maxCount) 1 = n + 1 := by
    intro n hn
    have hwords : Action.maxCount = maxWord := rfl
    omega
  change (some (Action.cursorPosition (max (min (cursor.row + 1) Action.maxCount) 1)
    (max (min (cursor.col + 1) Action.maxCount) 1)), start) = _
  rw [hcount _ hrow, hcount _ hcol]

/-! ### There and back -/

/-- **The question** does nothing but have the answer sent. -/
theorem write_positionRequest (hopen : t.directive = none) {decoder : Utf8.Decoder}
    (hground : t.parser = .ground decoder) (files : FileSystem) :
    t.write files positionRequest =
      ({ t with
          parser := .start
          needsUpdating := true
          replies := t.replies ++ (positionText t.cursor ++ [0x52]) }, files) := by
  have hfeed : t.parser.feed [esc, 0x5B, 0x36] = ([], .control
      { current := some 6, length := 3 }) := by
    rw [hground]
    rfl
  have hrequest : positionRequest = [esc, 0x5B, 0x36] ++ [0x6E] := by decide
  rw [hrequest, write, if_neg (by simp), interpret_of_action (t := { t with needsUpdating := true })
    hopen files hfeed (by rfl), ← positionReply_eq]
  rfl

/-- To where the cursor is already. -/
theorem moveTo_self (h : t.InBounds) : t.moveTo t.cursor.row t.cursor.col = t.settle := by
  have hrow : min t.cursor.row (t.height - 1) = t.cursor.row :=
    Nat.min_eq_left (Nat.le_sub_one_of_lt h.cursor.row)
  have hcol : min t.cursor.col (t.width - 1) = t.cursor.col :=
    Nat.min_eq_left (Nat.le_sub_one_of_lt h.cursor.col)
  rw [moveTo, hrow, hcol]
  rfl

/-- The row of the cursor is active already, unless no row is. -/
theorem touchCursorRow_of_valid (h : t.Valid) :
    t.touchCursorRow =
      { t with activeRows := if t.altMode then t.activeRows else max t.activeRows 1 } := by
  unfold touchCursorRow
  split
  · rfl
  · next hmain =>
    have hactive := h.cursor_active (by simpa using hmain)
    have hrows : max t.activeRows (t.cursor.row + 1) = max t.activeRows 1 := by omega
    rw [hrows]

/-- **The answer sends the cursor back**: it is where it was, and no wrap is pending. -/
theorem write_positionText (h : t.Valid) (hopen : t.directive = none) {decoder : Utf8.Decoder}
    (hground : t.parser = .ground decoder) (files : FileSystem) :
    t.write files (positionText t.cursor ++ [0x48]) =
      ({ t with
          parser := .start
          needsUpdating := true
          cursor := t.cursor.settled
          activeRows := if t.altMode then t.activeRows else max t.activeRows 1 }, files) := by
  have hrow := h.cursor.row
  have hcol := h.cursor.col
  obtain ⟨p, hfeed, hlast⟩ := feed_positionText decoder (hrow.trans_le h.height_le)
    (hcol.trans_le h.width_le)
  rw [write, if_neg (by simp), interpret_of_action (t := { t with needsUpdating := true })
    hopen files (hground ▸ hfeed) hlast]
  let asked : Terminal := { t with needsUpdating := true, parser := .start }
  have hasked : asked.Valid := { h with }
  change ((asked.moveTo asked.cursor.row asked.cursor.col).touchCursorRow, files) = _
  rw [moveTo_self hasked.toInBounds, touchCursorRow_of_valid]
  · rfl
  · exact hasked.withCursor hasked.cursor.settled le_rfl

/-- **The cursor goes back to the position that was told.** In whatever state between two sequences
a terminal is, with no directive open: asked for the position of its cursor, it answers with one
sequence and does nothing else. With another final byte that sequence, handed to the terminal as
output, leaves the cursor in its row and column, and both screens and the scrollback as they are; a
wrap that was pending is forgotten, and where no row was active the first one is. -/
theorem cursor_goes_back (name : String) (config : TerminalConfig)
    (hwidth : config.width ≤ maxWord) (hheight : config.height ≤ maxWord) (files : FileSystem)
    (operations : List Operation)
    (hopen : ((new name config).run files operations).1.directive = none) (decoder : Utf8.Decoder)
    (hground : ((new name config).run files operations).1.parser = .ground decoder) :
    let t := ((new name config).run files operations).1
    let place := escaped ("[" ++ toString (t.cursor.row + 1) ++ ";" ++ toString (t.cursor.col + 1))
    ∀ others, ∃ asked back,
      t.write others (escaped "[6n") = (asked, others) ∧
      asked = { t with
        parser := .start
        needsUpdating := true
        replies := t.replies ++ (place ++ utf8Bytes "R") } ∧
      asked.write others (place ++ utf8Bytes "H") = (back, others) ∧
      back = { asked with
        cursor := t.cursor.settled
        activeRows := if t.altMode then t.activeRows else max t.activeRows 1 } ∧
      back.cursor.row = t.cursor.row ∧ back.cursor.col = t.cursor.col ∧
      back.main = t.main ∧ back.alt = t.alt ∧ back.scrollback = t.scrollback := by
  intro t place others
  have hvalid : t.Valid := (valid_new name hwidth hheight).run files operations
  let asked : Terminal := { t with
    parser := .start
    needsUpdating := true
    replies := t.replies ++ (positionText t.cursor ++ [0x52]) }
  have hasked : asked.Valid := { hvalid with }
  have hask := write_positionRequest hopen hground others
  have hstart : asked.parser = .ground {} := rfl
  have hback := write_positionText hasked hopen hstart others
  have hplace : place = positionText t.cursor := escaped_position t.cursor
  have htell : utf8Bytes "R" = [0x52] := by decide
  have hgo : utf8Bytes "H" = [0x48] := by decide
  rw [hplace, htell, hgo]
  exact ⟨asked, _, hask, rfl, hback, rfl, rfl, rfl, rfl, rfl, rfl⟩

/-- On the greatest screen that there is the last column was just written, and the position in the
last row is told with five digits for each of row and column. -/
theorem cursor_goes_back_corner :
    let config : TerminalConfig := { width := 65535, height := 65535, cookie := "" }
    let operations : List Operation := [.write (utf8Bytes "\x1b[65535;65535Hx")]
    let t := ((new "corner" config).run default operations).1
    (config.width ≤ maxWord ∧ config.height ≤ maxWord ∧ t.directive = none ∧
        t.parser = .ground {} ∧ t.cursor = ⟨65534, 65534, true⟩) ∧
      ∃ asked back,
        t.write default (escaped "[6n") = (asked, default) ∧
        asked.replies = utf8Bytes "\x1b[65535;65535R" ∧
        asked.write default (utf8Bytes "\x1b[65535;65535H") = (back, default) ∧
        back.cursor = ⟨65534, 65534, false⟩ ∧ back.main = t.main := by
  intro config operations t
  have hwidth : config.width ≤ maxWord := by decide
  have hheight : config.height ≤ maxWord := by decide
  have hopen : t.directive = none := by decide +kernel
  have hground : t.parser = .ground {} := by decide +kernel
  have hcursor : t.cursor = ⟨65534, 65534, true⟩ := by decide +kernel
  have hreplies : t.replies = [] := by decide +kernel
  obtain ⟨asked, back, hask, hasked, hwrite, hback, -, -, hmain, -⟩ :=
    cursor_goes_back "corner" config hwidth hheight default operations hopen {} hground default
  have hplace : escaped ("[" ++ toString (t.cursor.row + 1) ++ ";" ++ toString (t.cursor.col + 1)) =
      utf8Bytes "\x1b[65535;65535" := by
    rw [hcursor]
    decide +kernel
  change asked.write default (escaped ("[" ++ toString (t.cursor.row + 1) ++ ";" ++
    toString (t.cursor.col + 1)) ++ utf8Bytes "H") = _ at hwrite
  rw [hplace, ← utf8Bytes_append] at hwrite
  refine ⟨⟨hwidth, hheight, hopen, hground, hcursor⟩, asked, back, hask, ?_, hwrite, ?_, hmain⟩
  · rw [hasked]
    change t.replies ++ (escaped ("[" ++ toString (t.cursor.row + 1) ++ ";" ++
      toString (t.cursor.col + 1)) ++ utf8Bytes "R") = _
    rw [hreplies, hplace, ← utf8Bytes_append]
    rfl
  · rw [hback]
    change t.cursor.settled = _
    rw [hcursor]
    rfl

end Terminal

end GlassTty
