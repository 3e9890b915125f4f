import GlassTty.Escape.Parser
import Mathlib.Data.List.Basic
import Mathlib.Data.Nat.Init
import Mathlib.Order.Lattice

/-!
# The text that a program prints

What a program prints are characters, ends of lines and, unseen, the directories that a shell tells
before its prompts (`GlassTty.Transcript.Item`). The text has lines
(`GlassTty.Transcript.lines`), and a screen of a given width shows each of them in pieces
(`GlassTty.Transcript.pieces`).

The pieces are also what a typewriter with a short sheet of paper comes to
(`GlassTty.Transcript.Sheet`): it knows the piece that is being typed, those above it on the sheet
and those that have gone off the sheet, and for each character it looks no further than at the
length of the last piece. However often the sheet is moved up in between, and whether it has room
for many rows or for one, all pieces together are those of the text
(`GlassTty.Transcript.Sheet.all_type`, `GlassTty.Transcript.Sheet.all_feed`,
`GlassTty.Transcript.Sheet.all_scroll`).
-/

namespace GlassTty.Transcript

/-! ### Items -/

/-- Something that a program prints. -/
inductive Item where
  /-- A character, other than the controls below the space. -/
  | char (c : Char) (printable : 0x20 ≤ c.toNat)
  /-- The end of a line: a carriage return and a line feed. -/
  | newline
  /-- The shell tells the directory of its prompt. Anything but an escape may stand in it. -/
  | directory (dir : Bytes) (free : Parser.esc ∉ dir)

namespace Item

/-- Whether the item belongs to the text. -/
def isText : Item → Bool
  | .char .. => true
  | .newline => true
  | .directory .. => false

/-- The mode for directories, `ESC [ ? 1 1 5 0 ;`, which is to be set or reset. -/
def mode : Bytes := [Parser.esc, 0x5B, 0x3F, 0x31, 0x31, 0x35, 0x30, 0x3B]

/-- The bytes before a directory: the mode is set, by an `h`. -/
def opening : Bytes := mode ++ [0x68]

/-- The bytes behind a directory: the mode is reset, by an `l`. -/
def closing : Bytes := mode ++ [0x6C]

/-- The bytes of an item. -/
def bytes : Item → Bytes
  | .char c _ => String.utf8EncodeChar c
  | .newline => [0x0D, 0x0A]
  | .directory dir _ => opening ++ dir ++ closing

end Item

/-! ### Lines -/

/-- **The lines of the text.** There is one more than there are ends of lines. -/
def lines : List Item → List (List Char)
  | [] => [[]]
  | .char c _ :: rest =>
    match lines rest with
    | line :: more => (c :: line) :: more
    | [] => [[c]]
  | .newline :: rest => [] :: lines rest
  | .directory .. :: rest => lines rest

theorem lines_ne_nil (items : List Item) : lines items ≠ [] := by
  induction items with
  | nil => exact List.cons_ne_nil _ _
  | cons item items ih =>
    cases item with
    | char c printable =>
      rw [lines]
      split <;> exact List.cons_ne_nil _ _
    | newline => exact List.cons_ne_nil _ _
    | directory dir free => exact ih

theorem lines_char_cons {c : Char} (h : 0x20 ≤ c.toNat) {items : List Item} {line : List Char}
    {more : List (List Char)} (hlines : lines items = line :: more) :
    lines (.char c h :: items) = (c :: line) :: more := by
  rw [lines, hlines]

/-- The end of a line begins another one. -/
theorem lines_append_newline (items : List Item) :
    lines (items ++ [.newline]) = lines items ++ [[]] := by
  induction items with
  | nil => rfl
  | cons item items ih =>
    cases item with
    | char c printable =>
      obtain ⟨line, more, hlines⟩ := List.exists_cons_of_ne_nil (lines_ne_nil items)
      have hlines' : lines (items ++ [.newline]) = line :: (more ++ [[]]) := by
        rw [ih, hlines, List.cons_append]
      rw [List.cons_append, lines_char_cons printable hlines', lines_char_cons printable hlines,
        List.cons_append]
    | newline =>
      rw [List.cons_append, lines, ih]
      rfl
    | directory dir free => exact ih

theorem lines_append_directory (items : List Item) {dir : Bytes} (free : Parser.esc ∉ dir) :
    lines (items ++ [.directory dir free]) = lines items := by
  induction items with
  | nil => rfl
  | cons item items ih =>
    rw [List.cons_append]
    cases item with
    | char c printable => rw [lines, lines, ih]
    | newline => rw [lines, lines, ih]
    | directory dir' free' => exact ih

/-- A character goes on with the last line. -/
theorem lines_append_char (items : List Item) {c : Char} (h : 0x20 ≤ c.toNat) :
    ∃ front last, lines items = front ++ [last] ∧
      lines (items ++ [.char c h]) = front ++ [last ++ [c]] := by
  induction items with
  | nil => exact ⟨[], [], rfl, rfl⟩
  | cons item items ih =>
    obtain ⟨front, last, hlines, happend⟩ := ih
    rw [List.cons_append]
    cases item with
    | char d printable =>
      cases front with
      | nil =>
        exact ⟨[], d :: last, lines_char_cons printable hlines, lines_char_cons printable happend⟩
      | cons line front =>
        exact ⟨(d :: line) :: front, last, lines_char_cons printable hlines,
          lines_char_cons printable happend⟩
    | newline =>
      refine ⟨[] :: front, last, ?_, ?_⟩
      · rw [lines, hlines, List.cons_append]
      · rw [lines, happend, List.cons_append]
    | directory dir free => exact ⟨front, last, hlines, happend⟩

/-! ### Pieces -/

/-- **The pieces of a line**, each but the last as long as a row is wide. An empty line has one
empty piece, and no line has an empty piece behind others. -/
def pieces (width : Nat) (line : List Char) : List (List Char) :=
  if width < line.length ∧ 0 < width then line.take width :: pieces width (line.drop width)
  else [line]
termination_by line.length
decreasing_by
  rw [List.length_drop]
  omega

theorem pieces_of_le {width : Nat} {line : List Char} (h : line.length ≤ width) :
    pieces width line = [line] := by
  rw [pieces, if_neg (by omega)]

theorem pieces_of_lt {width : Nat} (hw : 0 < width) {line : List Char} (h : width < line.length) :
    pieces width line = line.take width :: pieces width (line.drop width) := by
  rw [pieces, if_pos ⟨h, hw⟩]

/-- A character goes on with the last piece if that is shorter than a row is wide, and begins
another piece if it is not. -/
theorem pieces_append_char {width : Nat} (hw : 0 < width) (line : List Char) (c : Char) :
    ∃ front last, pieces width line = front ++ [last] ∧ last.length ≤ width ∧
      pieces width (line ++ [c]) =
        front ++ if last.length < width then [last ++ [c]] else [last, [c]] := by
  induction hn : line.length using Nat.strong_induction_on generalizing line with
  | _ n ih =>
    subst hn
    have hlength : (line ++ [c]).length = line.length + 1 := by simp
    rcases Nat.lt_trichotomy line.length width with hlt | heq | hgt
    · refine ⟨[], line, pieces_of_le hlt.le, hlt.le, ?_⟩
      rw [pieces_of_le (by omega), if_pos hlt]
      rfl
    · -- the piece is full, and the character begins another
      refine ⟨[], line, pieces_of_le heq.le, heq.le, ?_⟩
      rw [pieces_of_lt hw (by omega), List.take_left' heq, List.drop_left' heq,
        pieces_of_le (show [c].length ≤ width from hw), if_neg (by omega)]
      rfl
    · -- the first piece stays as it is
      obtain ⟨front, last, hpieces, hle, happend⟩ :=
        ih _ (by rw [List.length_drop]; omega) (line.drop width) rfl
      refine ⟨line.take width :: front, last, ?_, hle, ?_⟩
      · rw [pieces_of_lt hw hgt, hpieces, List.cons_append]
      · rw [pieces_of_lt hw (by omega), List.take_append_of_le_length hgt.le,
          List.drop_append_of_le_length hgt.le, happend, List.cons_append]

/-! ### The transcript -/

/-- **The transcript**: the pieces of all lines, from the first to the last. -/
def transcript (width : Nat) (items : List Item) : List (List Char) :=
  (lines items).flatMap (pieces width)

theorem transcript_nil (width : Nat) : transcript width [] = [[]] := by
  rw [transcript, lines, List.flatMap_singleton, pieces_of_le (Nat.zero_le _)]

theorem transcript_append_newline (width : Nat) (items : List Item) :
    transcript width (items ++ [.newline]) = transcript width items ++ [[]] := by
  rw [transcript, lines_append_newline, List.flatMap_append, List.flatMap_singleton,
    pieces_of_le (Nat.zero_le _)]
  rfl

theorem transcript_append_directory (width : Nat) (items : List Item) {dir : Bytes}
    (free : Parser.esc ∉ dir) :
    transcript width (items ++ [.directory dir free]) = transcript width items := by
  rw [transcript, lines_append_directory, transcript]

theorem transcript_append_char {width : Nat} (hw : 0 < width) (items : List Item) {c : Char}
    (h : 0x20 ≤ c.toNat) :
    ∃ front last, transcript width items = front ++ [last] ∧ last.length ≤ width ∧
      transcript width (items ++ [.char c h]) =
        front ++ if last.length < width then [last ++ [c]] else [last, [c]] := by
  obtain ⟨before, line, hlines, hlines'⟩ := lines_append_char items h
  obtain ⟨front, last, hpieces, hle, hpieces'⟩ := pieces_append_char hw line c
  refine ⟨before.flatMap (pieces width) ++ front, last, ?_, hle, ?_⟩
  · rw [transcript, hlines, List.flatMap_append, List.flatMap_singleton, hpieces, List.append_assoc]
  · rw [transcript, hlines', List.flatMap_append, List.flatMap_singleton, hpieces',
      List.append_assoc]

/-! ### The sheet -/

/-- **A typewriter's sheet**: the pieces that have gone off it, oldest first, those on it above the
last one, and the last one, which is being typed. -/
structure Sheet where
  gone : List (List Char)
  above : List (List Char)
  last : List Char

namespace Sheet

/-- The sheet before anything is typed. -/
def empty : Sheet :=
  ⟨[], [], []⟩

/-- All pieces. -/
def all (s : Sheet) : List (List Char) :=
  s.gone ++ s.above ++ [s.last]

/-- Go on with the last piece. -/
def put (s : Sheet) (c : Char) : Sheet :=
  { s with last := s.last ++ [c] }

/-- **Begin another piece.** If a sheet of the given height is full its first piece goes. -/
def feed (s : Sheet) (height : Nat) : Sheet :=
  let rows := s.above ++ [s.last]
  if rows.length < height then ⟨s.gone, rows, []⟩ else ⟨s.gone ++ rows.take 1, rows.drop 1, []⟩

/-- **Type a character**, on a row of the given width. -/
def type (s : Sheet) (width height : Nat) (c : Char) : Sheet :=
  if s.last.length < width then s.put c else (s.feed height).put c

/-- **Move the sheet up** by some of the pieces above the last one. -/
def scroll (s : Sheet) (count : Nat) : Sheet :=
  { s with gone := s.gone ++ s.above.take count, above := s.above.drop count }

theorem feed_of_lt (s : Sheet) {height : Nat} (h : s.above.length + 1 < height) :
    s.feed height = ⟨s.gone, s.above ++ [s.last], []⟩ :=
  if_pos (by simpa using h)

theorem feed_of_ge (s : Sheet) {height : Nat} (h : height ≤ s.above.length + 1) :
    s.feed height = ⟨s.gone ++ (s.above ++ [s.last]).take 1, (s.above ++ [s.last]).drop 1, []⟩ :=
  if_neg (by simpa using h)

theorem last_feed (s : Sheet) (height : Nat) : (s.feed height).last = [] := by
  unfold feed
  dsimp only
  split <;> rfl

/-- Another piece comes behind all others, whether the first one goes or not. -/
theorem all_feed (s : Sheet) (height : Nat) : (s.feed height).all = s.all ++ [[]] := by
  have hrows : (s.above ++ [s.last]).take 1 ++ (s.above ++ [s.last]).drop 1 =
      s.above ++ [s.last] := List.take_append_drop 1 _
  unfold feed all
  dsimp only
  split
  · rw [List.append_assoc s.gone s.above]
  · dsimp only
    rw [List.append_assoc s.gone (List.take 1 _), hrows, List.append_assoc s.gone s.above]

/-- No piece is lost when the sheet is moved up. -/
theorem all_scroll (s : Sheet) (count : Nat) : (s.scroll count).all = s.all := by
  unfold scroll all
  dsimp only
  rw [List.append_assoc s.gone, List.take_append_drop]

/-- **What is typed is the transcript**, if it was before. -/
theorem all_type {s : Sheet} {width : Nat} (hw : 0 < width) (height : Nat) {items : List Item}
    (hall : s.all = transcript width items) {c : Char} (h : 0x20 ≤ c.toNat) :
    s.last.length ≤ width ∧
      (s.type width height c).all = transcript width (items ++ [.char c h]) := by
  obtain ⟨front, last, htranscript, hle, happend⟩ := transcript_append_char hw items h
  obtain ⟨hfront, hlast⟩ : s.gone ++ s.above = front ∧ s.last = last := by
    rw [← List.concat_inj, List.concat_eq_append, List.concat_eq_append, ← htranscript, ← hall, all]
  subst hlast
  refine ⟨hle, ?_⟩
  rw [happend, ← hfront, type]
  split
  · rfl
  · -- a full piece stays the last but one
    have hput : ((s.feed height).put c).all = s.all ++ [[c]] := by
      have hfeed := s.all_feed height
      unfold all at hfeed ⊢
      rw [s.last_feed height, List.append_cancel_right_eq] at hfeed
      rw [put, hfeed, s.last_feed height]
      rfl
    rw [hput, all, List.append_assoc]
    rfl

/-! ### Rows of a sheet -/

/-- The piece on a row of the sheet, an empty one below the last. -/
def row (s : Sheet) (i : Nat) : List Char :=
  (s.above ++ [s.last])[i]?.getD []

theorem row_of_lt (s : Sheet) {i : Nat} (h : i < s.above.length) : s.row i = s.above[i] := by
  rw [row, List.getElem?_append_left h, List.getElem?_eq_getElem h, Option.getD_some]

theorem row_length_above (s : Sheet) : s.row s.above.length = s.last := by
  rw [row, List.getElem?_append_right le_rfl, Nat.sub_self]
  rfl

theorem row_of_gt (s : Sheet) {i : Nat} (h : s.above.length < i) : s.row i = [] := by
  rw [row, List.getElem?_eq_none (by simp; omega)]
  rfl

theorem row_put (s : Sheet) (c : Char) (i : Nat) :
    (s.put c).row i = if i = s.above.length then s.last ++ [c] else s.row i := by
  have habove : (s.put c).above = s.above := rfl
  rcases Nat.lt_trichotomy i s.above.length with hlt | rfl | hgt
  · rw [if_neg (by omega), s.row_of_lt hlt, (s.put c).row_of_lt hlt]
    rfl
  · rw [if_pos rfl]
    exact (s.put c).row_length_above
  · rw [if_neg (by omega), s.row_of_gt hgt, (s.put c).row_of_gt hgt]

theorem row_scroll (s : Sheet) {count : Nat} (h : count ≤ s.above.length) (i : Nat) :
    (s.scroll count).row i = s.row (count + i) := by
  have hrows : (s.scroll count).above ++ [(s.scroll count).last] =
      (s.above ++ [s.last]).drop count := by
    rw [List.drop_append_of_le_length h]
    rfl
  rw [row, hrows, List.getElem?_drop, row]

/-- An empty piece behind all others is not seen. -/
theorem getD_append_nil (rows : List (List Char)) (i : Nat) :
    (rows ++ [[]])[i]?.getD [] = rows[i]?.getD [] := by
  rcases Nat.lt_trichotomy i rows.length with hlt | rfl | hgt
  · rw [List.getElem?_append_left hlt]
  · rw [List.getElem?_append_right le_rfl, Nat.sub_self, List.getElem?_eq_none le_rfl]
    rfl
  · rw [List.getElem?_eq_none (by simp; omega), List.getElem?_eq_none hgt.le]

/-- With room on the sheet the rows stay where they are. -/
theorem row_feed_of_lt (s : Sheet) {height : Nat} (h : s.above.length + 1 < height) (i : Nat) :
    (s.feed height).row i = s.row i := by
  rw [s.feed_of_lt h]
  exact getD_append_nil _ i

/-- Without room they all come up by one. -/
theorem row_feed_of_ge (s : Sheet) {height : Nat} (h : height ≤ s.above.length + 1) (i : Nat) :
    (s.feed height).row i = s.row (i + 1) := by
  rw [s.feed_of_ge h, row, row, getD_append_nil, List.getElem?_drop, Nat.add_comm]

/-- The first row is the one that goes. -/
theorem take_one (s : Sheet) : (s.above ++ [s.last]).take 1 = [s.row 0] := by
  unfold row
  cases s.above <;> rfl

theorem length_above_feed_of_ge (s : Sheet) {height : Nat} (h : height ≤ s.above.length + 1) :
    (s.feed height).above.length = s.above.length := by
  rw [s.feed_of_ge h, List.length_drop]
  simp

theorem length_above_feed_of_lt (s : Sheet) {height : Nat} (h : s.above.length + 1 < height) :
    (s.feed height).above.length = s.above.length + 1 := by
  rw [s.feed_of_lt h]
  simp

theorem length_above_scroll (s : Sheet) (count : Nat) :
    (s.scroll count).above.length = s.above.length - count :=
  List.length_drop

theorem scroll_zero (s : Sheet) : s.scroll 0 = s := by
  rw [scroll, List.take_zero, List.append_nil, List.drop_zero]

end Sheet

end GlassTty.Transcript
