import GlassTty.Screen.Style

/-!
# Cells and the text of a row

A cell holds a character and its style. A cell with the character NUL was never written, or was
erased; such cells are left out at the end of a row and show as spaces inside it.

* `GlassTty.displayChar` – the character a viewer draws for a code point: controls draw as a space,
  DEL and the second range of controls as a question mark.
* `GlassTty.rowText` – the text of a row, one character a cell, so that places in the text are
  columns.
* `GlassTty.encodeRow` – the row as a viewer gets it: plain text if no cell of it has a tag, and
  otherwise its maximal runs of equal tags.
-/

namespace GlassTty

/-- A cell of a screen. -/
structure Cell where
  char : Char
  style : Style
  deriving DecidableEq, Repr, Inhabited

/-- The character drawn for a code point. -/
def displayChar (codePoint : Nat) : Char :=
  if codePoint = 0x0A then '\n'
  else if codePoint ≤ 0x1F then ' '
  else if 0x7F ≤ codePoint ∧ codePoint ≤ 0xA0 then '?'
  else if codePoint.isValidChar then Char.ofNat codePoint
  else '?'

namespace Cell

/-- The cell that was never written. -/
def blank : Cell := ⟨'\x00', .none⟩

/-- Whether nothing stands in a cell, whatever its style. -/
def isBlank (c : Cell) : Bool :=
  c.char = '\x00'

/-- The character drawn for a cell. -/
def shown (c : Cell) : Char :=
  displayChar c.char.toNat

end Cell

/-! ### The cells of a row as text -/

/-- The cells of a row up to the last that is not blank. -/
def trimBlank (cells : List Cell) : List Cell :=
  (cells.reverse.dropWhile Cell.isBlank).reverse

/-- The characters of a row, one a cell. -/
def rowChars (cells : List Cell) : List Char :=
  (trimBlank cells).map Cell.shown

/-- **The text of a row**, without the blanks at its end. -/
def rowText (cells : List Cell) : String :=
  String.ofList (rowChars cells)

/-- A run of characters with the same tags. -/
structure Span where
  tags : Tags
  text : String
  deriving DecidableEq, Repr, Inhabited

/-- The text of a row as a viewer gets it. -/
inductive RowText where
  /-- No character has a tag. -/
  | plain (text : String)
  /-- Some character has one. -/
  | styled (spans : List Span)
  deriving DecidableEq, Repr, Inhabited

namespace RowText

/-- The text, without the tags. -/
def text : RowText → String
  | .plain text => text
  | .styled spans => String.ofList (spans.flatMap fun span => span.text.toList)

end RowText

/-- The runs of the cells so far, the last one first, and a cell more: it joins the last run if that
has its tags. -/
def addToRuns (runs : List Span) (cell : Cell) : List Span :=
  match runs with
  | last :: before =>
    if last.tags = cell.style.tags then { last with text := last.text.push cell.shown } :: before
    else ⟨cell.style.tags, String.singleton cell.shown⟩ :: last :: before
  | [] => [⟨cell.style.tags, String.singleton cell.shown⟩]

/-- The maximal runs of cells with equal tags. -/
def tagRuns (cells : List Cell) : List Span :=
  (cells.foldl addToRuns []).reverse

/-- **The row as a viewer gets it**, without the blanks at its end. -/
def encodeRow (cells : List Cell) : RowText :=
  match tagRuns (trimBlank cells) with
  | [] => .plain ""
  | [only] => if only.tags = .plain then .plain only.text else .styled [only]
  | spans => .styled spans

end GlassTty
