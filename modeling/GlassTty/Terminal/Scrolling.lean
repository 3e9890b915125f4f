import GlassTty.Terminal.Basic

/-!
# Rows that leave the screen

A row of the main screen leaves it in two ways: a line feed at the bottom of a region that begins at
the top pushes the first row out (`GlassTty.Terminal.cursorDown`), and whole blocks of rows are
moved into the scrollback, those above the newest prompt before each update
(`GlassTty.Terminal.scrollToPrompt`) and all of them before a payload
(`GlassTty.Terminal.scrollRows`).
-/

namespace GlassTty.Terminal

/-- Move a row of the main screen into the scrollback. -/
def scrollOff (t : Terminal) (row : Nat) : Terminal :=
  { t with reporter := t.reporter.scrollOff (t.main.rowText row) (t.main.mark? row) }

/-- The first `count` rows being in the scrollback, let the other active rows come up. -/
def dropRows (t : Terminal) (count : Nat) : Terminal :=
  let left := t.activeRows - count
  { t with
    main := (t.main.copyRows count 0 left).eraseLines left (t.height - 1)
    activeRows := left
    cursor :=
      if left = 0 then .ofPosition (t.cursor.row - count) 0
      else { t.cursor with row := t.cursor.row - count } }

/-- **Move the first `count` active rows into the scrollback**, the others coming up. -/
def scrollRows (t : Terminal) (count : Nat) : Terminal :=
  if count = 0 then t else ((List.range count).foldl scrollOff t).dropRows count

/-- The last active row that is a command line, the first row if none is. -/
def lastPromptRow (t : Terminal) : Nat :=
  ((List.range t.activeRows).reverse.find? t.isPromptRow).getD 0

/-- **Move the rows above the newest prompt into the scrollback.** -/
def scrollToPrompt (t : Terminal) : Terminal :=
  t.scrollRows t.lastPromptRow

/-- Put the first row of a region at the top of the main screen into the scrollback, before the
region scrolls. -/
def saveTopRow (t : Terminal) : Terminal :=
  if !t.altMode ∧ t.region.top = 0 then t.scrollOff t.region.top else t

/-- Scroll the region up. -/
def scrollRegionUp (t : Terminal) : Terminal :=
  t.saveTopRow.mapScreen (·.scrollUp t.region.top t.region.bottom)

/-- One row down. At the bottom of the region the region scrolls; the row that leaves the main
screen at the very top goes into the scrollback. -/
def feedLine (t : Terminal) : Terminal :=
  if t.cursor.row = t.region.bottom then t.scrollRegionUp
  else if t.cursor.row + 1 < t.height then t.withCursor { t.cursor with row := t.cursor.row + 1 }
  else t

/-- **A line feed.** -/
def cursorDown (t : Terminal) : Terminal :=
  t.feedLine.settle.touchCursorRow

/-- One row up. At the top of the region the region scrolls down. -/
def backLine (t : Terminal) : Terminal :=
  if t.cursor.row = t.region.top then t.mapScreen (·.scrollDown t.region.top t.region.bottom)
  else t.withCursor { t.cursor with row := t.cursor.row - 1 }

/-- **A reverse line feed.** -/
def reverseIndex (t : Terminal) : Terminal :=
  t.backLine.settle.touchCursorRow

/-- The mark of the row that goes on where the row of the cursor ends. -/
def continuedMark (t : Terminal) : Option PromptMark :=
  if t.altMode then none else (t.main.mark? t.cursor.row).map PromptMark.continued

/-- Mark the row of the cursor, if there is something to mark it with. -/
def markRow (t : Terminal) (mark : Option PromptMark) : Terminal :=
  match mark with
  | some mark => { t with main := t.main.setMark t.cursor.row (some mark) }
  | none => t

/-- Go on to the next row before a character is printed, if one is due. A row that continues a
prompt's row is marked so. -/
def wrap (t : Terminal) : Terminal :=
  if t.cursor.pendingWrap then t.cursorDown.toFirstCol.markRow t.continuedMark else t

/-- Put a character where the cursor is. -/
def putChar (t : Terminal) (char : Char) : Terminal :=
  t.mapScreen (·.setCell t.cursor.row t.cursor.col ⟨char, t.style⟩)

/-- **Print a character.** After the last column the cursor stays and a wrap is due. -/
def print (t : Terminal) (char : Char) : Terminal :=
  let t := t.wrap.putChar char
  (t.withCursor (t.cursor.advanced t.width)).touchCursorRow

end GlassTty.Terminal
