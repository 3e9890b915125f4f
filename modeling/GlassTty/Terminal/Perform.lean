import GlassTty.Terminal.Scrolling

/-!
# Performing actions

What each action does to a terminal (`GlassTty.Terminal.perform`). Cursor movement stops at the
edges of the screen, and vertical movement at the edge of the scroll region unless the cursor is
beyond it already. Rows the cursor comes to on the main screen count as active.

Setting a mode may open a directive (`GlassTty.Terminal.openDirective`); where it ends is a matter
of the bytes that follow.
-/

namespace GlassTty.Terminal

/-! ### Replies -/

/-- The bytes of an escape and a text behind it. -/
def escaped (text : String) : Bytes :=
  Parser.esc :: utf8Bytes text

/-- The reply that names the terminal. -/
def attributesReply : Bytes := escaped "[?6c"

/-- The reply that names the version of the terminal. -/
def secondaryAttributesReply : Bytes := escaped "[>0;0;0c"

/-- The reply that all is well. -/
def statusReply : Bytes := escaped "[0n"

/-- The reply about the line settings. -/
def parametersReply : Bytes := escaped "[0;0;0;0;0;0;0x"

/-- The reply that tells the position of a cursor, counted from one. -/
def positionReply (cursor : Cursor) : Bytes :=
  escaped ("[" ++ toString (cursor.row + 1) ++ ";" ++ toString (cursor.col + 1) ++ "R")

/-! ### Movement -/

/-- Up, at most to the top of the region, or of the screen if the cursor is above the region. -/
def moveUp (t : Terminal) (count : Nat) : Terminal :=
  let floor := if t.region.top ≤ t.cursor.row then t.region.top else 0
  t.withCursor (.ofPosition (max (t.cursor.row - count) floor) t.cursor.col)

/-- Down, at most to the bottom of the region, or of the screen if the cursor is below it. -/
def moveDown (t : Terminal) (count : Nat) : Terminal :=
  let ceiling := if t.cursor.row ≤ t.region.bottom then t.region.bottom else t.height - 1
  (t.withCursor (.ofPosition (min (t.cursor.row + count) ceiling) t.cursor.col)).touchCursorRow

/-- The next column that is a multiple of eight. -/
def nextTabStop (col : Nat) : Nat :=
  (col / 8 + 1) * 8

/-! ### Erasing and moving -/

/-- **Erase in the display**: from the cursor to the end (0), from the start to the cursor (1), or
everything (2, 3). If that is whole rows only, their marks go too. -/
def eraseInDisplay (t : Terminal) (mode : Nat) : Terminal :=
  let row := t.cursor.row
  let col := t.cursor.col
  let lastRow := t.height - 1
  let lastCol := t.width - 1
  match mode with
  | 0 =>
    -- rows that are erased from one end to the other lose their marks too
    if col = 0 then t.mapScreen (·.eraseLines row lastRow)
    else t.mapScreen (·.eraseRange row col lastRow lastCol)
  | 1 =>
    if col = lastCol then t.mapScreen (·.eraseLines 0 row)
    else t.mapScreen (·.eraseRange 0 0 row col)
  | 2 => t.mapScreen (·.clear)
  | 3 => t.mapScreen (·.clear)
  | _ => t

/-- **Erase in the row**: from the cursor to its end (0), from its start to the cursor (1), or all
of it with its mark (2). -/
def eraseInLine (t : Terminal) (mode : Nat) : Terminal :=
  let row := t.cursor.row
  let col := t.cursor.col
  match mode with
  | 0 => t.mapScreen (·.eraseRange row col row (t.width - 1))
  | 1 => t.mapScreen (·.eraseRange row 0 row col)
  | 2 => t.mapScreen (·.eraseLines row row)
  | _ => t

/-- Do something to the shown screen a number of times. -/
def repeatScreen (t : Terminal) (count : Nat) (change : Screen → Screen) : Terminal :=
  t.mapScreen fun screen => Nat.repeat change count screen

/-- How often the rows from the cursor to the bottom of the region can be shifted: never if the
cursor is outside of it. -/
def shifts (t : Terminal) (count : Nat) : Nat :=
  if t.region.contains t.cursor.row then min count (t.region.bottom - t.cursor.row + 1) else 0

/-! ### Style -/

/-- The style after one parameter. -/
def styleWith (style : Style) (param : Nat) : Style :=
  if param = 0 ∨ param = 27 ∨ param = 39 ∨ param = 49 then .normal
  else if param = 1 then style.withBold
  else if param = 7 then .inverse
  else if 30 ≤ param ∧ param ≤ 37 then style.withFg (param - 30)
  else if 40 ≤ param ∧ param ≤ 47 then style.withBg (param - 40)
  else style

/-- The style after all parameters; none at all means normal. -/
def selectGraphics (style : Style) (params : List Nat) : Style :=
  if params.isEmpty then .normal else params.foldl styleWith style

/-! ### Modes -/

/-- The modes that show the alternate screen. -/
def alternateModes : List Nat := [47, 1047, 1049]

/-- **Show the other screen.** The alternate one is blank at first; back on the main one the cursor
is at the start of the last active row. -/
def setAltMode (t : Terminal) (enable : Bool) : Terminal :=
  if enable then { t with style := .normal, altMode := true, alt := t.alt.clear }
  else
    { t with
      style := .normal
      altMode := false
      cursor := .ofPosition (t.activeRows - 1) 0 }

/-- **Open a directive**, unless the alternate screen is shown. All active rows go into the
scrollback before a payload. -/
def openDirective (t : Terminal) (code : DirectiveCode) (presented : Option Nat) : Terminal :=
  if t.altMode then t
  else
    let validated := presentsCookie presented t.cookie
    let t := if code = .payload then t.scrollRows t.activeRows else t
    { t with directive := some { code, validated, limit := t.maxDirectiveBytes } }

/-- Set a mode or reset it. -/
def setMode (t : Terminal) (params : List Nat) (enable : Bool) : Terminal :=
  match params with
  | [] => t
  | mode :: rest =>
    if alternateModes.contains mode then t.setAltMode enable
    else
      match DirectiveCode.ofMode? mode with
      -- resetting closes nothing, as the escape before it has ended the directive already
      | some code => if enable then t.openDirective code rest.head? else t
      | none => t

/-! ### All actions -/

/-- **What an action does.** -/
def perform (t : Terminal) (action : Action) : Terminal :=
  let row := t.cursor.row
  let col := t.cursor.col
  match action with
  | .print char => t.print char
  | .backspace => t.moveToCol (col - 1)
  | .tab => t.moveToCol (min (nextTabStop col) (t.width - 1))
  | .lineFeed => t.cursorDown
  | .index => t.cursorDown
  | .nextLine => t.cursorDown.toFirstCol
  | .carriageReturn => t.withCursor t.cursor.carriageReturn
  | .reverseIndex => t.reverseIndex
  | .saveCursor => { t with savedCursor := .save t.cursor }
  | .restoreCursor => (t.withCursor (t.savedCursor.restore t.height t.width)).touchCursorRow
  | .fullReset => { t with altMode := false }.reset
  | .deviceAttributes => t.reply attributesReply
  | .secondaryDeviceAttributes => t.reply secondaryAttributesReply
  | .statusReport => t.reply statusReply
  | .cursorPositionReport => t.reply (positionReply t.cursor)
  | .terminalParameters => t.reply parametersReply
  | .insertBlanks count => t.repeatScreen (min count (t.width - col)) (·.insertBlank row col)
  | .cursorUp count => t.moveUp count
  | .cursorDown count => t.moveDown count
  | .cursorForward count => t.moveToCol (min (col + count) (t.width - 1))
  | .cursorBackward count => t.moveToCol (col - count)
  | .cursorNextLine count => (t.moveDown count).toFirstCol
  | .cursorPrevLine count => (t.moveUp count).toFirstCol
  | .cursorColumn col => t.moveTo row (col - 1)
  | .cursorRow row => (t.moveTo (row - 1) col).touchCursorRow
  | .cursorPosition row col => (t.moveTo (row - 1) (col - 1)).touchCursorRow
  | .eraseInDisplay mode => t.eraseInDisplay mode
  | .eraseInLine mode => t.eraseInLine mode
  | .insertLines count => t.repeatScreen (t.shifts count) (·.scrollDown row t.region.bottom)
  | .deleteLines count => t.repeatScreen (t.shifts count) (·.scrollUp row t.region.bottom)
  | .deleteChars count => t.mapScreen (·.deleteChars row col count)
  | .eraseChars count => t.mapScreen (·.eraseChars row col count)
  | .setScrollRegion top bottom =>
    match ScrollRegion.ofRequest? top bottom t.height with
    | some region => { t with region }
    | none => t
  | .setMode params => t.setMode params true
  | .resetMode params => t.setMode params false
  | .selectGraphics params => { t with style := selectGraphics t.style params }

end GlassTty.Terminal
