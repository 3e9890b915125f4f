import GlassTty.Directive.Buffer
import GlassTty.Directive.Interpret
import GlassTty.Escape.Parser
import GlassTty.Report.Reporter
import GlassTty.Screen.Cursor

/-!
# Terminals

A terminal is one session: the parser of its output, a main and an alternate screen, the cursor,
what has been said to the program and to the viewer (`GlassTty.Terminal`). Its main screen is line
oriented: the rows that hold anything are the first `activeRows` ones, and an update moves those
above the newest prompt into the scrollback.

This file has the state and the small changes that everything else is made of.
-/

namespace GlassTty

/-- How a terminal is set up. -/
structure TerminalConfig where
  width : Nat := 80
  height : Nat := 25
  /-- The secret that authenticates directives. -/
  cookie : String
  prompt : Option PromptFormat := none
  maxScrollLines : Nat := Scrollback.defaultCapacity
  maxDirectiveBytes : Nat := DirectiveBuffer.defaultLimit
  /-- The greatest file that a directive may open. -/
  maxFileBytes : Nat := Directive.defaultFileLimit
  deriving DecidableEq, Repr, Inhabited

/-- The state of one session. -/
structure Terminal where
  name : String
  cookie : String
  maxDirectiveBytes : Nat
  maxFileBytes : Nat
  width : Nat
  height : Nat
  parser : Parser := .start
  main : Screen
  alt : Screen
  /-- The alternate screen is shown. -/
  altMode : Bool := false
  cursor : Cursor := {}
  savedCursor : SavedCursor := {}
  region : ScrollRegion
  style : Style := .normal
  /-- How many rows of the main screen hold anything. -/
  activeRows : Nat := 0
  /-- What is to be sent to the program. -/
  replies : Bytes := []
  /-- The directive that is being collected. -/
  directive : Option DirectiveBuffer := none
  reporter : Reporter
  /-- What is to be told to the viewer, oldest first. -/
  events : List TerminalEvent := []
  /-- Output has come since the last update. -/
  needsUpdating : Bool := true
  /-- The request that the next update answers. -/
  pendingReconnect : Option String := none
  extractor : TextExtractor := PlainText.strip?

namespace Terminal

/-- A terminal before any output. A size of zero is raised to one. -/
def new (name : String) (config : TerminalConfig) : Terminal :=
  let width := max config.width 1
  let height := max config.height 1
  { name
    cookie := config.cookie
    maxDirectiveBytes := config.maxDirectiveBytes
    maxFileBytes := config.maxFileBytes
    width
    height
    main := .blank width height
    alt := .blank width height
    region := .full height
    reporter := .start config.prompt config.maxScrollLines }

/-! ### Looking -/

/-- The screen that is shown. -/
def screen (t : Terminal) : Screen :=
  if t.altMode then t.alt else t.main

/-- The lines that have left the screen. -/
def scrollback (t : Terminal) : Scrollback :=
  t.reporter.scrollback

/-- The parts of the shell's prompt. -/
def prompt (t : Terminal) : Option PromptFormat :=
  t.reporter.prompt

/-- Whether a directive is being collected. -/
def inDirective (t : Terminal) : Bool :=
  t.directive.isSome

/-- Whether a row of the main screen is a command line. -/
def isPromptRow (t : Terminal) (row : Nat) : Bool :=
  0 < t.reporter.promptOffset (t.main.rowText row) (t.main.mark? row)

/-! ### Small changes -/

/-- Change the screen that is shown. -/
def mapScreen (t : Terminal) (change : Screen → Screen) : Terminal :=
  if t.altMode then { t with alt := change t.alt } else { t with main := change t.main }

/-- Count the row of the cursor as one that holds something, on the main screen. -/
def touchCursorRow (t : Terminal) : Terminal :=
  if t.altMode then t else { t with activeRows := max t.activeRows (t.cursor.row + 1) }

/-- Put the cursor somewhere. -/
def withCursor (t : Terminal) (cursor : Cursor) : Terminal :=
  { t with cursor }

/-- Forget a wrap that is pending. -/
def settle (t : Terminal) : Terminal :=
  t.withCursor t.cursor.settled

/-- Move the cursor, back to the screen if need be. -/
def moveTo (t : Terminal) (row col : Nat) : Terminal :=
  t.withCursor (.ofPosition (min row (t.height - 1)) (min col (t.width - 1)))

/-- Move the cursor within its row. -/
def moveToCol (t : Terminal) (col : Nat) : Terminal :=
  t.withCursor (.ofPosition t.cursor.row col)

/-- To the first column, a pending wrap being left as it is. -/
def toFirstCol (t : Terminal) : Terminal :=
  t.withCursor { t.cursor with col := 0 }

/-- Send bytes to the program. -/
def reply (t : Terminal) (bytes : Bytes) : Terminal :=
  { t with replies := t.replies ++ bytes }

/-- Tell the viewer something. -/
def tell (t : Terminal) (event : TerminalEvent) : Terminal :=
  { t with events := t.events ++ [event] }

/-- Blank both screens and forget everything about them; an open directive is dropped. -/
def reset (t : Terminal) : Terminal :=
  { t with
    main := .blank t.width t.height
    alt := .blank t.width t.height
    region := .full t.height
    cursor := {}
    savedCursor := {}
    style := .normal
    activeRows := 0
    directive := none
    needsUpdating := true }

/-- Take what is to be sent to the program. -/
def takeReplies (t : Terminal) : Bytes × Terminal :=
  (t.replies, { t with replies := [] })

/-- Take what is to be told to the viewer. -/
def drainEvents (t : Terminal) : List TerminalEvent × Terminal :=
  (t.events, { t with events := [] })

end Terminal

end GlassTty
