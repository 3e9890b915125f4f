import GlassTty.Prompt.Format
import GlassTty.Prompt.Markup
import GlassTty.Report.Event
import GlassTty.Screen.Screen

/-!
# The reporter

The reporter keeps what the viewer was told last: the size, the cursor and both screens, and with
the scrollback how much of it was told (`GlassTty.Reporter`). An update compares the live state
(`GlassTty.LiveView`) with that, gives the rows that differ, the rows that the cursor left or came
to, and the new lines of the scrollback, and keeps the live state for the next time
(`GlassTty.Reporter.update`).
-/

namespace GlassTty

/-- The live state of a terminal, as the reporter looks at it. -/
structure LiveView where
  /-- How many rows of the main screen hold anything. -/
  activeRows : Nat
  width : Nat
  height : Nat
  cursorRow : Nat
  cursorCol : Nat
  main : Screen
  /-- The alternate screen, while it is shown. -/
  alt : Option Screen

/-- What an update tells of rows and lines. -/
structure ScreenDiff where
  fullUpdate : Bool
  rows : List ChangedRow
  scrollback : List ScrollbackLine
  deriving DecidableEq, Repr, Inhabited

/-- What the viewer was told, and the scrollback. -/
structure Reporter where
  prompt : Option PromptFormat
  /-- Width and height at the last update. -/
  size : Option (Nat × Nat) := none
  /-- Row and column of the cursor at the last update. -/
  cursor : Option (Nat × Nat) := none
  main : Option Screen := none
  alt : Option Screen := none
  scrollback : Scrollback
  /-- The next update is to tell everything. -/
  fullUpdate : Bool := true

namespace Reporter

/-- The reporter of a terminal nothing of which was told. -/
def start (prompt : Option PromptFormat) (maxScrollLines : Nat) : Reporter :=
  { prompt, scrollback := .empty maxScrollLines }

/-- The length of the lead of the prompt. -/
def leadLength (r : Reporter) : Nat :=
  (r.prompt.map PromptFormat.leadLength).getD 0

/-- The column where the command begins on a row. -/
def promptOffset (r : Reporter) (line : String) (mark : Option PromptMark) : Nat :=
  GlassTty.promptOffset line r.prompt mark

/-! ### The scrollback -/

/-- **Move a row of the main screen into the scrollback.** A command line opens an entry and is kept
with its markup; any other row belongs to the newest entry. -/
def scrollOff (r : Reporter) (line : String) (mark : Option PromptMark) : Reporter :=
  let offset := r.promptOffset line mark
  if 0 < offset then
    let scrollback := r.scrollback.beginEntry
    let directory := (mark.map (·.directory)).getD ""
    let markup :=
      Markup.commandLine scrollback.entryIndex directory.toList r.leadLength offset line.toList
    { r with
      scrollback := scrollback.push
        { entryIndex := scrollback.entryIndex
          promptOffset := offset
          directory
          markup := some (String.ofList markup)
          line } }
  else
    { r with
      scrollback := r.scrollback.push
        { entryIndex := r.scrollback.entryIndex
          promptOffset := 0
          directory := ""
          markup := none
          line } }

/-- Let the next update tell everything, all of the scrollback too. -/
def reconnect (r : Reporter) : Reporter :=
  { r with scrollback := r.scrollback.rewind, fullUpdate := true }

/-- Let the next update tell all rows. -/
def forceFullUpdate (r : Reporter) : Reporter :=
  { r with fullUpdate := true }

/-- Take the newest entry of the scrollback back, if it may be. -/
def clearLast? (r : Reporter) (guard : Option Nat) : Option Reporter :=
  (r.scrollback.clearLast? guard).map fun scrollback => { r with scrollback }

/-- Drop the scrollback. -/
def clearScrollback (r : Reporter) : Reporter :=
  { r with scrollback := r.scrollback.clear, fullUpdate := true }

/-! ### Updates -/

/-- Whether everything has to be told: it was asked for, the size has changed, or the other screen
is shown now. -/
def needsFull (r : Reporter) (view : LiveView) : Bool :=
  r.fullUpdate || r.size ≠ some (view.width, view.height) || view.alt.isSome ≠ r.alt.isSome

/-- Whether a row of the shown screen is to be told. -/
def tells (r : Reporter) (view : LiveView) (old : Option Screen) (row : Nat) (live : Row) : Bool :=
  -- marks are not compared, since they do not show in the text
  let changed := (old.bind (·.row? row)).map (·.cells) ≠ some live.cells
  let moved := r.cursor ≠ some (view.cursorRow, view.cursorCol)
  -- the row that the cursor has left and the one that it has come to
  let underCursor := moved && (view.cursorRow = row || r.cursor.map (·.1) = some row)
  r.needsFull view || changed || underCursor

/-- The rows to tell. On the main screen only the active rows are looked at, on the alternate one
all of them. -/
def changedRows (r : Reporter) (view : LiveView) : List ChangedRow :=
  let (screen, old, count) :=
    match view.alt with
    | some alt => (alt, r.alt, view.height)
    | none => (view.main, r.main, view.activeRows)
  (List.range (min count screen.height)).filterMap fun row =>
    (screen.row? row).bind fun live =>
      if r.tells view old row live then
        some
          { row
            promptOffset := r.promptOffset live.text live.mark
            text := live.encoded }
      else none

/-- **An update**: what is to be told, and the reporter that has told it. -/
def update (r : Reporter) (view : LiveView) : ScreenDiff × Reporter :=
  let (lines, scrollback) := r.scrollback.takeUnreported
  ({ fullUpdate := r.needsFull view
     rows := r.changedRows view
     scrollback := lines },
   { r with
     size := some (view.width, view.height)
     cursor := some (view.cursorRow, view.cursorCol)
     main := some view.main
     alt := view.alt
     scrollback
     fullUpdate := false })

end Reporter

end GlassTty
