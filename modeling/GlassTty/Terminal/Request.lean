import GlassTty.Paste.Compose
import GlassTty.Terminal.Write

/-!
# Requests of the viewer

What a viewer may ask of a terminal besides looking at it: to be told everything again
(`GlassTty.Terminal.reconnect`), another size (`GlassTty.Terminal.resize`), a clean screen
(`GlassTty.Terminal.clear`), the last command taken back (`GlassTty.Terminal.clearLast?`), a click
typed into the command line (`GlassTty.Terminal.clickPaste`) and a file saved
(`GlassTty.Terminal.saveFile`).
-/

namespace GlassTty.Terminal

/-- **Tell everything again** with the next update, in answer to the request of the given name. -/
def reconnect (t : Terminal) (responseId : String) : Terminal :=
  { t with
    reporter := t.reporter.reconnect
    pendingReconnect := some responseId
    needsUpdating := true }

/-! ### Another size -/

/-- What is kept of the first row: its cells, its mark, and how many of the cells are written. -/
structure KeptRow where
  cells : Array Cell
  mark : Option PromptMark
  written : Nat

/-- The first row, if it is a command line. -/
def keptRow? (t : Terminal) : Option KeptRow :=
  if 0 < t.activeRows ∧ t.isPromptRow 0 then
    (t.main.row? 0).map fun row =>
      { cells := row.cells, mark := row.mark, written := (trimBlank row.cells.toList).length }
  else none

/-- Put the kept row back on a blank screen, as much of it as fits. -/
def putBack (t : Terminal) (kept : KeptRow) (oldWidth : Nat) : Terminal :=
  let cells := kept.cells.extract 0 (min t.width oldWidth)
  let main := (List.range cells.size).foldl
    (fun (main : Screen) col => main.setCell 0 col (cells[col]?.getD Cell.blank)) t.main
  { t with
    main := main.setMark 0 kept.mark
    activeRows := 1
    cursor := { t.cursor with col := min kept.written (t.width - 1) } }

/-- Both screens blank and of another size, but for the first row if it is a command line. -/
def rebuild (t : Terminal) (height width : Nat) : Terminal :=
  let blank := { t with width, height }.reset
  match t.keptRow? with
  | some kept => blank.putBack kept t.width
  | none => blank

/-- **Another size.** Both screens become blank; a command line in progress is kept, cut to the new
width. -/
def resize (t : Terminal) (height width : Nat) : Terminal :=
  let height := max height 1
  let width := max width 1
  let t := { t with needsUpdating := true }
  -- the size of a window may be told again without having changed
  if height = t.height ∧ width = t.width then t else t.scrollToPrompt.rebuild height width

/-! ### A clean screen -/

/-- Drop every row of the main screen but that of the cursor, which becomes the first. -/
def keepCursorRow (t : Terminal) : Terminal :=
  let row := min t.cursor.row (t.activeRows - 1)
  { t with
    main := (t.main.copyRows row 0 1).eraseLines 1 (t.height - 1)
    activeRows := 1
    cursor := { t.cursor with row := 0 } }

/-- **Drop the scrollback** and, on the main screen, every active row but that of the cursor. -/
def clear (t : Terminal) : Terminal :=
  let t := { t with reporter := t.reporter.clearScrollback, needsUpdating := true }
  if !t.altMode ∧ 0 < t.activeRows then t.keepCursorRow else t

/-- **Take the newest entry of the scrollback back**, if it may be. -/
def clearLast? (t : Terminal) (guard : Option Nat) : Option Terminal :=
  (t.reporter.clearLast? guard).map fun reporter =>
    { t with reporter := reporter.forceFullUpdate, needsUpdating := true }

/-- Take the newest entry back if it may be, and leave the terminal alone if not. -/
def clearLast (t : Terminal) (guard : Option Nat) : Terminal :=
  (t.clearLast? guard).getD t

/-! ### Clicks and files -/

/-- Where clicks are pasted: the host's own name, and where programs are looked for. -/
structure PasteSetting where
  localHost : String := ""
  search : SearchPath := {}
  deriving DecidableEq, Repr, Inhabited

/-- A click of the viewer. -/
structure Click where
  /-- The word clicked on. -/
  text : String := ""
  /-- The URL of the file clicked on. -/
  fileUrl : String := ""
  options : PasteOptions := {}
  deriving DecidableEq, Repr, Inhabited

/-- The directory that the mark of a row tells, if it tells one. -/
def markedDirectory? (mark : Option PromptMark) : Option String :=
  (mark.map (·.directory)).filter (!·.isEmpty)

/-- Whether the directory of the shell has to be asked for elsewhere: the command line is there, but
does not tell it. -/
def needsDirectory (t : Terminal) : Bool :=
  0 < t.activeRows && (markedDirectory? (t.main.mark? (t.activeRows - 1))).isNone

/-- Whether nothing has been typed behind the prompt that ends at column `offset`. -/
def isEmptyCommand (line : String) (offset : Nat) : Bool :=
  0 < offset && offset = (Text.trimEnd line.toList).length

/-- Whether files are named from the directory `cwd`: not if the entry taken back last was run in
another one. -/
def normalizesIn (s : Scrollback) (cwd : String) : Bool :=
  !cwd.isEmpty && (!s.clearedLast || s.clearedDirectory.all (· = cwd))

/-- **The text that a click types**, or why it types none. On an empty command line the entry that
the options name is taken back first. The directory `fallback` counts where the command line tells
none. -/
def clickPaste (t : Terminal) (files : FileSystem) (click : Click) (setting : PasteSetting)
    (fallback : Option String) : Except PasteError (Option String) × Terminal :=
  if t.activeRows = 0 then (.error .notAtCommandLine, t)
  else
    let row := t.activeRows - 1
    let line := t.main.rowText row
    let rowMark := t.main.mark? row
    let cwd := (markedDirectory? rowMark <|> fallback).getD ""
    let mark := rowMark <|> (if cwd.isEmpty then none else some (.prompt cwd))
    let offset := t.reporter.promptOffset line mark
    let guard := click.options.clearLast.filter (0 < ·)
    let t :=
      if guard.isSome ∧ isEmptyCommand line offset then t.clearLast guard else t
    let commandLine : CommandLine :=
      { line := line.toList
        cursorCol := if t.cursor.row = row then some t.cursor.col else none
        promptOffset := offset
        cwd := cwd.toList
        normalizeByDefault := normalizesIn t.scrollback cwd
        localHost := setting.localHost.toList
        search := setting.search }
    let pasted :=
      Paste.compose files commandLine click.text.toList click.fileUrl.toList click.options
    (pasted.map (·.map String.ofList), t)

/-- **Save a file** and tell the viewer how it went. -/
def saveFile (t : Terminal) (files : FileSystem) (path : String) (content : Bytes) :
    Terminal × FileSystem :=
  let (event, files) := Directive.saveFile files path content
  (t.tell (.directive event), files)

end GlassTty.Terminal
