import GlassTty.Terminal.Perform

/-!
# Output

A terminal is given the output of its session piece by piece (`GlassTty.Terminal.write`). While no
directive is open each byte goes to the parser, and what it completes is performed. The bytes of an
open directive are collected up to the next escape, which ends the directive and then begins the
sequence that closes it.

Before a payload is interpreted the viewer gets an update (`GlassTty.Terminal.update`), so that it
sees the screen as it was when the payload came. Payloads may read and write files, so the files go
along.
-/

namespace GlassTty.Terminal

/-! ### Updates -/

/-- The live state, as the reporter looks at it. -/
def view (t : Terminal) : LiveView :=
  { activeRows := t.activeRows
    width := t.width
    height := t.height
    cursorRow := t.cursor.row
    cursorCol := t.cursor.col
    main := t.main
    alt := if t.altMode then some t.alt else none }

/-- The update that tells a difference. -/
def rowUpdate (t : Terminal) (diff : ScreenDiff) : RowUpdate :=
  { altMode := t.altMode
    fullUpdate := diff.fullUpdate
    activeRows := t.activeRows
    width := t.width
    height := t.height
    cursorCol := t.cursor.col
    cursorRow := t.cursor.row
    promptOffset := t.reporter.leadLength
    rows := diff.rows
    scrollback := diff.scrollback }

/-- Bring the newest prompt to the top before an update, on the main screen. -/
def tidy (t : Terminal) : Terminal :=
  if t.altMode then t else t.scrollToPrompt

/-- Tell the viewer how the screen differs from what it was told last. -/
def report (t : Terminal) : Terminal :=
  let (diff, reporter) := t.reporter.update t.view
  { t with
    needsUpdating := false
    reporter
    pendingReconnect := none
    events := t.events ++ [.rowUpdate (t.pendingReconnect.getD "") (t.rowUpdate diff)] }

/-- **Tell the viewer what has changed** since the last update. On the main screen the rows above
the newest prompt go into the scrollback first. -/
def update (t : Terminal) : Terminal :=
  t.tidy.report

/-! ### The end of a directive -/

/-- Mark the row of the cursor as a prompt in a directory, if it is the last active one. -/
def expectPrompt (t : Terminal) (directory : String) : Terminal :=
  if t.activeRows = 0 ∨ t.cursor.row + 1 = t.activeRows then
    { t with main := t.main.setMark t.cursor.row (some (.prompt directory)) }
  else t

/-- **What a complete directive does.** -/
def finish (t : Terminal) (files : FileSystem) (buffer : DirectiveBuffer) :
    Terminal × FileSystem :=
  let t := { t with directive := none }
  match buffer.code with
  | .prompt =>
    let directory := Utf8.lossyString buffer.data.toList
    (if directory.isEmpty then t else t.expectPrompt directory, files)
  | .payload =>
    if buffer.overflowed then
      let event := Directive.overflowOutput buffer.validated t.maxDirectiveBytes
      (t.update.tell (.directive event), files)
    else if buffer.data.isEmpty then (t, files)
    else
      let payload := Utf8.lossy buffer.data.toList
      let (event, files) :=
        Directive.interpret files payload buffer.validated t.maxFileBytes t.extractor
      (t.update.tell (.directive event), files)

/-! ### Writing -/

/-- A byte for the parser. -/
def parse (t : Terminal) (byte : UInt8) : Terminal :=
  let (action?, parser) := t.parser.advance byte
  let t := { t with parser }
  match action? with
  | some action => t.perform action
  | none => t

/-- Collect bytes for the open directive `buffer`. -/
def collect (t : Terminal) (buffer : DirectiveBuffer) (bytes : Bytes) : Terminal :=
  { t with directive := some (buffer.extend bytes) }

/-- Interpret output, the flag that an update is due being left alone. -/
def interpret (t : Terminal) (files : FileSystem) (bytes : Bytes) : Terminal × FileSystem :=
  match bytes with
  | [] => (t, files)
  | byte :: rest =>
    match t.directive with
    | none => (t.parse byte).interpret files rest
    | some buffer =>
      let payload := (byte :: rest).takeWhile (· ≠ Parser.esc)
      -- no escape up to the end, so the directive goes on with the next piece
      if payload.length = rest.length + 1 then (t.collect buffer payload, files)
      else
        let (t, files) := t.finish files (buffer.extend payload)
        (t.parse Parser.esc).interpret files (rest.drop payload.length)
termination_by bytes.length
decreasing_by
  · simp
  · simp only [List.length_drop, List.length_cons]
    omega

/-- **Interpret output.** Unfinished sequences, characters and directives go on with the next
piece. -/
def write (t : Terminal) (files : FileSystem) (bytes : Bytes) : Terminal × FileSystem :=
  if bytes.isEmpty then (t, files) else { t with needsUpdating := true }.interpret files bytes

end GlassTty.Terminal
