import GlassTty.Text.Utf8
import GlassTty.Tty.Settings

/-!
# The line between a terminal and its programs

A pseudo-terminal has two ends. What is typed at one end is edited, line by line, before programs
read it at the other (`GlassTty.Line.receive`, `GlassTty.Line.read?`); what programs write comes out
with a carriage return before each line feed (`GlassTty.Line.write`). What is typed is shown on the
way, as if it had been written.

| typed | what happens |
|---|---|
| DEL, `^U`, `^W` | the last character, the whole line or the last word is erased |
| `^D` | what there is of the line may be read; an empty line is the end of input |
| `^V` | the next character is taken as it is |
| `^R` | the line is shown again |
| `^S`, `^Q` | output stops and starts |
| `^C`, `^\`, `^Z` | a signal is sent and all input is dropped |

Each of them is subject to the settings of the line (`GlassTty.LineFlag`).
-/

namespace GlassTty

/-- A signal. -/
inductive Signal where
  | hangup
  | interrupt
  | quit
  | kill
  | user1
  | user2
  | pipe
  | alarm
  | terminate
  | child
  | continue
  | stop
  | windowChange
  deriving DecidableEq, Repr, Inhabited

/-- The state of a line. -/
structure Line where
  settings : LineSettings := .initial
  height : Nat
  width : Nat
  /-- What may be read: bytes, and marks for the end of input. -/
  ready : List (Option UInt8) := []
  /-- The line being edited. -/
  editing : Bytes := []
  /-- The next byte is taken as it is. -/
  literal : Bool := false
  /-- Output is stopped. -/
  stopped : Bool := false
  /-- The column the output is in. -/
  column : Nat := 0
  /-- The column where the line being edited begins. -/
  startColumn : Nat := 0
  /-- What is to be shown once output goes on. -/
  held : Bytes := []
  /-- What has come out and was not read yet. -/
  output : Bytes := []
  /-- What was typed and is not looked at yet, for lack of room. -/
  backlog : Bytes := []
  deriving Repr, Inhabited

namespace Line

/-! ### The controls -/

/-- The byte of a control that is named by a letter. -/
def control (letter : Char) : UInt8 :=
  UInt8.ofNat (letter.toNat - 0x40)

/-- The byte that erases a character. -/
def eraseByte : UInt8 := 0x7F

/-- A line feed. -/
def newline : UInt8 := 0x0A

/-- A carriage return. -/
def carriageReturn : UInt8 := 0x0D

/-- Whether a byte is a control. -/
def isControl (byte : UInt8) : Bool :=
  byte < 0x20 || byte = 0x7F

/-- Whether a byte counts as part of a word: ASCII letters, digits and the underscore do, and the
bytes that are letters in an eight-bit alphabet. -/
def isWordByte (byte : UInt8) : Bool :=
  let c := Char.ofNat byte.toNat
  c.isAlphanum || c = '_' || (0xC0 ≤ byte && byte ≠ 0xD7 && byte ≠ 0xF7)

/-- Whether a flag is on. -/
def has (l : Line) (flag : LineFlag) : Bool :=
  l.settings.has flag

/-! ### Output -/

/-- Bytes that come out, or are held back while output is stopped. -/
def comeOut (l : Line) (bytes : Bytes) : Line :=
  if l.stopped then { l with held := l.held ++ bytes } else { l with output := l.output ++ bytes }

/-- The column after a byte. -/
def nextColumn (column : Nat) (byte : UInt8) : Nat :=
  if byte = 0x0D then 0
  else if byte = 0x09 then (column / 8 + 1) * 8
  else if byte = 0x08 then column - 1
  else if isControl byte then column
  else column + 1

/-- **One byte of output**, changed on its way. -/
def put (l : Line) (byte : UInt8) : Line :=
  if !l.has .postProcess then l.comeOut [byte]
  else if byte = newline then
    if l.has .returnBeforeNewline then
      { l with column := 0, startColumn := 0 }.comeOut [carriageReturn, newline]
    else { l with startColumn := l.column }.comeOut [newline]
  else if byte = carriageReturn ∧ l.has .dropIdleReturn ∧ l.column = 0 then l
  else if byte = carriageReturn ∧ l.has .newlineForReturn then l.comeOut [newline]
  else { l with column := nextColumn l.column byte }.comeOut [byte]

/-- The most output that waits to be read. -/
def maxOutput : Nat := 16384

/-- **Write**, as much as there is room for: what came of it, and the bytes that have to wait. While
output is stopped all have to. -/
def write (l : Line) (bytes : Bytes) : Line × Bytes :=
  if l.stopped then (l, bytes)
  else
    let room := maxOutput - l.output.length
    let written : Line := (bytes.take room).foldl put { l with output := [] }
    ({ written with output := l.output ++ written.output }, bytes.drop room)

/-- Go on with the output. -/
def start (l : Line) : Line :=
  { l with stopped := false, output := l.output ++ l.held, held := [] }

/-! ### Showing what is typed -/

/-- Show a byte as it is. -/
def showRaw (l : Line) (byte : UInt8) : Line :=
  l.put byte

/-- Show a byte, a control as a caret and a letter. -/
def showByte (l : Line) (byte : UInt8) : Line :=
  if l.has .echoControls ∧ isControl byte ∧ byte ≠ 0x09 then
    { l with column := l.column + 2 }.comeOut [0x5E, byte ^^^ 0x40]
  else l.put byte

/-- Take one character off the screen. -/
def showErasure (l : Line) : Line :=
  [0x08, 0x20, 0x08].foldl put l

/-- Go back over a tab: to the column behind the bytes before it. -/
def showTabErasure (l : Line) (before : Bytes) : Line :=
  let sinceTab := (before.reverse.takeWhile (· ≠ 0x09)).reverse
  let width := sinceTab.foldl
    (fun n byte => if isControl byte then if l.has .echoControls then n + 2 else n else n + 1) 0
  let column := if before.contains 0x09 then width else l.startColumn + width
  (List.replicate (8 - column % 8) 0x08).foldl put l

/-- Show that the last byte of the line was erased. -/
def showErased (l : Line) (erased : UInt8) : Line :=
  if !l.has .echo then l
  else if erased = 0x09 then l.showTabErasure l.editing
  else if isControl erased then
    if l.has .echoControls then l.showErasure.showErasure else l
  else l.showErasure

/-! ### Editing -/

/-- Erase the last byte of the line. -/
def eraseLast (l : Line) : Line :=
  match l.editing.getLast? with
  | none => l
  | some last => { l with editing := l.editing.dropLast }.showErased last

/-- Erase so many bytes. -/
def eraseMany (l : Line) (count : Nat) : Line :=
  Nat.repeat eraseLast count l

/-- Erase a character; if that is not shown on the screen, the erasing byte itself is. -/
def eraseOne (l : Line) : Line :=
  if l.editing.isEmpty then l
  else if l.has .echo ∧ !l.has .echoErase then
    { l with editing := l.editing.dropLast }.showByte eraseByte
  else l.eraseLast

/-- The number of bytes in the last word, with what follows it. -/
def lastWordLength (editing : Bytes) : Nat :=
  let fromEnd := editing.reverse
  let blanks := fromEnd.takeWhile (!isWordByte ·)
  blanks.length + ((fromEnd.drop blanks.length).takeWhile isWordByte).length

/-- Erase the line. -/
def eraseLine (l : Line) : Line :=
  if l.editing.isEmpty then l
  else if !l.has .echo then { l with editing := [] }
  else if l.has .echoKill ∧ l.has .echoKillErase ∧ l.has .echoErase then
    l.eraseMany l.editing.length
  else
    let l := { l with editing := [] }.showByte (control 'U')
    if l.has .echoKill then l.showRaw newline else l

/-- The most bytes that wait to be read. -/
def maxInput : Nat := 4096

/-- Add a byte to the line being edited, or to what may be read if lines are not edited. A line that
is too long has its last byte replaced. -/
def add (l : Line) (byte : UInt8) : Line :=
  if l.has .canonical then
    let kept :=
      if maxInput ≤ l.ready.length + l.editing.length then l.editing.dropLast else l.editing
    { l with editing := kept ++ [byte] }
  else { l with ready := l.ready ++ [some byte] }

/-- Show a byte and add it. -/
def take (l : Line) (byte : UInt8) : Line :=
  let l := if l.editing.isEmpty then { l with startColumn := l.column } else l
  let l :=
    if !l.has .echo then l else if byte = newline then l.showRaw byte else l.showByte byte
  l.add byte

/-- Let the line be read, and the marks behind it. -/
def release (l : Line) (marks : List (Option UInt8)) : Line :=
  { l with ready := l.ready ++ l.editing.map some ++ marks, editing := [] }

/-- Show the line again. -/
def reprint (l : Line) : Line :=
  l.editing.foldl showByte ((l.showByte (control 'R')).showRaw newline)

/-! ### What is typed -/

/-- Send a signal: all input is dropped, and so is what was to be shown of it. -/
def sendSignal (l : Line) (byte : UInt8) : Line :=
  let l := { l with ready := [], editing := [], literal := false, held := [], output := [] }
  let l := if l.has .flowControl then l.start else l
  if l.has .echo then l.showByte byte else l

/-- The signal of a byte. -/
def signalOf? (byte : UInt8) : Option Signal :=
  if byte = control 'C' then some .interrupt
  else if byte = control '\\' then some .quit
  else if byte = control 'Z' then some .stop
  else none

/-- The byte that a typed byte means. -/
def meaning (l : Line) (byte : UInt8) : Option UInt8 :=
  if byte = carriageReturn then
    if l.has .dropReturn then none
    else some (if l.has .returnIsNewline then newline else byte)
  else if byte = newline ∧ l.has .newlineIsReturn then some carriageReturn
  else some byte

/-- One byte of a line that is edited. -/
def edit (l : Line) (byte : UInt8) : Line :=
  if byte = eraseByte then l.eraseOne
  else if byte = control 'U' then l.eraseLine
  else if byte = control 'W' ∧ l.has .extended then l.eraseMany (lastWordLength l.editing)
  else if byte = control 'V' ∧ l.has .extended then
    let l := { l with literal := true }
    if l.has .echo ∧ l.has .echoControls then (l.showRaw 0x5E).showRaw 0x08 else l
  else if byte = control 'R' ∧ l.has .echo ∧ l.has .extended then l.reprint
  else if byte = newline then
    let l := if l.has .echo ∨ l.has .echoNewline then l.showRaw newline else l
    (l.add newline).release []
  else if byte = control 'D' then l.release [none]
  else l.take byte

/-- **One typed byte**: the line after it, and the signal it sends. The output of the line is what
was shown of the bytes typed along with this one. -/
def receive (l : Line) (byte : UInt8) : Line × Option Signal :=
  if l.literal then ({ l with literal := false }.take byte, none)
  else if l.has .flowControl ∧ byte = control 'Q' then (l.start, none)
  else if l.has .flowControl ∧ byte = control 'S' then ({ l with stopped := true }, none)
  else
    match (if l.has .signals then signalOf? byte else none) with
    | some signal => (l.sendSignal byte, some signal)
    | none =>
      match l.meaning byte with
      | none => (l, none)
      | some byte => (if l.has .canonical then l.edit byte else l.take byte, none)

/-- Whether there is room for a typed byte. A line being edited always has some. -/
def hasRoom (l : Line) : Bool :=
  l.ready.length + l.editing.length + 1 < maxInput || (l.has .canonical && l.ready.isEmpty)

/-- Look at typed bytes one after the other, as long as there is room; the signals they send are
told in order. -/
def receiveEach : Line → Bytes → Line × List Signal
  | l, [] => ({ l with backlog := [] }, [])
  | l, byte :: rest =>
    if l.hasRoom then
      let (l, signal) := l.receive byte
      let (l, signals) := receiveEach l rest
      (l, signal.toList ++ signals)
    else ({ l with backlog := byte :: rest }, [])

/-- **Look at bytes that were typed together.** What is shown of them comes out behind what has come
out before. -/
def receiveAll (l : Line) (bytes : Bytes) : Line × List Signal :=
  let (received, signals) := receiveEach { l with output := [] } bytes
  ({ received with output := l.output ++ received.output }, signals)

/-- The most typed bytes that wait to be looked at. -/
def maxBacklog : Nat := 8192

/-- **Type bytes**, as many as there is room for: how many were taken, and the signals they send. -/
def type (l : Line) (bytes : Bytes) : Nat × Line × List Signal :=
  let taken := bytes.take (maxBacklog - l.backlog.length)
  let (l, signals) := l.receiveAll (l.backlog ++ taken)
  (taken.length, l, signals)

/-! ### Reading -/

/-- The bytes of what may be read up to the end of a line, at most `count`, and what is left. An end
mark is passed over with the line it ends. -/
def takeLine : Nat → List (Option UInt8) → Bytes × List (Option UInt8)
  | 0, rest => ([], rest)
  | _ + 1, [] => ([], [])
  | _ + 1, none :: rest => ([], rest)
  | count + 1, some byte :: rest =>
    if byte = newline then ([byte], rest)
    else
      let (bytes, rest) := takeLine count rest
      (byte :: bytes, rest)

/-- **Read** at most `count` bytes: of one line if lines are edited, and otherwise whatever there
is. There may be nothing to read yet; no bytes at all are the end of input. -/
def read? (l : Line) (count : Nat) : Option (Bytes × Line) :=
  if l.has .canonical then
    if l.ready.isEmpty then none
    else
      let (bytes, ready) := takeLine count l.ready
      some (bytes, { l with ready })
  else
    let waiting := l.ready.filterMap id ++ l.editing
    if waiting.isEmpty then none
    else some (waiting.take count, { l with ready := (waiting.drop count).map some, editing := [] })

/-- Change the settings. What was being edited may be read. -/
def configure (l : Line) (settings : LineSettings) : Line :=
  if settings.has .canonical = l.has .canonical then { l with settings }
  else { l with settings }.release []

end Line

end GlassTty
