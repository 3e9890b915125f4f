import GlassTty.Computer.Process

/-!
# Stations

A station is a line and the processes on it (`GlassTty.Computer.Station`). The first of them leads
the others: when it ends they are told to end too. This file has what processes ask of their
station: to send signals, to read and to write (`GlassTty.Computer.Station.read`,
`GlassTty.Computer.Station.write`) and to open files.
-/

namespace GlassTty.Computer

/-- A line and the processes on it. -/
structure Station where
  files : FileSystem
  /-- The time in nanoseconds. -/
  now : Nat
  line : Line
  /-- The line is hung up: programs read nothing from it and write nothing to it any more. -/
  hungUp : Bool := false
  processes : List Process := []
  /-- What was written into each pipe and not read yet. -/
  pipes : List (Nat × Bytes) := []
  /-- The number of the next process or pipe. -/
  next : Nat := 2

/-- The place of the file that stands for the line. -/
def terminalPlace : Place := ["dev".toList, "tty".toList]

namespace Station

/-! ### Processes -/

/-- The number of the process that leads the others. -/
def leader : Nat := 1

/-- The process with a number. -/
def process? (st : Station) (pid : Nat) : Option Process :=
  st.processes.find? (·.pid = pid)

/-- Put a process in place of the one with its number. -/
def put (st : Station) (p : Process) : Station :=
  { st with processes := st.processes.map fun q => if q.pid = p.pid then p else q }

/-- Add a process. -/
def add (st : Station) (p : Process) : Station :=
  { st with processes := st.processes ++ [p] }

/-- Whether a process is there that has not ended. -/
def isAlive (st : Station) (pid : Nat) : Bool :=
  (st.process? pid).any (!·.hasEnded)

/-! ### Signals -/

/-- The outcome of a process that a signal ends, none for a signal that ends none. -/
def fatal? (signal : Signal) : Option Nat :=
  match signal with
  | .hangup => some 129
  | .interrupt => some 130
  | .quit => some 131
  | .kill => some 137
  | .user1 => some 138
  | .user2 => some 140
  | .pipe => some 141
  | .alarm => some 142
  | .terminate => some 143
  | .child => none
  | .continue => none
  | .stop => none
  | .windowChange => none

/-- End a process with an outcome; nobody waits for those it has started. -/
def finishOne (st : Station) (pid status : Nat) : Station :=
  let processes := st.processes.filter fun p => !(p.parent = pid && p.hasEnded)
  let orphaned := processes.map fun p =>
    if p.pid = pid then { p with body := .ended status, channels := [] } else p
  let waitedFor (p : Process) : Bool :=
    p.pid = leader || !p.hasEnded || processes.any fun q => q.pid = p.parent && !q.hasEnded
  { st with processes := orphaned.filter waitedFor }

/-- A process after a signal, and whether it ends. -/
def react (signal : Signal) (p : Process) : Process × Option Nat :=
  if p.hasEnded ∨ (signal ≠ .kill ∧ p.ignored.contains signal) then (p, none)
  else
    match p.body with
    | .shell s =>
      match s.traps.lookup (some signal) with
      | some _ =>
        if signal = .kill then (p, fatal? signal)
        else ({ p with body := .shell { s with arrived := s.arrived ++ [signal] } }, none)
      | none =>
        if s.interactive ∧ signal = .interrupt then
          ({ p with body := .shell { s with arrived := s.arrived ++ [signal] } }, none)
        else if s.interactive ∧ (signal = .terminate ∨ signal = .quit) then (p, none)
        else (p, fatal? signal)
    | _ => (p, fatal? signal)

/-- Send a signal to one process. -/
def signalOne (st : Station) (signal : Signal) (pid : Nat) : Station :=
  match st.process? pid with
  | some p =>
    match react signal p with
    | (p, none) => st.put p
    | (_, some status) => st.finishOne pid status
  | none => st

/-- Send a signal to all processes but one. -/
def signalOthers (st : Station) (signal : Signal) (pid : Nat) : Station :=
  (st.processes.filter (·.pid ≠ pid)).foldl (fun st p => st.signalOne signal p.pid) st

/-- Send a signal to all processes. -/
def signalAll (st : Station) (signal : Signal) : Station :=
  st.processes.foldl (fun st p => st.signalOne signal p.pid) st

/-- Tell the others to end, if a change has ended the process that leads them. -/
def tellOthers (before after : Station) : Station :=
  if before.isAlive leader ∧ !after.isAlive leader then after.signalOthers .hangup leader else after

/-- **End a process.** -/
def finish (st : Station) (pid status : Nat) : Station :=
  st.tellOthers (st.finishOne pid status)

/-- **Send a signal to a process.** -/
def signal (st : Station) (signal : Signal) (pid : Nat) : Station :=
  st.tellOthers (st.signalOne signal pid)

/-- **Send a signal to all processes.** -/
def signalGroup (st : Station) (signal : Signal) : Station :=
  st.tellOthers (st.signalAll signal)

/-- Send the signals of the line, one after the other. Once there is no leader the line is nobody's,
and none of them comes. -/
def signalEach (st : Station) (signals : List Signal) : Station :=
  signals.foldl (fun st signal => if st.isAlive leader then st.signalGroup signal else st) st

/-- Close the line at the other end: all processes are told. -/
def close (st : Station) : Station :=
  { st with hungUp := true }.signalAll .hangup

/-! ### Reading and writing -/

/-- What came of an attempt to read. -/
inductive Reading where
  | data (bytes : Bytes)
  | ended
  | blocked
  | failed
  deriving DecidableEq, Repr, Inhabited

/-- What came of an attempt to write. -/
inductive Writing where
  /-- The bytes that have to wait. -/
  | left (bytes : Bytes)
  /-- Nobody reads the other end. -/
  | broken
  | failed
  deriving DecidableEq, Repr, Inhabited

/-- Whether some process has a channel. -/
def hasChannel (st : Station) (channel : Channel) : Bool :=
  st.processes.any fun p => p.channels.any (·.2 = channel)

/-- The most bytes that wait in a pipe. -/
def maxPipe : Nat := 65536

/-- Change what is in a pipe. -/
def putPipe (st : Station) (pipe : Nat) (bytes : Bytes) : Station :=
  { st with pipes := (pipe, bytes) :: st.pipes.filter (·.1 ≠ pipe) }

/-- **Read** at most `count` bytes from a channel: what came of it, and the channel after it. -/
def read (st : Station) (channel : Channel) (count : Nat) : Reading × Channel × Station :=
  match channel with
  | .line =>
    if st.hungUp then (.ended, channel, st)
    else
      match st.line.read? count with
      | none => (.blocked, channel, st)
      | some (bytes, line) =>
        let (line, signals) := line.receiveAll line.backlog
        let st := { st with line }.signalEach signals
        (if bytes.isEmpty then .ended else .data bytes, channel, st)
  | .pipeEnd pipe =>
    let waiting := (st.pipes.lookup pipe).getD []
    if !waiting.isEmpty then
      (.data (waiting.take count), channel, st.putPipe pipe (waiting.drop count))
    else if st.hasChannel (.pipeStart pipe) then (.blocked, channel, st)
    else (.ended, channel, st)
  | .content rest =>
    if rest.isEmpty then (.ended, channel, st)
    else (.data (rest.take count), .content (rest.drop count), st)
  | .sink => (.ended, channel, st)
  | .zeros => (.data (List.replicate count 0), channel, st)
  | .pipeStart _ => (.failed, channel, st)
  | .file _ => (.failed, channel, st)

/-- **Write** bytes to a channel. -/
def write (st : Station) (channel : Channel) (bytes : Bytes) : Writing × Station :=
  match channel with
  | .line =>
    if st.hungUp then (.failed, st)
    else
      let (line, left) := st.line.write bytes
      (.left left, { st with line })
  | .pipeStart pipe =>
    if st.hasChannel (.pipeEnd pipe) then
      let waiting := (st.pipes.lookup pipe).getD []
      let room := maxPipe - waiting.length
      (.left (bytes.drop room), st.putPipe pipe (waiting ++ bytes.take room))
    else (.broken, st)
  | .file place =>
    match st.files.nodeAt? place with
    | some (.file data executable) =>
      (.left [], { st with files := st.files.put place (.file (data ++ bytes) executable) })
    | _ => (.left [], st)
  | .sink => (.left [], st)
  | .zeros => (.left [], st)
  | .pipeEnd _ => (.failed, st)
  | .content _ => (.failed, st)

/-! ### Files -/

/-- Open a file to be read. -/
def openInput (st : Station) (directory : Place) (name : List Char) : Except FileError Channel := do
  let (place, node) ← st.files.find directory name
  if place = terminalPlace then return .line
  else
    match node with
    | .file data _ => return .content data
    | .sink => return .sink
    | .zeros => return .zeros
    | .program _ => return .content []
    | .directory => throw .isDirectory

/-- Open a file to be written, at its end or anew. -/
def openOutput (st : Station) (directory : Place) (name : List Char) (atEnd : Bool) :
    Except FileError (Channel × Station) := do
  let place ← st.files.target directory name
  if place = terminalPlace then return (.line, st)
  else
    match st.files.nodeAt? place with
    | some .sink => return (.sink, st)
    | some .zeros => return (.sink, st)
    | some (.program _) => return (.sink, st)
    | some .directory => throw .isDirectory
    | some (.file data executable) =>
      let node := Node.file (if atEnd then data else []) executable
      return (.file place, { st with files := st.files.put place node })
    | none => return (.file place, { st with files := st.files.put place (.file [] false) })

end Station

end GlassTty.Computer
