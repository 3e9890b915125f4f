import GlassTty.Computer.Schedule
import GlassTty.Session.Host

/-!
# Computers

A computer runs children, each on a line of its own (`GlassTty.Computer`), and so is a host for
sessions (`GlassTty.SessionHost`). Its time goes on only while someone waits: children do all that
they can do at once, and a wait ends when one of them has written something or waits for a time no
longer (`GlassTty.Computer.poll`).

Since nothing depends on chance, what sessions on such a computer tell is a function of what is
asked of them.
-/

namespace GlassTty

open Computer

/-- A computer. -/
structure Computer where
  files : FileSystem
  /-- The variables of the environment. -/
  bindings : List (String × String) := []
  /-- The time in nanoseconds. -/
  now : Nat := 0
  /-- How many secrets were made up. -/
  secretCount : Nat := 0
  /-- The children and their lines. -/
  stations : List (ChildId × Station) := []

namespace Computer

/-! ### Stations -/

/-- The line of a child and the processes on it. -/
def station? (c : Computer) (child : ChildId) : Option Station :=
  (c.stations.lookup child).map fun st => { st with files := c.files, now := c.now }

/-- Put back a station. -/
def put (c : Computer) (child : ChildId) (st : Station) : Computer :=
  { c with
    files := st.files
    stations := c.stations.map fun (other, old) =>
      (other, if other = child then st else old) }

/-- Change a station, if there is one. -/
def modify (c : Computer) (child : ChildId) (change : Station → Station) : Computer :=
  match c.station? child with
  | some st => c.put child (change st)
  | none => c

/-- Let all children do what they can. -/
def goOn (c : Computer) : Computer :=
  (c.stations.map (·.1)).foldl (fun c child => c.modify child Station.goOn) c

/-- Whether no program is on the line any more. -/
def isFree (st : Station) : Bool :=
  st.hungUp || !st.hasChannel .line

/-- Whether reading the output of a child does not have to wait. -/
def isReady (c : Computer) (child : ChildId) : Bool :=
  match c.station? child with
  | some st => !st.line.output.isEmpty || isFree st
  | none => true

/-! ### Time -/

/-- The first time that a process waits for. -/
def wakeTime? (c : Computer) : Option Nat :=
  (c.stations.filterMap fun (_, st) => st.wakeTime?).min?

/-- How often processes are woken in one wait. -/
def maxWakes : Nat := 1000

/-- Wait up to a time, or until one of some children is ready. The number bounds the steps. -/
def waitUntil (children : List ChildId) (time : Nat) : Nat → Computer → Computer
  | 0, c => { c with now := max c.now time }
  | fuel + 1, c =>
    let c := c.goOn
    if children.any c.isReady then c
    else
      match c.wakeTime? with
      | some wake =>
        if wake ≤ time then waitUntil children time fuel { c with now := max c.now wake }
        else { c with now := max c.now time }
      | none => { c with now := max c.now time }

/-- **Wait for output** of some children, at most so many nanoseconds, and tell which are ready. -/
def poll (c : Computer) (children : List ChildId) (nanos : Nat) : List ChildId × Computer :=
  let c := waitUntil children (c.now + nanos) maxWakes c
  (children.filter c.isReady, c)

/-! ### Children -/

/-- The leader of a new station, before it runs anything. -/
def newLeader (directory : Place) : Process where
  pid := Station.leader
  parent := 0
  directory := directory
  channels := Channels.onLine
  body := .utility [] (.finish 127)

/-- The directory in which a child begins: the one asked for, if it is there. -/
def beginning (files : FileSystem) (directory : Option String) : Place :=
  match directory.map fun text => files.find files.workingDirectory text.toList with
  | some (.ok (place, .directory)) => place
  | _ => files.workingDirectory

/-- **Start a child.** A program that cannot be run ends at once. -/
def spawn (c : Computer) (child : ChildId) (request : SpawnRequest) : Computer :=
  let process := newLeader (beginning c.files request.directory)
  let empty : Station :=
    { files := c.files
      now := c.now
      line := { height := request.height, width := request.width } }
  let arguments := request.arguments.map String.toList
  let environment := request.environment.map fun (name, value) => (name.toList, value.toList)
  let path := arguments.head?.getD []
  let (body, st) :=
    match image c.files process.directory maxReaders path arguments with
    | .ok (program, arguments) =>
      begin maxBegun empty process program arguments environment
    | .error _ => (process.body, empty)
  let st := st.add { process with body }
  { c with
    files := st.files
    stations := c.stations.filter (·.1 ≠ child) ++ [(child, st)] }

/-- The most bytes that are read at a time. -/
def maxRead : Nat := 65536

/-- Read the output of a child. -/
def read (c : Computer) (child : ChildId) : ReadOutcome × Computer :=
  match c.station? child with
  | none => (.ended, c)
  | some st =>
    let output := st.line.output
    if !output.isEmpty then
      let line := { st.line with output := output.drop maxRead }
      (.data (output.take maxRead), c.put child { st with line })
    else if isFree st then (.ended, c)
    else (.wouldBlock, c)

/-- The time between two attempts to write. -/
def retryInterval : Nat := 10000000

/-- One attempt to type bytes for a child. -/
def typeOnce (c : Computer) (child : ChildId) (bytes : Bytes) : WriteOutcome × Computer :=
  match c.station? child with
  | none => (.failed .inputOutput, c)
  | some st =>
    let (taken, line, signals) := st.line.type bytes
    let c := (c.put child ({ st with line }.signalEach signals)).goOn
    if taken = 0 then
      (.full none, (waitUntil [] (c.now + retryInterval) maxWakes c).goOn)
    else (.took taken, c)

/-- Type what is left of a text. The number bounds the attempts. -/
def typeRest (child : ChildId) : Nat → Computer → Transfer → Option WriteError × Computer
  | 0, c, _ => (some .stayedFull, c)
  | fuel + 1, c, transfer =>
    if transfer.isDone then (none, c)
    else
      let (outcome, c) := c.typeOnce child transfer.rest
      match transfer.step outcome with
      | .ok transfer => typeRest child fuel c transfer
      | .error error => (some error.kind, c)

/-- **Type bytes for a child**, waiting for room if need be. -/
def type (c : Computer) (child : ChildId) (bytes : Bytes) : Option WriteError × Computer :=
  typeRest child ((bytes.length + 1) * (Transfer.maxRetries + 2)) c (.start bytes)

/-- Change the size of a child's terminal; programs are told if it is another one. -/
def resize (c : Computer) (child : ChildId) (height width : Nat) : Computer :=
  c.modify child fun st =>
    if st.line.height = height ∧ st.line.width = width then st
    else { st with line := { st.line with height, width } }.signalEach [.windowChange]

/-- The directory a child is in, if it has not ended. -/
def directory? (c : Computer) (child : ChildId) : Option String :=
  match (c.station? child).bind (·.process? Station.leader) with
  | some p => if p.hasEnded then none else some (String.ofList (FileSystem.placeText p.directory))
  | none => none

/-- Ask a child to end. -/
def terminate (c : Computer) (child : ChildId) : Computer :=
  c.modify child (·.signal .terminate Station.leader)

/-- Close the terminal of a child. -/
def close (c : Computer) (child : ChildId) : Computer :=
  c.modify child Station.close

/-- Whether a child has ended. -/
def hasEnded (c : Computer) (child : ChildId) : Bool :=
  (c.station? child).all fun st => !st.isAlive Station.leader

/-- Make up a secret: sixteen digits that were not given before. -/
def secret (c : Computer) : String × Computer :=
  (toString (2718281828459045 + c.secretCount), { c with secretCount := c.secretCount + 1 })

end Computer

/-- Sessions run on a computer. -/
instance : SessionHost Computer where
  clock c := (c.now, { c with now := c.now + 1 })
  secret := Computer.secret
  setting? c name := c.bindings.lookup name
  files := Computer.files
  withFiles c files := { c with files }
  spawn c child request := (none, c.spawn child request)
  poll := Computer.poll
  read := Computer.read
  write := Computer.type
  resize c child height width := (true, c.resize child height width)
  directory? := Computer.directory?
  terminate := Computer.terminate
  close := Computer.close
  collect c child :=
    let c := c.goOn
    (c.hasEnded child, c)

end GlassTty
