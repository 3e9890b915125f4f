import GlassTty.Computer.Evaluation

/-!
# Going on

The processes of a station take turns (`GlassTty.Computer.Station.round`), in the order in which
they were started, until none of them can go on without something from outside
(`GlassTty.Computer.Station.goOn`): what is typed, room for what they write, or time.
`GlassTty.Computer.Station.wakeTime?` is the time that the first of them waits for.
-/

namespace GlassTty.Computer

namespace Station

/-- Write what is pending of a stream. -/
def writeStream (st : Station) (p : Process) (complaint : Bytes) (stream : Stream) :
    Option Station :=
  match p.channel? 1 with
  | none => some (st.finish p.pid 1)
  | some channel =>
    match st.write channel stream.pending with
    | (.left left, st) =>
      if left.length = stream.pending.length then none
      else
        let body := Body.utility complaint (.stream { stream with pending := left })
        some (st.put { p with body })
    | (.broken, st) => some (st.put { p with body := .utility [] (.say 2 complaint (.finish 1)) })
    | (.failed, st) => some (st.finish p.pid 1)

/-- A stream of which nothing more is read. -/
def closeStream (stream : Stream) : Stream :=
  { stream with pending := stream.pending ++ stream.filter.atEnd, finished := true }

/-- Put back a process that runs a stream, unless a signal has ended it. -/
def putStream (st : Station) (p : Process) (complaint : Bytes) (stream : Stream) : Station :=
  if st.isAlive p.pid then st.put { p with body := .utility complaint (.stream stream) } else st

/-- Read a piece of a stream from a channel, which may be the input of the process. -/
def readPiece (st : Station) (p : Process) (complaint : Bytes) (stream : Stream) (channel : Channel)
    (rest : List Source) (isInput : Bool) : Option Station :=
  match st.read channel stream.filter.wanted with
  | (.blocked, _, _) => none
  | (.data bytes, channel, st) =>
    let (pending, filter) := stream.filter.feed bytes
    if isInput then
      let p := { p with channels := p.channels.attach 0 channel }
      some (st.putStream p complaint { stream with pending, filter })
    else
      let sources := Source.channel channel :: rest
      some (st.putStream p complaint { stream with sources, pending, filter })
  | (.ended, _, st) => some (st.putStream p complaint { stream with sources := rest })
  | (.failed, _, st) => some (st.putStream p complaint { stream with sources := rest, status := 1 })

/-- Go on with a stream: read a piece of it, or open the next file. A file that cannot be read is
told about, and the others are read all the same. -/
def readStream (st : Station) (p : Process) (complaint : Bytes) (stream : Stream) :
    Option Station :=
  match stream.sources with
  | [] => some (st.putStream p complaint (closeStream stream))
  | source :: rest =>
    if stream.filter.wanted = 0 then some (st.putStream p complaint (closeStream stream))
    else
      let failed : Stream := { stream with sources := rest, status := 1 }
      match source with
      | .channel channel => st.readPiece p complaint stream channel rest false
      | .input =>
        match p.channel? 0 with
        | some channel => st.readPiece p complaint stream channel rest true
        | none => some (st.putStream p complaint failed)
      | .named file =>
        match st.openInput p.directory file with
        | .ok channel =>
          some (st.putStream p complaint { stream with sources := .channel channel :: rest })
        | .error cause =>
          let body :=
            Body.utility complaint (.say 2 (readFault stream.name file cause) (.stream failed))
          some (st.put { p with body })

/-- One step of a program that is no shell; nothing if it has to wait. -/
def stepUtility (st : Station) (p : Process) (complaint : Bytes) (utility : Utility) :
    Option Station :=
  let goOnWith (st : Station) (utility : Utility) : Option Station :=
    some (st.put { p with body := .utility complaint utility })
  match utility with
  | .finish status => some (st.finish p.pid status)
  | .sleepUntil time => if time ≤ st.now then some (st.finish p.pid 0) else none
  | .say descriptor bytes next =>
    if bytes.isEmpty then goOnWith st next
    else
      match p.channel? descriptor with
      | none => goOnWith st next
      | some channel =>
        match st.write channel bytes with
        | (.left left, st) =>
          if left.length = bytes.length then none else goOnWith st (.say descriptor left next)
        | (.broken, st) =>
          if descriptor = 2 then some (st.finish p.pid 1)
          else goOnWith st (.say 2 complaint (.finish 1))
        | (.failed, st) => some (st.finish p.pid 1)
  | .stream stream =>
    if !stream.pending.isEmpty then st.writeStream p complaint stream
    else if stream.finished then some (st.finish p.pid stream.status)
    else st.readStream p complaint stream

/-- **One step of a process**; nothing if it has to wait or has ended. -/
def step? (st : Station) (pid : Nat) : Option Station :=
  match st.process? pid with
  | none => none
  | some p =>
    match p.body with
    | .ended _ => none
    | .utility complaint utility => st.stepUtility p complaint utility
    | .shell shell => { station := st, process := p, shell : Turn }.step?

/-- Some steps of a process, and whether it could go on at all. -/
def turn (pid : Nat) : Nat → Station → Bool × Station
  | 0, st => (false, st)
  | steps + 1, st =>
    match step? st pid with
    | some st => (true, (turn pid steps st).2)
    | none => (false, st)

/-- How many steps are taken in a turn. -/
def maxSteps : Nat := 200

/-- **A turn of each process**, and whether any could go on. -/
def round (st : Station) : Bool × Station :=
  (st.processes.map (·.pid)).foldl
    (fun (moved, st) pid =>
      let (went, st) := turn pid maxSteps st
      (moved || went, st))
    (false, st)

/-- Go on until no process can; the number bounds the rounds. -/
def goOnFor : Nat → Station → Station
  | 0, st => st
  | fuel + 1, st =>
    match st.round with
    | (true, st) => goOnFor fuel st
    | (false, st) => st

/-- How many rounds are gone at a time. -/
def maxRounds : Nat := 400

/-- **Go on** until no process can. -/
def goOn (st : Station) : Station :=
  goOnFor maxRounds st

/-- What a process waits for, if it is a time. -/
def waitsUntil? (p : Process) : Option Nat :=
  match p.body with
  | .utility _ (.sleepUntil time) => some time
  | _ => none

/-- **The first time** that a process waits for. -/
def wakeTime? (st : Station) : Option Nat :=
  (st.processes.filterMap waitsUntil?).min?

end Station

end GlassTty.Computer
