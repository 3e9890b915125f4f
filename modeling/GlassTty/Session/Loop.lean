import GlassTty.Session.Multiplexer

/-!
# The loop

One loop drives all sessions. In each pass it waits until some of them have output, reads each of
those once (`GlassTty.Multiplexer.readSession`), tells the owner what has changed
(`GlassTty.Multiplexer.flush`) and removes the sessions that are to end
(`GlassTty.Multiplexer.sweep`). When no sessions are opened any more it removes all of them and
stops.

Requests of the owner may come between any two steps of a pass, also between the look at the clock
and what is done with its time, so the loop is a machine of its own (`GlassTty.LoopPhase`,
`GlassTty.Multiplexer.loopStep`); `GlassTty.Multiplexer.pass` is a pass without interruption.
-/

namespace GlassTty

/-- Where the loop is. -/
inductive LoopPhase where
  /-- About to wait for output. -/
  | waiting
  /-- About to read the sessions with these names. -/
  | reading (names : List String)
  /-- About to end the pass, the clock having told the time. -/
  | finishing (now : Nat)
  | stopped
  deriving DecidableEq, Repr, Inhabited

/-- The loop: where it is, and when it swept last. -/
structure Loop where
  phase : LoopPhase := .waiting
  lastSweep : Nat := 0
  deriving DecidableEq, Repr, Inhabited

namespace Multiplexer

variable {σ : Type} [SessionHost σ]

open SessionHost

open SessionConfig (millisecond second)

/-- The nanoseconds between two sweeps that nothing asks for. -/
def sweepInterval : Nat := second

/-- How long output of children is waited for: a number of milliseconds that is a word. -/
def pollTimeout (interval : Nat) : Nat :=
  min (interval / millisecond) 0xFFFF * millisecond

/-! ### Reading -/

/-- Show output of the session `s`, and type for its child what the terminal answers. -/
def showOutput (m : Multiplexer σ) (name : String) (s : Session) (bytes : Bytes) : Multiplexer σ :=
  let (now, host) := clock m.host
  let (terminal, files) := s.terminal.write (files host) bytes
  let s := { s with terminal, outputTime := now }
  let m := { m with host := withFiles host files, registry := m.registry.put name s }.forward name
  match m.registry.session? name with
  | some s =>
    let (replies, terminal) := s.terminal.takeReplies
    let s := { s with terminal }
    (m.mapRegistry (·.put name s)).type name s replies
  | none => m

/-- Tell the owner the last state of the session `s`, whose output has ended. -/
def finishOutput (m : Multiplexer σ) (name : String) (s : Session) : Multiplexer σ :=
  let (now, host) := clock m.host
  let s := { s with terminal := s.terminal.update, updateTime := some now }
  let m := { m with host, registry := m.registry.put name s }.forward name
  m.kill name

/-- **Read a session once**, if it is still live. -/
def readSession (m : Multiplexer σ) (name : String) : Multiplexer σ :=
  match m.registry.session? name with
  | some s =>
    let (outcome, host) := read m.host s.child
    let m := { m with host }
    match outcome with
    | .data bytes => m.showOutput name s bytes
    | .wouldBlock => m
    | .ended => m.finishOutput name s
    | .failed => m.kill name
  | none => m

/-! ### Updates -/

/-- Tell the owner of one session what has changed, if it is time. -/
def flushSession (now : Nat) (m : Multiplexer σ) (name : String) : Multiplexer σ :=
  let update (s : Session) : Session :=
    if s.updateDue now m.config.updateInterval then
      { s with terminal := s.terminal.update, updateTime := some now }
    else s
  (m.mapRegistry (·.modify name update)).forward name

/-- **Tell the owner what has changed** in the sessions that it is time for. -/
def flush (m : Multiplexer σ) (now : Nat) : Multiplexer σ :=
  m.names.foldl (flushSession now) m

/-! ### Ends -/

/-- **Remove a session**: the owner is told what is left to tell, the child is asked to end and its
terminal is closed. -/
def reap (m : Multiplexer σ) (name : String) : Multiplexer σ :=
  match m.registry.session? name with
  | some s =>
    let m := m.forward name
    let host := close (terminate m.host s.child) s.child
    let (gone, host) := collect host s.child
    { m with host, registry := (m.registry.remove name).bury s.child gone }.tell (.closed name)
  | none => m

/-- Remove the sessions that are to end. -/
def sweep (m : Multiplexer σ) (now : Nat) : Multiplexer σ :=
  (m.registry.expired now m.config.idleTimeout).foldl reap m

/-- Remove all sessions. -/
def reapAll (m : Multiplexer σ) : Multiplexer σ :=
  m.names.foldl reap m

/-- Collect a child that has ended, or leave it among those to be collected. -/
def collectZombie (m : Multiplexer σ) (child : ChildId) : Multiplexer σ :=
  let (gone, host) := collect m.host child
  { m with host, registry := m.registry.bury child gone }

/-- Collect the children that have ended. -/
def collectZombies (m : Multiplexer σ) : Multiplexer σ :=
  m.registry.zombies.foldl collectZombie (m.mapRegistry fun r => { r with zombies := [] })

/-! ### The loop -/

/-- The names of the sessions with output, after a wait for some. With no session at all the whole
interval passes. -/
def pollSessions (m : Multiplexer σ) : List String × Multiplexer σ :=
  let children := m.registry.sessions.map fun (_, s) => s.child
  let interval := m.config.pollInterval
  let (ready, host) :=
    poll m.host children (if children.isEmpty then interval else pollTimeout interval)
  ((m.registry.sessions.filter fun (_, s) => ready.contains s.child).map (·.1), { m with host })

/-- The end of a pass: updates, then a sweep if it is asked for or due, then the children that have
ended. -/
def finishPass (m : Multiplexer σ) (now lastSweep : Nat) : Nat × Multiplexer σ :=
  let m := m.flush now
  if m.registry.sweepDue || sweepInterval ≤ now - lastSweep then
    let m := m.mapRegistry fun r => { r with sweepDue := false }
    (now, (m.sweep now).collectZombies)
  else (lastSweep, m.collectZombies)

/-- **One step of the loop.** -/
def loopStep (loop : Loop) (m : Multiplexer σ) : Loop × Multiplexer σ :=
  match loop.phase with
  | .stopped => (loop, m)
  | .waiting =>
    if m.registry.alive then
      let (names, m) := m.pollSessions
      ({ loop with phase := .reading names }, m)
    else ({ loop with phase := .stopped }, m.reapAll.collectZombies)
  | .reading (name :: rest) => ({ loop with phase := .reading rest }, m.readSession name)
  | .reading [] =>
    let (now, host) := clock m.host
    ({ loop with phase := .finishing now }, { m with host })
  | .finishing now =>
    let (lastSweep, m) := m.finishPass now loop.lastSweep
    ({ phase := .waiting, lastSweep }, m)

/-- **A pass without interruption.** -/
def pass (loop : Loop) (m : Multiplexer σ) : Loop × Multiplexer σ :=
  if m.registry.alive then
    let (names, m) := m.pollSessions
    let m := names.foldl readSession m
    let (now, host) := clock m.host
    let (lastSweep, m) := { m with host }.finishPass now loop.lastSweep
    ({ phase := .waiting, lastSweep }, m)
  else ({ loop with phase := .stopped }, m.reapAll.collectZombies)

end Multiplexer

end GlassTty
