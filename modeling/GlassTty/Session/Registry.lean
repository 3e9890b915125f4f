import GlassTty.Session.Host
import GlassTty.Terminal.Request

/-!
# The registry of sessions

A session is a terminal and the child whose output it shows (`GlassTty.Session`). The registry has
the live sessions in the order of their names, and what is to be known about the others
(`GlassTty.Registry`): how many names were made up, which children have ended but are not collected
yet, and whether sessions are still opened at all.

A session is not removed at once when it is to end. It is condemned
(`GlassTty.Registry.condemn`), and the next sweep removes it together with those that were silent
for too long (`GlassTty.Registry.expired`).
-/

namespace GlassTty

/-- A live session. -/
structure Session where
  terminal : Terminal
  child : ChildId
  /-- When output came last. -/
  outputTime : Nat
  /-- When the viewer was told last what has changed. -/
  updateTime : Option Nat := none
  /-- The next sweep removes the session. -/
  condemned : Bool := false

namespace Session

/-- Whether the viewer is to be told what has changed: something has, and the last time is the given
interval ago. -/
def updateDue (s : Session) (now interval : Nat) : Bool :=
  (s.terminal.needsUpdating || s.updateTime.all (· < s.outputTime)) &&
    s.updateTime.all fun time => interval ≤ now - time

/-- Whether a sweep removes the session: it is condemned, or was silent for longer than the
timeout. -/
def expired (s : Session) (now timeout : Nat) : Bool :=
  s.condemned || timeout < now - s.outputTime

end Session

/-- The sessions and what is to be known about them. -/
structure Registry where
  /-- The live sessions, in the order of their names. -/
  sessions : List (String × Session) := []
  /-- The number in the last name that was made up. -/
  nameCount : Nat := 0
  /-- Sessions are still opened. -/
  alive : Bool := true
  /-- The next pass of the loop sweeps. -/
  sweepDue : Bool := false
  /-- How many children were started. -/
  spawnCount : Nat := 0
  /-- The children of removed sessions that are not collected yet. -/
  zombies : List ChildId := []
  /-- The children of removed sessions that are. -/
  collected : List ChildId := []

namespace Registry

/-! ### Looking -/

/-- The names of the live sessions, in order. -/
def names (r : Registry) : List String :=
  r.sessions.map (·.1)

/-- A live session. -/
def session? (r : Registry) (name : String) : Option Session :=
  r.sessions.lookup name

/-- Whether a name is that of a live session. -/
def isLive (r : Registry) (name : String) : Bool :=
  (r.session? name).isSome

/-! ### The live sessions -/

/-- Put a session into a list of sessions in the order of their names, in place of one of the same
name. -/
def insertByName (name : String) (s : Session) : List (String × Session) → List (String × Session)
  | [] => [(name, s)]
  | (other, t) :: rest =>
    if name = other then (name, s) :: rest
    else if name < other then (name, s) :: (other, t) :: rest
    else (other, t) :: insertByName name s rest

/-- Add a session, or put it in place of the one with its name. -/
def put (r : Registry) (name : String) (s : Session) : Registry :=
  { r with sessions := insertByName name s r.sessions }

/-- Remove a session. -/
def remove (r : Registry) (name : String) : Registry :=
  { r with sessions := r.sessions.filter (·.1 ≠ name) }

/-- Change a session, if it is live. -/
def modify (r : Registry) (name : String) (change : Session → Session) : Registry :=
  match r.session? name with
  | some s => r.put name (change s)
  | none => r

/-- Change the terminal of a session, if it is live. -/
def modifyTerminal (r : Registry) (name : String) (change : Terminal → Terminal) : Registry :=
  r.modify name fun s => { s with terminal := change s.terminal }

/-! ### Names -/

/-- The name with a number. -/
def numberedName (n : Nat) : String :=
  "tty" ++ toString n

/-- The first number after `count` whose name is not taken, looked for among as many numbers as
there are names, and one more. -/
def freeNumber (taken : String → Bool) : Nat → Nat → Nat
  | 0, count => count + 1
  | fuel + 1, count =>
    if taken (numberedName (count + 1)) then freeNumber taken fuel (count + 1) else count + 1

/-- **Make up a name** that no live session has. The count of names goes on, so that no name is made
up twice. -/
def makeName (r : Registry) : String × Registry :=
  let count := freeNumber r.isLive r.sessions.length r.nameCount
  (numberedName count, { r with nameCount := count })

/-! ### The end of a session -/

/-- **Condemn a session**, if it is live. -/
def condemn (r : Registry) (name : String) : Registry :=
  match r.session? name with
  | some s => { r.put name { s with condemned := true } with sweepDue := true }
  | none => r

/-- Condemn all sessions. -/
def condemnAll (r : Registry) : Registry :=
  { r with
    sessions := r.sessions.map fun (name, s) => (name, { s with condemned := true })
    sweepDue := true }

/-- The names of the sessions that a sweep removes. -/
def expired (r : Registry) (now timeout : Nat) : List String :=
  (r.sessions.filter fun (_, s) => s.expired now timeout).map (·.1)

/-- Note what became of the child of a removed session. -/
def bury (r : Registry) (child : ChildId) (gone : Bool) : Registry :=
  if gone then { r with collected := r.collected ++ [child] }
  else { r with zombies := r.zombies ++ [child] }

end Registry

end GlassTty
