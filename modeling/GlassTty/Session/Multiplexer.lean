import GlassTty.Session.Config
import GlassTty.Session.Error
import GlassTty.Session.Registry

/-!
# The multiplexer

The multiplexer runs many sessions at once (`GlassTty.Multiplexer`). This file has what its owner
may ask for, each request done at once and as a whole: open a session or resize it
(`GlassTty.Multiplexer.openSession`), type into it, ask its terminal for something, end it. What the
sessions have to say is kept in one list, in the order it happened (`GlassTty.SessionEvent`).

A request about a session that is not live does nothing. An operation of the host that fails
condemns the session.
-/

namespace GlassTty

/-- What the owner of the sessions is told. -/
inductive SessionEvent where
  /-- The terminal of a session tells something. -/
  | output (session : String) (event : TerminalEvent)
  /-- A session was removed, and its name is free again. -/
  | closed (session : String)
  deriving Inhabited

namespace SessionEvent

/-- The session that an event is about. -/
def session : SessionEvent → String
  | .output session _ => session
  | .closed session => session

/-- Whether the event is the end of a session. -/
def isClosed : SessionEvent → Bool
  | .output _ _ => false
  | .closed _ => true

end SessionEvent

/-- The sessions of a host. -/
structure Multiplexer (σ : Type) where
  config : SessionConfig
  registry : Registry := {}
  host : σ
  /-- All that the owner was told, oldest first. -/
  told : List SessionEvent := []

namespace Multiplexer

variable {σ : Type}

/-! ### Looking -/

/-- The names of the live sessions, in order. -/
def names (m : Multiplexer σ) : List String :=
  m.registry.names

/-- Whether sessions are still opened. -/
def isRunning (m : Multiplexer σ) : Bool :=
  m.registry.alive

/-- The terminal of a live session. -/
def terminal? (m : Multiplexer σ) (name : String) : Option Terminal :=
  (m.registry.session? name).map (·.terminal)

/-- The secret of a live session. -/
def cookie (m : Multiplexer σ) (name : String) : Except SessionError String :=
  match m.terminal? name with
  | some terminal => .ok terminal.cookie
  | none => .error (.unknownSession name)

/-! ### Telling -/

/-- Tell the owner something. -/
def tell (m : Multiplexer σ) (event : SessionEvent) : Multiplexer σ :=
  { m with told := m.told ++ [event] }

/-- Change the registry. -/
def mapRegistry (m : Multiplexer σ) (change : Registry → Registry) : Multiplexer σ :=
  { m with registry := change m.registry }

/-- **Tell the owner all that the terminal of a session has to say.** -/
def forward (m : Multiplexer σ) (name : String) : Multiplexer σ :=
  match m.registry.session? name with
  | some s =>
    let (events, terminal) := s.terminal.drainEvents
    { m with
      registry := m.registry.put name { s with terminal }
      told := m.told ++ events.map (.output name) }
  | none => m

/-! ### Ending sessions -/

/-- End a session with the next sweep. -/
def kill (m : Multiplexer σ) (name : String) : Multiplexer σ :=
  m.mapRegistry (·.condemn name)

/-- End all sessions with the next sweep. -/
def killAll (m : Multiplexer σ) : Multiplexer σ :=
  m.mapRegistry (·.condemnAll)

/-- Open no more sessions, and end those that are live. -/
def shutdown (m : Multiplexer σ) : Multiplexer σ :=
  m.mapRegistry fun r => { r with alive := false }.condemnAll

/-! ### Terminals -/

/-- Drop the scrollback of a session and clean its screen. -/
def clear (m : Multiplexer σ) (name : String) : Multiplexer σ :=
  m.mapRegistry (·.modifyTerminal name Terminal.clear)

/-- Take the newest entry of a session's scrollback back, if it may be. -/
def clearLast (m : Multiplexer σ) (name : String) (guard : Option Nat) : Multiplexer σ :=
  m.mapRegistry (·.modifyTerminal name (·.clearLast guard))

/-- Let the next update of a session tell everything, in answer to the named request. -/
def reconnect (m : Multiplexer σ) (name responseId : String) : Multiplexer σ :=
  m.mapRegistry (·.modifyTerminal name (·.reconnect responseId))

variable [SessionHost σ]

open SessionHost

/-- Type bytes for the child of a session. -/
def type (m : Multiplexer σ) (name : String) (s : Session) (bytes : Bytes) : Multiplexer σ :=
  let (error?, host) := write m.host s.child bytes
  let m := { m with host }
  if error?.isSome then m.kill name else m

/-- **Type into a session.** -/
def input (m : Multiplexer σ) (name : String) (bytes : Bytes) : Multiplexer σ :=
  match m.registry.session? name with
  | some s => m.type name s bytes
  | none => m

/-- Give the session `s` of the given name another size. -/
def resizeSession (m : Multiplexer σ) (name : String) (s : Session) (height width : Nat) :
    Multiplexer σ :=
  let (worked, host) := SessionHost.resize m.host s.child height width
  let m :=
    { m with
      host
      registry := m.registry.put name { s with terminal := s.terminal.resize height width } }
  if worked then m else m.kill name

/-- Give a session another size. -/
def resize (m : Multiplexer σ) (name : String) (height width : Nat) : Multiplexer σ :=
  match m.registry.session? name with
  | some s => m.resizeSession name s height width
  | none => m

/-- Save a file for a session and tell at once how it went. -/
def saveFile (m : Multiplexer σ) (name path : String) (content : Bytes) : Multiplexer σ :=
  match m.registry.session? name with
  | some s =>
    let (terminal, files) := s.terminal.saveFile (files m.host) path content
    let m :=
      { m with
        host := withFiles m.host files
        registry := m.registry.put name { s with terminal } }
    m.forward name
  | none => m

/-- **Type what a click stands for.** A click that cannot be pasted is answered by a message to the
user. The directory of the shell counts where the command line tells none. -/
def clickPaste (m : Multiplexer σ) (name : String) (click : Terminal.Click) : Multiplexer σ :=
  match m.registry.session? name with
  | some s =>
    let setting : Terminal.PasteSetting :=
      { localHost := m.config.localHost
        search := { extra := m.config.binDir, path := setting? m.host "PATH" } }
    let fallback := if s.terminal.needsDirectory then directory? m.host s.child else none
    let (pasted, terminal) := s.terminal.clickPaste (files m.host) click setting fallback
    let s := { s with terminal }
    let m := m.mapRegistry (·.put name s)
    match pasted with
    | .ok (some text) => m.type name s (utf8Bytes text)
    | .ok none => m
    | .error error => m.tell (.output name (.directive (.alert error.message)))
  | none => m

/-! ### Opening sessions -/

/-- The terminal of a new session. -/
def newTerminal (m : Multiplexer σ) (name cookie : String) (height width : Nat) : Terminal :=
  .new name
    { width
      height
      cookie
      prompt := m.config.prompt
      maxScrollLines := m.config.maxScrollLines }

/-- What is run in a new session. -/
def spawnRequest (m : Multiplexer σ) (name cookie : String) (command : Option String)
    (height width : Nat) : SpawnRequest :=
  { arguments := m.config.arguments command (setting? m.host "SHELL")
    environment := m.config.childEnvironment name cookie height width (setting? m.host)
    directory := setting? m.host "HOME"
    height
    width }

/-- Start a program under the next number. -/
def spawnNext (m : Multiplexer σ) (request : SpawnRequest) :
    Except SessionError ChildId × Multiplexer σ :=
  match spawnError? request.arguments request.environment request.directory with
  | some error => (.error error, m)
  | none =>
    let child := m.registry.spawnCount
    match spawn m.host child request with
    | (some reason, host) =>
      (.error (.spawn (" ".intercalate request.arguments) (.refused reason)), { m with host })
    | (none, host) =>
      (.ok child, { m with host, registry := { m.registry with spawnCount := child + 1 } })

/-- Open a session that is not live. -/
def openNew (m : Multiplexer σ) (name : String) (command : Option String) (height width : Nat) :
    Except SessionError (String × String) × Multiplexer σ :=
  let (cookie, host) := secret m.host
  let m := { m with host }
  match m.spawnNext (m.spawnRequest name cookie command height width) with
  | (.error error, m) => (.error error, m)
  | (.ok child, m) =>
    let (now, host) := clock m.host
    let session : Session :=
      { terminal := m.newTerminal name cookie height width, child, outputTime := now }
    (.ok (name, cookie), { m with host, registry := m.registry.put name session })

/-- **Open a session, or resize the live one of that name.** Without a name one is made up. The
answer is the name of the session and its secret. -/
def openSession (m : Multiplexer σ) (name command : Option String) (height width : Nat) :
    Except SessionError (String × String) × Multiplexer σ :=
  let height := max height 1
  let width := max width 1
  if !m.registry.alive then (.error .shuttingDown, m)
  else
    let (name, registry) :=
      match name.filter (!·.isEmpty) with
      | some name => (name, m.registry)
      | none => m.registry.makeName
    let m := { m with registry }
    match registry.session? name with
    | some s => (.ok (name, s.terminal.cookie), m.resizeSession name s height width)
    | none => m.openNew name command height width

end Multiplexer

end GlassTty
