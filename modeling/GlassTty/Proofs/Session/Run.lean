import GlassTty.Proofs.Session.Registry
import GlassTty.Session.Loop

/-!
# What sessions go through

The owner of a multiplexer asks for this and that (`GlassTty.SessionRequest`) while the loop goes
its way and the host changes by itself (`GlassTty.Move`). Each request and each step of the loop is
done as a whole, and nothing is said of which comes when: a list of moves is any interleaving of
requests and steps, and what holds after all of them holds whatever happens
(`GlassTty.Service.run`). A pass of the loop without interruption is one of them
(`GlassTty.Service.exists_run_eq_pass`).

What a run has to show for is its history (`GlassTty.Service.history`): all that the owner was told,
and in between the sessions that were opened.
-/

namespace GlassTty

variable {σ : Type}

/-! ### Requests -/

/-- Something that the owner of the sessions asks for. -/
inductive SessionRequest where
  | openSession (name command : Option String) (height width : UInt16)
  | input (name : String) (bytes : Bytes)
  | resize (name : String) (height width : UInt16)
  | clear (name : String)
  | clearLast (name : String) (guard : Option Nat)
  | kill (name : String)
  | killAll
  | clickPaste (name : String) (click : Terminal.Click)
  | reconnect (name responseId : String)
  | saveFile (name path : String) (content : Bytes)
  /-- Look at the terminal of a session. -/
  | inspect (name : String)
  | shutdown

namespace Multiplexer

variable [SessionHost σ]

/-- Open a session of a size that a window can have. -/
def openSized (m : Multiplexer σ) (name command : Option String) (height width : UInt16) :
    Except SessionError (String × String) × Multiplexer σ :=
  m.openSession name command height.toNat width.toNat

/-- **The sessions after a request.** What a request answers is left out. -/
def serve (m : Multiplexer σ) : SessionRequest → Multiplexer σ
  | .openSession name command height width => (m.openSized name command height width).2
  | .input name bytes => m.input name bytes
  | .resize name height width => m.resize name height.toNat width.toNat
  | .clear name => m.clear name
  | .clearLast name guard => m.clearLast name guard
  | .kill name => m.kill name
  | .killAll => m.killAll
  | .clickPaste name click => m.clickPaste name click
  | .reconnect name responseId => m.reconnect name responseId
  | .saveFile name path content => m.saveFile name path content
  | .inspect _ => m
  | .shutdown => m.shutdown

/-- The session that a request opens: one is asked for, it is granted, and none of the name was
live before. -/
def opening? (m : Multiplexer σ) : SessionRequest → Option (String × ChildId)
  | .openSession name command height width =>
    match m.openSized name command height width with
    | (.ok (name, _), after) =>
      if m.registry.isLive name then none else (after.registry.child? name).map (name, ·)
    | (.error _, _) => none
  | _ => none

end Multiplexer

/-! ### Moves -/

/-- Something that happens. -/
inductive Move (σ : Type) where
  | request (request : SessionRequest)
  /-- The loop takes a step. -/
  | loop
  /-- The host changes by itself. -/
  | elsewhere (change : σ → σ)

/-- A multiplexer with its loop. -/
structure Service (σ : Type) where
  multiplexer : Multiplexer σ
  loop : Loop

/-- What the history of a run is made of. -/
inductive SessionEntry where
  /-- A session was opened for a new child. -/
  | opened (session : String) (child : ChildId)
  /-- The owner was told something. -/
  | told (event : SessionEvent)
  deriving Inhabited

namespace SessionEntry

/-- The session that an entry is about. -/
def session : SessionEntry → String
  | .opened session _ => session
  | .told event => event.session

def event? : SessionEntry → Option SessionEvent
  | .opened _ _ => none
  | .told event => some event

/-- The child of the session that was opened. -/
def child? : SessionEntry → Option ChildId
  | .opened _ child => some child
  | .told _ => none

end SessionEntry

namespace Service

/-- No sessions yet. The loop is told when it begins. -/
def start (config : SessionConfig) (host : σ) (lastSweep : Nat) : Service σ :=
  { multiplexer := { config, host }, loop := { lastSweep } }

variable [SessionHost σ]

/-- **One move.** -/
def step (s : Service σ) : Move σ → Service σ
  | .request request => { s with multiplexer := s.multiplexer.serve request }
  | .loop =>
    let (loop, multiplexer) := s.multiplexer.loopStep s.loop
    { multiplexer, loop }
  | .elsewhere change =>
    { s with multiplexer := { s.multiplexer with host := change s.multiplexer.host } }

/-- **A run.** -/
def run (s : Service σ) : List (Move σ) → Service σ
  | [] => s
  | move :: rest => (s.step move).run rest

/-- What the owner is told in a move. -/
def newsOf (s : Service σ) (move : Move σ) : List SessionEvent :=
  (s.step move).multiplexer.told.drop s.multiplexer.told.length

/-- The session that a move opens. -/
def opening? (s : Service σ) : Move σ → Option (String × ChildId)
  | .request request => s.multiplexer.opening? request
  | _ => none

/-- What a move adds to the history. -/
def entriesOf (s : Service σ) (move : Move σ) : List SessionEntry :=
  ((s.opening? move).map fun p => .opened p.1 p.2).toList ++
    (s.newsOf move).map .told

/-- **The history of a run.** -/
def history (s : Service σ) : List (Move σ) → List SessionEntry
  | [] => []
  | move :: rest => s.entriesOf move ++ (s.step move).history rest

theorem run_append (s : Service σ) (x y : List (Move σ)) : s.run (x ++ y) = (s.run x).run y := by
  induction x generalizing s with
  | nil => rfl
  | cons move x ih => exact ih _

/-- **What every move keeps holds after every run**, of the sessions and of the history so far. -/
theorem run_induction {P : Service σ → List SessionEntry → Prop} {C : Move σ → Prop}
    (step : ∀ s history move, C move → P s history → P (s.step move) (history ++ s.entriesOf move))
    {s : Service σ} {moves : List (Move σ)} (hmoves : ∀ move ∈ moves, C move) (h : P s []) :
    P (s.run moves) (s.history moves) := by
  suffices hbehind : ∀ before, P s before → P (s.run moves) (before ++ s.history moves) from
    hbehind [] h
  clear h
  induction moves generalizing s with
  | nil => exact fun before h => (List.append_nil before).symm ▸ h
  | cons move rest ih =>
    intro before h
    have hrest := ih (fun other hother => hmoves other (List.mem_cons_of_mem _ hother)) _
      (step s before move (hmoves move List.mem_cons_self) h)
    rw [history, ← List.append_assoc]
    exact hrest

/-- What a move keeps of the sessions alone, whichever move it is. -/
theorem run_invariant {P : Service σ → Prop} (step : ∀ s move, P s → P (s.step move))
    {s : Service σ} (moves : List (Move σ)) (h : P s) : P (s.run moves) :=
  run_induction (C := fun _ => True) (P := fun s _ => P s) (fun s _ move _ => step s move)
    (fun _ _ => trivial) h

/-! ### A pass of the loop -/

/-- The loop reads one session after the other. -/
theorem run_reading (m : Multiplexer σ) (lastSweep : Nat) (names : List String) :
    ({ multiplexer := m, loop := { phase := .reading names, lastSweep } } : Service σ).run
        (List.replicate names.length .loop) =
      { multiplexer := names.foldl Multiplexer.readSession m
        loop := { phase := .reading [], lastSweep } } := by
  induction names generalizing m with
  | nil => rfl
  | cons name rest ih => exact ih (m.readSession name)

/-- **A pass without interruption is steps of the loop** with nothing in between. -/
theorem exists_run_eq_pass (m : Multiplexer σ) (lastSweep : Nat) :
    let loop : Loop := { lastSweep }
    ∃ count, ({ multiplexer := m, loop } : Service σ).run (List.replicate count .loop) =
      { multiplexer := (m.pass loop).2, loop := (m.pass loop).1 } := by
  intro loop
  set s : Service σ := { multiplexer := m, loop } with hs
  by_cases halive : m.registry.alive = true
  · refine ⟨1 + m.pollSessions.1.length + 2, ?_⟩
    have hpoll : s.run (List.replicate 1 .loop) =
        { multiplexer := m.pollSessions.2
          loop := { phase := .reading m.pollSessions.1, lastSweep } } := by
      simp [hs, run, step, Multiplexer.loopStep, halive, loop]
    rw [List.replicate_add, List.replicate_add, run_append, run_append, hpoll, run_reading]
    simp [run, step, Multiplexer.loopStep, Multiplexer.pass, halive, loop]
  · refine ⟨1, ?_⟩
    simp [hs, run, step, Multiplexer.loopStep, Multiplexer.pass, halive, loop]

end Service

/-! ### A host for examples -/

/-- **A host that plays a script**: what comes of the next attempts to start a child, to read and to
collect. Beyond the script children are started, have nothing to be read and have ended. Every look
at the clock takes a nanosecond. -/
structure Script where
  time : Nat := 0
  spawns : List (Option String) := []
  reads : List ReadOutcome := []
  collects : List Bool := []

instance : SessionHost Script where
  clock h := (h.time + 1, { h with time := h.time + 1 })
  secret h := ("", h)
  setting? _ _ := none
  files _ := default
  withFiles h _ := h
  spawn h _ _ := (h.spawns.headD none, { h with spawns := h.spawns.tail })
  poll h children _ := (children, h)
  read h _ := (h.reads.headD .wouldBlock, { h with reads := h.reads.tail })
  write h _ _ := (none, h)
  resize h _ _ _ := (true, h)
  directory? _ _ := none
  terminate h _ := h
  close h _ := h
  collect h _ := (h.collects.headD true, { h with collects := h.collects.tail })

end GlassTty
