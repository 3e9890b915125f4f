import GlassTty.Proofs.Session.Sweeping

/-!
# What a move can do

Every move does one of a few things (`GlassTty.Service.Takes`): a request does something to the
sessions there are or opens one, and the loop goes on, ends its pass or stops. What holds after
every run is shown by going through these.

What every other invariant rests on is shown here: the sessions stay in the order of their names,
and none is left once the loop has stopped (`GlassTty.Service.Sound`).
-/

namespace GlassTty

variable {σ : Type}

open Multiplexer (Tends)
open SessionHost (clock)

namespace Service

/-! ### Sound sessions -/

/-- The sessions are in order, and a loop that has stopped has left none and lets none be opened. -/
structure Sound (s : Service σ) : Prop where
  inOrder : s.multiplexer.registry.InOrder
  stopped : s.loop.phase = .stopped →
    s.multiplexer.registry.alive = false ∧ s.multiplexer.registry.sessions = []

theorem sound_start (config : SessionConfig) (host : σ) (lastSweep : Nat) :
    (start config host lastSweep).Sound where
  inOrder := .nil
  stopped := fun h => by cases h

variable {s : Service σ} {m' : Multiplexer σ}

/-- Where no session is live, none comes from what is done to them. -/
theorem Sound.sessions_of_kept (h : s.Sound) (hstopped : s.loop.phase = .stopped)
    (hkept : s.multiplexer.Kept m') : m'.registry.alive = false ∧ m'.registry.sessions = [] := by
  obtain ⟨halive, hsessions⟩ := h.stopped hstopped
  have hroster : m'.registry.roster = [] := by
    rw [hkept.roster, Registry.roster, hsessions, List.map_nil]
  refine ⟨?_, List.map_eq_nil_iff.mp hroster⟩
  cases hstate : m'.registry.alive with
  | false => rfl
  | true => rw [hkept.alive hstate] at halive; cases halive

theorem inOrder_withNew (h : m'.registry.InOrder) (name cookie : String) (height width : UInt16)
    (now : Nat) : (m'.withNew name cookie height width now).registry.InOrder :=
  Registry.InOrder.put (r := { m'.registry with spawnCount := m'.registry.spawnCount + 1 }) h name _

theorem child?_withNew (m : Multiplexer σ) (name cookie : String) (height width : UInt16)
    (now : Nat) (other : String) :
    (m.withNew name cookie height width now).registry.child? other =
      if other = name then some m.registry.spawnCount else m.registry.child? other := by
  have hput : (m.withNew name cookie height width now).registry.session? other =
      if other = name then some _ else m.registry.session? other := Registry.session?_put ..
  rw [Registry.child?, hput]
  split <;> rfl

variable [SessionHost σ]

/-! ### Moves -/

/-- **What a move can do.** -/
inductive Takes (s : Service σ) : Move σ → Service σ → Prop
  | served {request : SessionRequest} {m' : Multiplexer σ}
    (hopening : s.multiplexer.opening? request = none) (h : Tends none s.multiplexer m') :
    Takes s (.request request) { s with multiplexer := m' }
  | opened {request : SessionRequest} {name cookie : String} {m' : Multiplexer σ}
    (height width : UInt16) {now : Nat}
    (hopening : s.multiplexer.opening? request = some (name, m'.registry.spawnCount))
    (h : Tends none s.multiplexer m') (halive : m'.registry.alive = true)
    (hfree : s.multiplexer.registry.session? name = none) :
    Takes s (.request request)
      { s with multiplexer := m'.withNew name cookie height width now }
  | elsewhere (change : σ → σ) :
    Takes s (.elsewhere change)
      { s with multiplexer := { s.multiplexer with host := change s.multiplexer.host } }
  | rested (hphase : s.loop.phase = .stopped) : Takes s .loop s
  /-- The loop waits for output or reads some. -/
  | read {m' : Multiplexer σ} (names : List String) (hphase : s.loop.phase ≠ .stopped)
    (h : Tends none s.multiplexer m') :
    Takes s .loop { multiplexer := m', loop := { s.loop with phase := .reading names } }
  /-- The loop looks at the clock. -/
  | looked (hphase : s.loop.phase ≠ .stopped) :
    Takes s .loop
      { multiplexer := { s.multiplexer with host := (clock s.multiplexer.host).2 }
        loop := { s.loop with phase := .finishing (clock s.multiplexer.host).1 } }
  | finished {now : Nat} (hphase : s.loop.phase = .finishing now) :
    Takes s .loop
      { multiplexer := (s.multiplexer.finishPass now s.loop.lastSweep).2
        loop :=
          { phase := .waiting
            lastSweep := (s.multiplexer.finishPass now s.loop.lastSweep).1 } }
  | stopped (hphase : s.loop.phase = .waiting)
    (halive : s.multiplexer.registry.alive = false) :
    Takes s .loop
      { multiplexer := s.multiplexer.reapAll.collectZombies
        loop := { s.loop with phase := .stopped } }

theorem takes_request (s : Service σ) (request : SessionRequest) :
    s.Takes (.request request) (s.step (.request request)) := by
  have hserves := s.multiplexer.serves request
  change s.Takes _ { s with multiplexer := s.multiplexer.serve request }
  generalize hopening : s.multiplexer.opening? request = opening at hserves
  generalize s.multiplexer.serve request = served at hserves
  cases hserves with
  | tended h => exact .served hopening h
  | opened height width h halive hfree => exact .opened height width hopening h halive hfree

theorem takes_loop (s : Service σ) : s.Takes .loop (s.step .loop) := by
  unfold step Multiplexer.loopStep
  cases hphase : s.loop.phase with
  | stopped => exact .rested hphase
  | waiting =>
    have hrunning : s.loop.phase ≠ .stopped := by simp [hphase]
    dsimp only
    split
    · exact .read _ hrunning (Multiplexer.tends_pollSessions _)
    · next halive => exact .stopped hphase (by simpa using halive)
  | reading names =>
    have hrunning : s.loop.phase ≠ .stopped := by simp [hphase]
    cases names with
    | nil => exact .looked hrunning
    | cons name rest => exact .read rest hrunning (Multiplexer.tends_readSession _ name)
  | finishing now => exact .finished hphase

theorem takes (s : Service σ) (move : Move σ) : s.Takes move (s.step move) := by
  cases move with
  | request request => exact s.takes_request request
  | loop => exact s.takes_loop
  | elsewhere change => exact .elsewhere change

/-! ### What keeps sessions sound -/

/-- The order of the sessions at the end of a pass. -/
theorem inOrder_finishPass {m : Multiplexer σ} (h : m.registry.InOrder) (now lastSweep : Nat) :
    (m.finishPass now lastSweep).2.registry.InOrder := by
  have hflushed := ((m.tends_flush now).kept h).inOrder
  obtain ⟨names, hremoves, -⟩ := m.removes_finishPass now lastSweep
  exact hremoves.inOrder hflushed

theorem Sound.step (h : s.Sound) (move : Move σ) : (s.step move).Sound := by
  have htakes := s.takes move
  generalize s.step move = after at htakes
  cases htakes with
  | served _ htended =>
    have hkept := htended.kept h.inOrder
    exact ⟨hkept.inOrder, fun hstopped => h.sessions_of_kept hstopped hkept⟩
  | opened height width _ htended halive _ =>
    have hkept := htended.kept h.inOrder
    refine ⟨inOrder_withNew hkept.inOrder _ _ height width _, fun hstopped => ?_⟩
    -- none is opened by then
    rw [(h.sessions_of_kept hstopped hkept).1] at halive
    cases halive
  | elsewhere change => exact ⟨h.inOrder, h.stopped⟩
  | rested hphase => exact h
  | read names hphase htended =>
    exact ⟨(htended.kept h.inOrder).inOrder, fun hstopped => by cases hstopped⟩
  | looked hphase => exact ⟨h.inOrder, fun hstopped => by cases hstopped⟩
  | finished hphase =>
    exact ⟨inOrder_finishPass h.inOrder _ _, fun hstopped => by cases hstopped⟩
  | stopped hphase halive =>
    have hremoves := s.multiplexer.removes_stop
    exact ⟨hremoves.inOrder h.inOrder,
      fun _ => ⟨hremoves.alive.trans halive, hremoves.sessions_of_names⟩⟩

/-- **Sessions are sound after every run.** -/
theorem sound_run (config : SessionConfig) (host : σ) (lastSweep : Nat) (moves : List (Move σ)) :
    ((start config host lastSweep).run moves).Sound :=
  run_invariant (fun _ move h => h.step move) moves (sound_start config host lastSweep)

end Service

end GlassTty
