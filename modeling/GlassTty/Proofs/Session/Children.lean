import GlassTty.Proofs.Session.Steps
import Mathlib.Data.List.Nodup

/-!
# Sessions that are to end, and their children

A session that is condemned is not forgotten: it has asked for a sweep, it stays condemned, and when
the pass has ended its child is held by no session any more. Nothing else ends a session but a
silence that was too long and the end of the loop
(`GlassTty.Service.children_run`).

The child of a session is not forgotten either. Children are numbered in the order in which they
were started, and each number stands in one place: with a live session, among those that are to be
collected or among those that are (`GlassTty.Registry.held`).

What a move does to the children that are held is said once for all moves
(`GlassTty.Service.Sound.held_step`), and so is what it does to one session
(`GlassTty.Service.Sound.session_step`). The flag that asks for a sweep is cleared in the midst of a
move, before the sweep, so that it is the end of a pass as a whole that keeps it
(`GlassTty.Service.condemned_finishPass`).
-/

namespace GlassTty

variable {σ : Type}

/-! ### What counts for the end of a session -/

/-- What of a session says whether it is to end, and its child. -/
def Session.standing (s : Session) : ChildId × Nat × Bool :=
  (s.child, s.outputTime, s.condemned)

theorem Session.expired_congr {s t : Session} (h : t.standing = s.standing) (now timeout : Nat) :
    t.expired now timeout = s.expired now timeout := by
  have houtput : t.outputTime = s.outputTime := congrArg (·.2.1) h
  have hmark : t.condemned = s.condemned := congrArg (·.2.2) h
  rw [expired, expired, houtput, hmark]

theorem Session.expired_iff (s : Session) (now timeout : Nat) :
    s.expired now timeout = true ↔ s.condemned = true ∨ timeout < now - s.outputTime := by
  simp [expired]

namespace Multiplexer

variable {m m' : Multiplexer σ} {name : String} {s : Session}

/-- The standing of a live session. -/
def standing? (m : Multiplexer σ) (name : String) : Option (ChildId × Nat × Bool) :=
  (m.registry.session? name).map (·.standing)

theorem standing?_put {r : Registry} {t : Session} (hs : r.session? name = some s)
    (ht : t.standing = s.standing) (other : String) :
    ((r.put name t).session? other).map (·.standing) = (r.session? other).map (·.standing) := by
  rw [Registry.session?_put]
  split
  · next h => rw [h, hs, Option.map_some, Option.map_some, ht]
  · rfl

theorem standing?_forward (m : Multiplexer σ) (name other : String) :
    (m.forward name).standing? other = m.standing? other := by
  unfold forward
  cases hs : m.registry.session? name with
  | none => rfl
  | some s =>
    exact standing?_put (t := { s with terminal := s.terminal.drainEvents.2 }) hs rfl other

theorem standing?_flushSession (m : Multiplexer σ) (now : Nat) (name other : String) :
    (flushSession now m name).standing? other = m.standing? other := by
  unfold flushSession
  dsimp only
  rw [standing?_forward]
  unfold standing? mapRegistry Registry.modify
  dsimp only
  cases hs : m.registry.session? name with
  | none => rfl
  | some s =>
    refine standing?_put hs ?_ other
    split <;> rfl

/-- **Updates do not count** for the end of a session. -/
theorem standing?_flush (m : Multiplexer σ) (now : Nat) (name : String) :
    (m.flush now).standing? name = m.standing? name := by
  unfold flush
  induction m.names generalizing m with
  | nil => rfl
  | cons first rest ih => exact (ih _).trans (standing?_flushSession m now first name)

theorem Kept.session? (h : m.Kept m') (hs : m.registry.session? name = some s) :
    ∃ s', m'.registry.session? name = some s' ∧ s'.child = s.child ∧
      (s.condemned = true → s'.condemned = true) := by
  have hchild : m'.registry.child? name = some s.child := by
    rw [h.child?, Registry.child?, hs]
    rfl
  obtain ⟨s', hs', heq⟩ := Option.map_eq_some_iff.mp hchild
  refine ⟨s', hs', heq, fun hmark => ?_⟩
  obtain ⟨s'', hs'', hmark'⟩ := h.condemned name s hs hmark
  obtain rfl : s'' = s' := Option.some.inj (hs''.symm.trans hs')
  exact hmark'

theorem Kept.held (h : m.Kept m') : m'.registry.held = m.registry.held := by
  rw [Registry.held, Registry.held, h.roster, h.zombies, h.collected]

end Multiplexer

namespace Service

variable {s : Service σ} {name : String} {session : Session}

/-! ### Sessions that are accounted for -/

/-- Sessions are sound, those that are condemned have asked for a sweep, and each child that was
started is held in one place. -/
structure Accounted (s : Service σ) : Prop extends s.Sound where
  marksAsk : s.multiplexer.registry.MarksAsk
  held : s.multiplexer.registry.held.Perm (List.range s.multiplexer.registry.spawnCount)

theorem accounted_start (config : SessionConfig) (host : σ) (lastSweep : Nat) :
    (start config host lastSweep).Accounted where
  toSound := sound_start config host lastSweep
  marksAsk := fun _ _ hs => by cases hs
  held := .refl _

/-- No two sessions have the same child. -/
theorem Accounted.name_unique (h : s.Accounted) {child : ChildId} {other : String}
    (hname : s.multiplexer.registry.child? name = some child)
    (hother : s.multiplexer.registry.child? other = some child) : name = other := by
  have hnodup : (s.multiplexer.registry.roster.map (·.2)).Nodup :=
    (List.nodup_append.mp (h.held.nodup_iff.mpr List.nodup_range)).1
  exact congrArg (·.1) (List.inj_on_of_nodup_map hnodup (Registry.mem_roster_of_child? hname)
    (Registry.mem_roster_of_child? hother) rfl)

theorem Accounted.child_lt (h : s.Accounted) {child : ChildId}
    (hname : s.multiplexer.registry.child? name = some child) :
    child < s.multiplexer.registry.spawnCount := by
  have hheld : child ∈ s.multiplexer.registry.held :=
    List.mem_append_left _ (List.mem_map_of_mem (Registry.mem_roster_of_child? hname))
  exact List.mem_range.mp (h.held.mem_iff.mp hheld)

/-- **A child is doomed**: no session has it but one that is condemned. -/
structure Doomed (child : ChildId) (s : Service σ) : Prop extends s.Accounted where
  started : child < s.multiplexer.registry.spawnCount
  condemned : ∀ name session, s.multiplexer.registry.session? name = some session →
    session.child = child → session.condemned = true

theorem Accounted.doomed (h : s.Accounted)
    (hs : s.multiplexer.registry.session? name = some session)
    (hmark : session.condemned = true) : s.Doomed session.child where
  toAccounted := h
  started := h.child_lt (by rw [Registry.child?, hs]; rfl)
  condemned := by
    intro other t ht hchild
    have hother : s.multiplexer.registry.child? other = some session.child := by
      rw [Registry.child?, ht, ← hchild]
      rfl
    have hname : s.multiplexer.registry.child? name = some session.child := by
      rw [Registry.child?, hs]
      rfl
    obtain rfl : other = name := h.name_unique hother hname
    obtain rfl : t = session := Option.some.inj (ht.symm.trans hs)
    exact hmark

variable [SessionHost σ]

/-! ### One session -/

/-- **What may end a session**: it is condemned or was silent for too long when a pass ends, or the
loop stops. -/
def MayEnd (s : Service σ) (session : Session) : Prop :=
  (∃ now, s.loop.phase = .finishing now ∧
    (session.condemned = true ∨ s.multiplexer.config.idleTimeout < now - session.outputTime)) ∨
  (s.loop.phase = .waiting ∧ s.multiplexer.registry.alive = false)

/-- The session is live with its child, and condemned if it was. -/
def Stays (session : Session) (name : String) (after : Service σ) : Prop :=
  ∃ session', after.multiplexer.registry.session? name = some session' ∧
    session'.child = session.child ∧ (session.condemned = true → session'.condemned = true)

/-- What the end of a pass does to a session. -/
theorem session_finishPass {m : Multiplexer σ} (horder : m.registry.InOrder)
    (hs : m.registry.session? name = some session) (now lastSweep : Nat) :
    (∃ session', (m.finishPass now lastSweep).2.registry.session? name = some session' ∧
      session'.child = session.child ∧
        (session.condemned = true → session'.condemned = true)) ∨
    ((m.finishPass now lastSweep).2.registry.session? name = none ∧
      session.expired now m.config.idleTimeout = true) := by
  have hkept := (m.tends_flush now).kept horder
  obtain ⟨t, ht, hchild, hmark⟩ := hkept.session? hs
  obtain ⟨names, hremoves, hnames⟩ := m.removes_finishPass now lastSweep
  have hbehind := hremoves.session? name
  split at hbehind
  · next hmem =>
    -- the session that is removed is the one that was live before
    have hname : name ∈ (m.flush now).registry.expired now m.config.idleTimeout := by
      rcases hnames with ⟨-, rfl⟩ | rfl
      · cases hmem
      · rwa [hkept.config] at hmem
    obtain ⟨u, hu, hexpired⟩ := Registry.mem_expired.mp hname
    obtain rfl : u = t := Option.some.inj ((hkept.inOrder.mem_sessions.mp hu).symm.trans ht)
    have hstanding : u.standing = session.standing := by
      have hflush := m.standing?_flush now name
      rw [Multiplexer.standing?, Multiplexer.standing?, ht, hs] at hflush
      exact Option.some.inj hflush
    exact .inr ⟨hbehind, (Session.expired_congr hstanding _ _).symm.trans hexpired⟩
  · exact .inl ⟨t, hbehind.trans ht, hchild, hmark⟩

/-- **What a move does to a session.** -/
theorem Sound.session_step (h : s.Sound) (move : Move σ)
    (hs : s.multiplexer.registry.session? name = some session) :
    Stays session name (s.step move) ∨
      ((s.step move).multiplexer.registry.session? name = none ∧ move = .loop ∧
        s.MayEnd session) := by
  have htakes := s.takes move
  generalize s.step move = after at htakes
  cases htakes with
  | served _ htended => exact .inl ((htended.kept h.inOrder).session? hs)
  | @opened _ opened cookie m' height width now _ htended _ hfree =>
    obtain ⟨t, ht, hkept⟩ := (htended.kept h.inOrder).session? hs
    have hname : name ≠ opened := by
      rintro rfl
      rw [hs] at hfree
      cases hfree
    have hput : (m'.withNew opened cookie height width now).registry.session? name =
        m'.registry.session? name := (Registry.session?_put ..).trans (if_neg hname)
    exact .inl ⟨t, hput.trans ht, hkept⟩
  | elsewhere change => exact .inl ⟨session, hs, rfl, id⟩
  | rested hphase => exact .inl ⟨session, hs, rfl, id⟩
  | read names hphase htended => exact .inl ((htended.kept h.inOrder).session? hs)
  | looked hphase => exact .inl ⟨session, hs, rfl, id⟩
  | @finished now hphase =>
    rcases session_finishPass h.inOrder hs now s.loop.lastSweep with hstays | ⟨hgone, hexpired⟩
    · exact .inl hstays
    · exact .inr ⟨hgone, rfl, .inl ⟨now, hphase, (session.expired_iff _ _).mp hexpired⟩⟩
  | stopped hphase halive =>
    have hmem : name ∈ s.multiplexer.names :=
      Registry.isLive_iff_mem_names.mp (Option.isSome_of_eq_some hs)
    have hgone := s.multiplexer.removes_stop.session? name
    rw [if_pos hmem] at hgone
    exact .inr ⟨hgone, rfl, .inr ⟨hphase, halive⟩⟩

/-! ### Sweeps that are asked for -/

/-- **Behind the end of a pass no session is condemned**: if one was, a sweep has removed it. -/
theorem condemned_finishPass {m : Multiplexer σ} (horder : m.registry.InOrder)
    (hmarks : m.registry.MarksAsk) (now lastSweep : Nat)
    (hs : (m.finishPass now lastSweep).2.registry.session? name = some session) :
    session.condemned = false := by
  have hkept := (m.tends_flush now).kept horder
  obtain ⟨names, hremoves, hnames⟩ := m.removes_finishPass now lastSweep
  have hbehind := (hremoves.session? name).symm.trans hs
  split at hbehind
  · cases hbehind
  · next hmem =>
    by_contra hnot
    have hmark : session.condemned = true := by simpa using hnot
    rcases hnames with ⟨hdue, -⟩ | rfl
    · rw [hkept.marksAsk hmarks name session hbehind hmark] at hdue
      cases hdue
    · -- a condemned session is among those that are removed
      refine hmem (Registry.mem_expired.mpr ⟨session, ?_, ?_⟩)
      · exact hkept.inOrder.mem_sessions.mpr hbehind
      · exact (session.expired_iff _ _).mpr (.inl hmark)

theorem Sound.marksAsk_step (h : s.Sound) (hmarks : s.multiplexer.registry.MarksAsk)
    (move : Move σ) : (s.step move).multiplexer.registry.MarksAsk := by
  have htakes := s.takes move
  generalize s.step move = after at htakes
  cases htakes with
  | served _ htended => exact (htended.kept h.inOrder).marksAsk hmarks
  | @opened _ opened cookie m' height width now _ htended _ _ =>
    intro name session hs hmark
    have hput : (m'.withNew opened cookie height width now).registry.session? name =
        if name = opened then some _ else m'.registry.session? name := Registry.session?_put ..
    rw [hput] at hs
    split at hs
    · -- a new session is not condemned
      cases hs
      cases hmark
    · exact (htended.kept h.inOrder).marksAsk hmarks name session hs hmark
  | elsewhere change => exact hmarks
  | rested hphase => exact hmarks
  | read names hphase htended => exact (htended.kept h.inOrder).marksAsk hmarks
  | looked hphase => exact hmarks
  | finished hphase =>
    intro name session hs hmark
    rw [condemned_finishPass h.inOrder hmarks _ _ hs] at hmark
    cases hmark
  | stopped hphase halive =>
    intro name session hs _
    have hnone := s.multiplexer.removes_stop.sessions_of_names
    rw [Registry.session?, hnone] at hs
    cases hs

/-! ### Children -/

/-- **What a move does to the children that are held**: none is lost, and one comes to them if a
session is opened. -/
theorem Sound.held_step (h : s.Sound) (move : Move σ) :
    let r := s.multiplexer.registry
    let r' := (s.step move).multiplexer.registry
    (s.opening? move = none ∧ r'.held.Perm r.held ∧ r'.spawnCount = r.spawnCount) ∨
      ∃ name, s.opening? move = some (name, r.spawnCount) ∧
        r'.held.Perm (r.spawnCount :: r.held) ∧ r'.spawnCount = r.spawnCount + 1 := by
  have htakes := s.takes move
  generalize s.step move = after at htakes
  cases htakes with
  | served hopening htended =>
    have hkept := htended.kept h.inOrder
    exact .inl ⟨hopening, .of_eq hkept.held, hkept.spawnCount⟩
  | @opened request opened cookie m' height width now hopening htended _ hfree =>
    have hkept := htended.kept h.inOrder
    have hfree' : m'.registry.session? opened = none := by
      have hchild := hkept.child? opened
      rw [Registry.child?, Registry.child?, hfree] at hchild
      exact Option.map_eq_none_iff.mp hchild
    have hroster := hkept.inOrder.roster_put_perm hfree'
      { terminal := m'.newTerminal opened cookie height.toNat width.toNat
        child := m'.registry.spawnCount
        outputTime := now }
    have hheld : (m'.withNew opened cookie height width now).registry.held.Perm
        (m'.registry.spawnCount :: m'.registry.held) :=
      (hroster.map (·.2)).append_right (m'.registry.zombies ++ m'.registry.collected)
    rw [hkept.spawnCount, hkept.held] at hheld
    rw [hkept.spawnCount] at hopening
    exact .inr ⟨opened, hopening, hheld, congrArg (· + 1) hkept.spawnCount⟩
  | elsewhere change => exact .inl ⟨rfl, .refl _, rfl⟩
  | rested hphase => exact .inl ⟨rfl, .refl _, rfl⟩
  | read names hphase htended =>
    have hkept := htended.kept h.inOrder
    exact .inl ⟨rfl, .of_eq hkept.held, hkept.spawnCount⟩
  | looked hphase => exact .inl ⟨rfl, .refl _, rfl⟩
  | @finished now hphase =>
    have hkept := (s.multiplexer.tends_flush now).kept h.inOrder
    obtain ⟨names, hremoves, -⟩ := s.multiplexer.removes_finishPass now s.loop.lastSweep
    exact .inl ⟨rfl, (hremoves.held hkept.inOrder).trans (.of_eq hkept.held),
      hremoves.spawnCount.trans hkept.spawnCount⟩
  | stopped hphase halive =>
    have hremoves := s.multiplexer.removes_stop
    exact .inl ⟨rfl, hremoves.held h.inOrder, hremoves.spawnCount⟩

/-! ### Runs -/

theorem Accounted.step (h : s.Accounted) (move : Move σ) : (s.step move).Accounted where
  toSound := h.toSound.step move
  marksAsk := h.marksAsk_step h.marksAsk move
  held := by
    rcases h.held_step move with ⟨-, hheld, hcount⟩ | ⟨-, -, hheld, hcount⟩
    · rw [hcount]
      exact hheld.trans h.held
    · rw [hcount, List.range_succ]
      exact (hheld.trans (h.held.cons _)).trans (List.perm_append_singleton _ _).symm

theorem Accounted.run (h : s.Accounted) (moves : List (Move σ)) : (s.run moves).Accounted :=
  run_invariant (fun _ move h => h.step move) moves h

/-- A session that is live behind a move was so before with its child, or the move has opened it
for a new one. -/
theorem Sound.child?_opened (h : s.Sound) (move : Move σ) {child : ChildId}
    (hchild : (s.step move).multiplexer.registry.child? name = some child) :
    s.multiplexer.registry.child? name = some child ∨
      (s.opening? move = some (name, child) ∧ child = s.multiplexer.registry.spawnCount) := by
  have htakes := s.takes move
  generalize s.step move = after at htakes hchild
  cases htakes with
  | served _ htended => exact .inl (((htended.kept h.inOrder).child? name).symm.trans hchild)
  | opened height width hopening htended _ _ =>
    have hkept := htended.kept h.inOrder
    have hnew := (child?_withNew ..).symm.trans hchild
    split at hnew
    · next hname =>
      obtain rfl := Option.some.inj hnew
      rw [hname]
      exact .inr ⟨hopening, hkept.spawnCount⟩
    · exact .inl ((hkept.child? name).symm.trans hnew)
  | elsewhere change => exact .inl hchild
  | rested hphase => exact .inl hchild
  | read names hphase htended =>
    exact .inl (((htended.kept h.inOrder).child? name).symm.trans hchild)
  | looked hphase => exact .inl hchild
  | @finished now hphase =>
    have hkept := (s.multiplexer.tends_flush now).kept h.inOrder
    left
    rw [← hkept.child?]
    obtain ⟨names, hremoves, -⟩ := s.multiplexer.removes_finishPass now s.loop.lastSweep
    exact hremoves.child?_of_eq_some hchild
  | stopped hphase halive => exact .inl (s.multiplexer.removes_stop.child?_of_eq_some hchild)

/-- A session that is live behind a move was so before with its child, or its child is new. -/
theorem Sound.child?_step (h : s.Sound) (move : Move σ) {child : ChildId}
    (hchild : (s.step move).multiplexer.registry.child? name = some child) :
    s.multiplexer.registry.child? name = some child ∨
      child = s.multiplexer.registry.spawnCount :=
  (h.child?_opened move hchild).imp_right And.right

/-- A child that was started stays so. -/
theorem Sound.started_step (h : s.Sound) (move : Move σ) {child : ChildId}
    (hstarted : child < s.multiplexer.registry.spawnCount) :
    child < (s.step move).multiplexer.registry.spawnCount := by
  rcases h.held_step move with ⟨-, -, hcount⟩ | ⟨-, -, -, hcount⟩
  · exact hstarted.trans_eq hcount.symm
  · exact (Nat.lt_succ_of_lt hstarted).trans_eq hcount.symm

theorem Doomed.step {child : ChildId} (h : Doomed child s) (move : Move σ) :
    Doomed child (s.step move) where
  toAccounted := h.toAccounted.step move
  started := h.started_step move h.started
  condemned := by
    rintro other t ht rfl
    have hbefore : s.multiplexer.registry.child? other = some t.child := by
      have hafter : (s.step move).multiplexer.registry.child? other = some t.child := by
        rw [Registry.child?, ht]
        rfl
      exact (h.child?_step move hafter).resolve_right (Nat.ne_of_lt h.started)
    obtain ⟨session, hs, hchild⟩ := Option.map_eq_some_iff.mp hbefore
    rcases h.session_step move hs with ⟨t', ht', -, hmark⟩ | ⟨hgone, -⟩
    · obtain rfl : t' = t := Option.some.inj (ht'.symm.trans ht)
      exact hmark (h.condemned other session hs hchild)
    · rw [ht] at hgone
      cases hgone

theorem Doomed.run {child : ChildId} (h : Doomed child s) (moves : List (Move σ)) :
    Doomed child (s.run moves) :=
  run_invariant (fun _ move h => h.step move) moves h

/-- **When a pass ends**, no session has a doomed child any more. -/
theorem Doomed.child?_finished {child : ChildId} (h : Doomed child s) {now : Nat}
    (hphase : s.loop.phase = .finishing now) (name : String) :
    (s.step .loop).multiplexer.registry.child? name ≠ some child := by
  intro hchild
  obtain ⟨session, hs, heq⟩ := Option.map_eq_some_iff.mp hchild
  have hmark := (h.step .loop).condemned name session hs heq
  have hstep : (s.step .loop).multiplexer =
      (s.multiplexer.finishPass now s.loop.lastSweep).2 := by
    simp [Service.step, Multiplexer.loopStep, hphase]
  rw [hstep] at hs
  rw [condemned_finishPass h.inOrder h.marksAsk now _ hs] at hmark
  cases hmark

/-- The children of the sessions that were opened, in order. -/
theorem openings_run (config : SessionConfig) (host : σ) (lastSweep : Nat)
    (moves : List (Move σ)) :
    let s := (start config host lastSweep).run moves
    ((start config host lastSweep).history moves).filterMap (·.child?) =
      List.range s.multiplexer.registry.spawnCount := by
  refine (run_induction (C := fun _ => True) (P := fun s history => s.Sound ∧
    history.filterMap (·.child?) = List.range s.multiplexer.registry.spawnCount)
    (fun s history move _ h => ⟨h.1.step move, ?_⟩) (fun _ _ => trivial)
    ⟨sound_start config host lastSweep, rfl⟩).2
  obtain ⟨hsound, hchildren⟩ := h
  have htold : ((s.newsOf move).map SessionEntry.told).filterMap (·.child?) = [] := by
    simp [SessionEntry.child?]
  rw [List.filterMap_append, hchildren, entriesOf, List.filterMap_append, htold,
    List.append_nil]
  rcases hsound.held_step move with ⟨hopening, -, hcount⟩ | ⟨name, hopening, -, hcount⟩
  · rw [hopening, hcount]
    exact List.append_nil _
  · rw [hopening, hcount, List.range_succ]
    rfl

/-- **No session that is to end and no child is forgotten.** Whatever the owner asks for, whatever
the loop does and whatever comes of it at the host:

* if a session is condemned, a sweep is asked for, and once a pass has ended, be it this one or the
  next, no session has the child any more;
* a move leaves a session live with its child, and condemned if it was, unless it is the end of a
  pass and the session is condemned or was silent for too long, or the loop stops;
* the children that were started are the numbers of the sessions that were opened, in order, and
  each of them is in one place: with a live session, among those that are to be collected, or among
  those that are. -/
theorem children_run (config : SessionConfig) (host : σ) (lastSweep : Nat)
    (moves : List (Move σ)) :
    let s := (start config host lastSweep).run moves
    let history := (start config host lastSweep).history moves
    (∀ name session, s.multiplexer.registry.session? name = some session →
      session.condemned = true → s.multiplexer.registry.sweepDue = true ∧
        ∀ later now, (s.run later).loop.phase = .finishing now → ∀ other,
          ((s.run later).step .loop).multiplexer.registry.child? other ≠ some session.child) ∧
    (∀ move name session, s.multiplexer.registry.session? name = some session →
      Stays session name (s.step move) ∨
        ((s.step move).multiplexer.registry.session? name = none ∧ move = .loop ∧
          s.MayEnd session)) ∧
    s.multiplexer.registry.held.Perm (history.filterMap (·.child?)) ∧
    history.filterMap (·.child?) = List.range s.multiplexer.registry.spawnCount := by
  intro s history
  have h : s.Accounted := (accounted_start config host lastSweep).run moves
  have hopenings := openings_run config host lastSweep moves
  refine ⟨fun name session hs hmark => ⟨h.marksAsk name session hs hmark, ?_⟩, ?_, ?_, hopenings⟩
  · intro later now hphase
    exact ((h.doomed hs hmark).run later).child?_finished hphase
  · intro move name session hs
    exact h.session_step move hs
  · exact h.held.trans (.of_eq hopenings.symm)

/-- One of two sessions is killed while the loop is about to read. At the end of the pass it is
removed, and its child is left to be collected. -/
theorem children_run_killed :
    let host : Script := { collects := [false, false] }
    let opens (name : String) : Move Script := .request (.openSession name none 1 1)
    let moves : List (Move Script) :=
      [opens "a", opens "b", .loop, .request (.kill "a"), .loop, .loop, .loop]
    let s := (start {} host 0).run moves
    ∃ session, (s.multiplexer.registry.session? "a" = some session ∧ session.condemned = true ∧
        s.loop.phase = .finishing 3) ∧
      s.multiplexer.registry.sweepDue = true ∧
      (∀ other, (s.step .loop).multiplexer.registry.child? other ≠ some session.child) ∧
      (Stays session "a" (s.step .loop) ∨
        ((s.step .loop).multiplexer.registry.session? "a" = none ∧
          (Move.loop : Move Script) = .loop ∧ s.MayEnd session)) ∧
      (s.step .loop).multiplexer.registry.roster = [("b", 1)] ∧
      (s.step .loop).multiplexer.registry.zombies = [0] := by
  intro host opens moves s
  have hphase : s.loop.phase = .finishing 3 := by decide +kernel
  have hlive : (s.multiplexer.registry.session? "a").any (·.condemned) = true := by decide +kernel
  have hroster : (s.step .loop).multiplexer.registry.roster = [("b", 1)] := by decide +kernel
  have hzombies : (s.step .loop).multiplexer.registry.zombies = [0] := by decide +kernel
  obtain ⟨session, hs, hmark⟩ := (Option.any_eq_true _ _).mp hlive
  have hall := children_run {} host 0 moves
  -- the run has been evaluated, and is not to be again
  rw [show (start {} host 0).run moves = s from rfl] at hall
  clear_value s
  obtain ⟨hdue, hgone⟩ := hall.1 "a" session hs hmark
  exact ⟨session, ⟨hs, hmark, hphase⟩, hdue, hgone [] 3 hphase,
    hall.2.1 .loop "a" session hs, hroster, hzombies⟩

end Service

end GlassTty
