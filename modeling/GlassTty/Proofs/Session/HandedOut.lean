import GlassTty.Proofs.Session.Condemned
import GlassTty.Proofs.Terminal.Requests

/-!
# Sessions that are handed out

A session that is asked for by its name is handed out if it is live, and it is live until the sweep,
whether it is condemned or not. So what can be said of it depends on that
(`GlassTty.Service.handed_out_run`):

* one that is not condemned is later removed for its silence (`GlassTty.Service.Silent`) or for
  something that has happened to it since (`GlassTty.Service.EndedBy`);
* one that is condemned goes with the next sweep all the same, and nothing tells so.

A session that is not to end (`GlassTty.Service.Spared`) stays so with every move that does not end
it, and from that along a run.
-/

namespace GlassTty

variable {σ : Type}

/-- A terminal keeps its cookie with another size. -/
theorem Terminal.cookie_resize (t : Terminal) (height width : UInt16) :
    (t.resize height.toNat width.toNat).cookie = t.cookie := by
  let request : Terminal.Operation := .resize height width
  have hsurroundings : (t.operate default request).1.surroundings =
      t.surroundings.afterRequest t default request := t.surroundings_operate default rfl
  have hsetup := (t.surroundings.frame_afterRequest t default request).1
  exact congrArg (·.cookie) ((congrArg Surroundings.setup hsurroundings).trans hsetup)

namespace Multiplexer

open SessionHost

variable [SessionHost σ] {m : Multiplexer σ} {other : String}

/-! ### What is handed out -/

theorem session?_resizeSession (m : Multiplexer σ) (other : String) (s : Session)
    (height width : Nat) :
    ∃ s', (m.resizeSession other s height width).registry.session? other = some s' ∧
      s'.terminal = s.terminal.resize height width := by
  have hput (t : Session) : (m.registry.put other t).session? other = some t :=
    (Registry.session?_put ..).trans (if_pos rfl)
  unfold resizeSession
  dsimp only
  split
  · exact ⟨_, hput _, rfl⟩
  · refine ⟨{ s with terminal := s.terminal.resize height width, condemned := true }, ?_, rfl⟩
    unfold kill mapRegistry
    dsimp only
    rw [Registry.condemn_of_some (hput _)]
    exact (Registry.session?_put ..).trans (if_pos rfl)

/-- A new session has the cookie that was made up for it, and is not condemned. -/
theorem openNew_ok {command : Option String} {height width : Nat} {given cookie : String}
    (h : (m.openNew other command height width).1 = .ok (given, cookie)) :
    given = other ∧
      (m.openNew other command height width).2.registry.alive = m.registry.alive ∧
      ∃ session,
        (m.openNew other command height width).2.registry.session? other = some session ∧
        session.terminal.cookie = cookie ∧ session.condemned = false := by
  unfold openNew at h ⊢
  dsimp only at h ⊢
  rcases spawnNext_cases { m with host := (secret m.host).2 }
      (spawnRequest { m with host := (secret m.host).2 } other (secret m.host).1 command
        height width) with
    ⟨error, m', -, -, heq⟩ | ⟨host, -, heq⟩
  · rw [heq] at h
    cases h
  · rw [heq] at h ⊢
    cases h
    exact ⟨rfl, rfl, _, (Registry.session?_put ..).trans (if_pos rfl), rfl, rfl⟩

/-- **A session that is handed out** is live, with its cookie, and not condemned if it is new. -/
theorem openSized_ok {asked command : Option String} {height width : UInt16}
    {given cookie : String}
    (h : (m.openSized asked command height width).1 = .ok (given, cookie)) :
    m.registry.alive = true ∧ ∃ session,
      (m.openSized asked command height width).2.registry.session? given = some session ∧
      session.terminal.cookie = cookie ∧
      (m.registry.session? given = none → session.condemned = false ∧
        (m.openSized asked command height width).2.registry.alive = true) := by
  cases halive : m.registry.alive with
  | false =>
    rw [openSized_of_stopped halive] at h
    cases h
  | true =>
    have heq := openSized_of_alive halive asked command height width
    generalize m.registry.chosenCount asked = count at heq
    rw [heq] at h ⊢
    dsimp only at h ⊢
    cases hs : m.registry.session? (m.registry.chosenName asked) with
    | some s =>
      rw [hs] at h
      cases h
      obtain ⟨s', hs', hterminal⟩ := (m.counted count).session?_resizeSession
        (m.registry.chosenName asked) s (max height.toNat 1) (max width.toNat 1)
      refine ⟨rfl, s', hs', ?_, fun hnone => ?_⟩
      · obtain ⟨height', hheight⟩ := exists_toNat_eq_max height
        obtain ⟨width', hwidth⟩ := exists_toNat_eq_max width
        rw [hterminal, ← hheight, ← hwidth, Terminal.cookie_resize]
      · rw [hs] at hnone
        cases hnone
    | none =>
      rw [hs] at h
      obtain ⟨rfl, hkept, session, hnew, hcookie, hfree⟩ := openNew_ok h
      exact ⟨rfl, session, hnew, hcookie, fun _ => ⟨hfree, hkept.trans halive⟩⟩

end Multiplexer

namespace Service

variable [SessionHost σ] {s : Service σ} {name : String} {session : Session}

/-! ### Sessions that are not to end -/

/-- **A session that is not to end**: it is live with its child, it is not condemned, and the loop
is not to stop. -/
structure Spared (s : Service σ) (name : String) (child : ChildId) : Prop extends s.Accounted where
  alive : s.multiplexer.registry.alive = true
  session : ∃ session, s.multiplexer.registry.session? name = some session ∧
    session.child = child ∧ session.condemned = false

/-- **A session is removed for its silence**: the pass ends, and its last output came longer ago
than the timeout. -/
def Silent (s : Service σ) (name : String) : Prop :=
  ∃ now session, s.loop.phase = .finishing now ∧
    s.multiplexer.registry.session? name = some session ∧
    s.multiplexer.config.idleTimeout < now - session.outputTime

omit [SessionHost σ] in
/-- Nobody is silent for long before the timeout has passed at all. -/
theorem not_silent_of_le {now : Nat} (hphase : s.loop.phase = .finishing now)
    (hnow : now ≤ s.multiplexer.config.idleTimeout) : ¬ s.Silent name := by
  rintro ⟨now', session, hphase', -, hsilent⟩
  rw [hphase] at hphase'
  cases hphase'
  exact Nat.not_lt.mpr ((Nat.sub_le ..).trans hnow) hsilent

variable {child : ChildId}

omit [SessionHost σ] in
theorem Spared.child? (h : s.Spared name child) :
    s.multiplexer.registry.child? name = some child := by
  obtain ⟨session, hs, rfl, -⟩ := h.session
  rw [Registry.child?, hs]
  rfl

omit [SessionHost σ] in
/-- Nothing but its silence may end the session. -/
theorem Spared.silent (h : s.Spared name child)
    (hs : s.multiplexer.registry.session? name = some session) (hmay : s.MayEnd session) :
    s.Silent name := by
  obtain ⟨session', hs', -, hfree⟩ := h.session
  obtain rfl : session' = session := Option.some.inj (hs'.symm.trans hs)
  rcases hmay with ⟨now, hphase, hmark | hsilent⟩ | ⟨-, hstopped⟩
  · rw [hfree] at hmark
    cases hmark
  · exact ⟨now, session', hphase, hs, hsilent⟩
  · rw [h.alive] at hstopped
    cases hstopped

/-- A session that is not to end stays so with a move that does not end it, unless it was silent. -/
theorem Spared.step (h : s.Spared name child) {move : Move σ} (hmove : ¬ s.EndedBy name move) :
    (s.step move).Spared name child ∨
      ((s.step move).multiplexer.registry.session? name = none ∧ move = .loop ∧ s.Silent name) := by
  obtain ⟨session, hs, rfl, hfree⟩ := h.session
  rcases h.session_step move hs with ⟨session', hs', hchild, -⟩ | ⟨hgone, hloop, hmay⟩
  · left
    have hcondemned := h.condemned_step move hs hs'
    exact
      { toAccounted := h.toAccounted.step move
        alive := ((h.marks_step move hs hs').spared hmove).2.trans h.alive
        session := ⟨session', hs', hchild, by
          refine Bool.eq_false_iff.mpr fun hmark => ?_
          rcases hcondemned.mp hmark with hwas | hend
          · rw [hfree] at hwas
            cases hwas
          · exact hmove hend⟩ }
  · exact .inr ⟨hgone, hloop, h.silent hs hmay⟩

/-- A child that was started is live behind a run only if it was before. -/
theorem Accounted.child?_of_run (h : s.Accounted)
    (hstarted : child < s.multiplexer.registry.spawnCount) (moves : List (Move σ))
    (hchild : (s.run moves).multiplexer.registry.child? name = some child) :
    s.multiplexer.registry.child? name = some child := by
  induction moves generalizing s with
  | nil => exact hchild
  | cons move rest ih =>
    have hstep := ih (h.step move) (h.started_step move hstarted) hchild
    exact (h.child?_step move hstep).resolve_right (Nat.ne_of_lt hstarted)

/-- **A session that is not to end is not to end behind a run either**, as long as it is live,
unless a move of the run ends it. -/
theorem Spared.run (h : s.Spared name child) (moves : List (Move σ))
    (hlive : (s.run moves).multiplexer.registry.child? name = some child) :
    (s.run moves).Spared name child ∨
      ∃ x cause y, moves = x ++ cause :: y ∧ (s.run x).EndedBy name cause := by
  induction moves generalizing s with
  | nil => exact .inl h
  | cons move rest ih =>
    by_cases hend : s.EndedBy name move
    · exact .inr ⟨[], move, rest, rfl, hend⟩
    · rcases h.step hend with hspared | ⟨hgone, -⟩
      · rcases ih hspared hlive with hrun | ⟨x, cause, y, rfl, hcause⟩
        · exact .inl hrun
        · exact .inr ⟨move :: x, cause, y, rfl, hcause⟩
      · -- what is removed does not come back
        have hstarted := h.started_step move (h.child_lt h.child?)
        have hback := (h.toAccounted.step move).child?_of_run hstarted rest hlive
        rw [Registry.child?, hgone] at hback
        cases hback

/-- **A session that is not to end is removed only for its silence or for what has happened to it
since.** -/
theorem Spared.removed (h : s.Spared name child) (later : List (Move σ)) (move : Move σ)
    (hlive : (s.run later).multiplexer.registry.child? name = some child)
    (hgone : ((s.run later).step move).multiplexer.registry.child? name ≠ some child) :
    move = .loop ∧ ((s.run later).Silent name ∨
      ∃ x cause y, later = x ++ cause :: y ∧ (s.run x).EndedBy name cause) := by
  obtain ⟨session, hs, hchild⟩ := Option.map_eq_some_iff.mp hlive
  rcases (h.toAccounted.run later).session_step move hs with
    ⟨session', hs', hchild', -⟩ | ⟨-, hloop, hmay⟩
  · refine absurd ?_ hgone
    rw [Registry.child?, hs', Option.map_some, hchild', hchild]
  · exact ⟨hloop, (h.run later hlive).imp_left fun hspared => hspared.silent hs hmay⟩

/-- **A session that is handed out.** Whatever the owner has asked for before, whatever the loop
does and whatever comes of it at the host: if a session is asked for and one is handed out, whose
window could be given the size if it was there already, then

* it is live under the name that is handed out, with the cookie;
* it is condemned exactly if the session of that name was before, and in that case no session has
  its child any more once a pass has ended;
* if it is not condemned, it is later removed by the loop alone, and only for its silence or for
  something that has happened to it since it was handed out. -/
theorem handed_out_run (config : SessionConfig) (host : σ) (lastSweep : Nat) (moves : List (Move σ))
    (asked command : Option String) (height width : UInt16) {given cookie : String} :
    let s := (start config host lastSweep).run moves
    let after := s.step (.request (.openSession asked command height width))
    (s.multiplexer.openSized asked command height width).1 = .ok (given, cookie) →
    s.multiplexer.resizingFails given (max height.toNat 1) (max width.toNat 1) = false →
    ∃ session, after.multiplexer.registry.session? given = some session ∧
      session.terminal.cookie = cookie ∧
      (session.condemned = true ↔ s.multiplexer.registry.mark? given = some true) ∧
      (session.condemned = true → ∀ later now, (after.run later).loop.phase = .finishing now →
        ∀ other, ((after.run later).step .loop).multiplexer.registry.child? other ≠
          some session.child) ∧
      (session.condemned = false → ∀ later move,
        (after.run later).multiplexer.registry.child? given = some session.child →
        ((after.run later).step move).multiplexer.registry.child? given ≠ some session.child →
        move = .loop ∧ ((after.run later).Silent given ∨
          ∃ x cause y, later = x ++ cause :: y ∧ (after.run x).EndedBy given cause)) := by
  intro s after hok hworks
  have h : s.Accounted := (accounted_start config host lastSweep).run moves
  have hafter : after.Accounted := h.step _
  obtain ⟨hopen, session, hs', hcookie, hnew⟩ := Multiplexer.openSized_ok hok
  let request : Move σ := .request (.openSession asked command height width)
  have hnot : ¬ s.EndedBy given request := by
    rintro ⟨-, -, hfails⟩
    rw [hworks] at hfails
    cases hfails
  have hmarks : s.multiplexer.registry.mark? given = some true ↔ session.condemned = true := by
    cases hs : s.multiplexer.registry.session? given with
    | none => simp [Registry.mark?, hs, (hnew hs).1]
    | some earlier =>
      rw [h.condemned_step request hs hs', or_iff_left hnot, Registry.mark?, hs]
      exact Option.some_inj
  have halive : after.multiplexer.registry.alive = true := by
    cases hs : s.multiplexer.registry.session? given with
    | none => exact (hnew hs).2
    | some earlier => exact ((h.marks_step request hs hs').spared hnot).2.trans hopen
  refine ⟨session, hs', hcookie, hmarks.symm, fun hcondemned later now hphase => ?_,
    fun hfree later move hlive hgone => ?_⟩
  · exact ((hafter.doomed hs' hcondemned).run later).child?_finished hphase
  · have hspared : after.Spared given session.child :=
      { toAccounted := hafter
        alive := halive
        session := ⟨session, hs', rfl, hfree⟩ }
    exact hspared.removed later move hlive hgone

/-- A live session is asked for again, and is killed thereafter. The kill is why it is removed. -/
theorem handed_out_run_killed :
    let opens : Move Script := .request (.openSession (some "a") none 1 1)
    let s := (start {} ({} : Script) 0).run [opens]
    let after := s.step opens
    let later : List (Move Script) := [.request (.kill "a"), .loop, .loop, .loop]
    ((s.multiplexer.openSized (some "a") none 1 1).1 = .ok ("a", "") ∧
      s.multiplexer.resizingFails "a" 1 1 = false) ∧
    after.multiplexer.registry.mark? "a" = some false ∧
    ((after.run later).multiplexer.registry.child? "a" = some 0 ∧
      ((after.run later).step .loop).multiplexer.registry.child? "a" = none) ∧
    ¬ (after.run later).Silent "a" ∧
    ∃ x cause y, later = x ++ cause :: y ∧ (after.run x).EndedBy "a" cause := by
  intro opens s after later
  have hok : (s.multiplexer.openSized (some "a") none 1 1).1 = .ok ("a", "") := by decide +kernel
  have hworks : s.multiplexer.resizingFails "a" 1 1 = false := by decide +kernel
  have hmark : after.multiplexer.registry.mark? "a" = some false := by decide +kernel
  have hchild : after.multiplexer.registry.child? "a" = some 0 := by decide +kernel
  have hlive : (after.run later).multiplexer.registry.child? "a" = some 0 := by decide +kernel
  have hgone : ((after.run later).step .loop).multiplexer.registry.child? "a" = none := by
    decide +kernel
  have hphase : (after.run later).loop.phase = .finishing 2 := by decide +kernel
  have hheard : ¬ (after.run later).Silent "a" := not_silent_of_le hphase (by decide +kernel)
  have hall := handed_out_run {} ({} : Script) 0 [opens] (some "a") none 1 1 hok hworks
  -- the run has been evaluated, and is not to be again
  rw [show ((start {} ({} : Script) 0).run [opens]).step opens = after from rfl] at hall
  clear_value after
  obtain ⟨session, hs, -, -, -, hremoved⟩ := hall
  have hfree : session.condemned = false := by
    have hmark' := hmark
    rw [Registry.mark?, hs] at hmark'
    exact Option.some.inj hmark'
  have hfirst : session.child = 0 := by
    rw [Registry.child?, hs] at hchild
    exact Option.some.inj hchild
  rw [hfirst] at hremoved
  have hend : ((after.run later).step .loop).multiplexer.registry.child? "a" ≠ some 0 := by
    rw [hgone]
    exact (Option.some_ne_none 0).symm
  obtain ⟨-, hcause⟩ := hremoved hfree later .loop hlive hend
  exact ⟨⟨hok, hworks⟩, hmark, ⟨hlive, hgone⟩, hheard, hcause.resolve_left hheard⟩

/-- A session is killed, and is handed out all the same before the pass has ended. The end of the
pass removes it, for nothing that has happened since. -/
theorem handed_out_condemned :
    let opens : Move Script := .request (.openSession (some "a") none 1 1)
    let s := (start {} ({} : Script) 0).run [opens, .loop, .loop, .loop, .request (.kill "a")]
    let after := s.step opens
    (s.multiplexer.openSized (some "a") none 1 1).1 = .ok ("a", "") ∧
    s.multiplexer.resizingFails "a" 1 1 = false ∧
    (after.multiplexer.registry.child? "a" = some 0 ∧
      (after.step .loop).multiplexer.registry.child? "a" = none) ∧
    ¬ after.Silent "a" ∧ after.multiplexer.registry.mark? "a" = some true := by
  intro opens s after
  have hphase : after.loop.phase = .finishing 2 := by decide +kernel
  exact ⟨by decide +kernel, by decide +kernel, ⟨by decide +kernel, by decide +kernel⟩,
    not_silent_of_le hphase (by decide +kernel), by decide +kernel⟩

end Service

end GlassTty
