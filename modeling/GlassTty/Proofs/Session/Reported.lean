import GlassTty.Proofs.Session.Steps
import GlassTty.Proofs.Terminal.Due

/-!
# Nothing is left unreported

A session is to be updated if its terminal says so or if output came behind the last update. The
first alone is not enough: a payload that ends in the midst of output brings an update with it,
which clears the flag, and the output behind it does not set it again
(`GlassTty.Terminal.not_due_behind_payload`). The second makes up for that, as long as the clock
goes forward: each piece of output is noted with a time behind that of the last update. So a session
that is never to be updated any more has nothing left to tell
(`GlassTty.Service.nothing_unreported`).

What is carried along is that the last update lies in the past (`GlassTty.IsPast`), and that a
terminal with no output behind it is settled unless it says otherwise (`GlassTty.Session.Reported`).
The time of an update may be noted before the update is made, with requests in between, but no
output comes in between.
-/

namespace GlassTty

open Multiplexer (Handled Tending Tends)
open SessionHost (clock)

variable {σ : Type} [SessionHost σ]

/-! ### Time -/

/-- What may become of a host while the moves of a run are made. -/
inductive Happens (moves : List (Move σ)) (host : σ) : σ → Prop
  | handled {host' : σ} (h : Handled host host') : Happens moves host host'
  | looked : Happens moves host (clock host).2
  | elsewhere {change : σ → σ} (h : .elsewhere change ∈ moves) : Happens moves host (change host)

/-- **The clock goes forward**: a look at it shows a later time than every look before. -/
def ClockAdvances (moves : List (Move σ)) : Prop :=
  ∀ host host' : σ, Relation.ReflTransGen (Happens moves) (clock host).2 host' →
    (clock host).1 < (clock host').1

/-- A time is past: the clock will show later ones only. -/
def IsPast (moves : List (Move σ)) (time : Nat) (host : σ) : Prop :=
  ∀ host', Relation.ReflTransGen (Happens moves) host host' → time < (clock host').1

variable {moves : List (Move σ)} {time : Nat} {host host' : σ}

theorem IsPast.happens (h : IsPast moves time host) (hstep : Happens moves host host') :
    IsPast moves time host' :=
  fun _ hlater => h _ (.head hstep hlater)

theorem IsPast.handles (h : IsPast moves time host) (hsteps : Multiplexer.Handles host host') :
    IsPast moves time host' := by
  induction hsteps with
  | refl => exact h
  | tail _ hlast ih => exact ih.happens (.handled hlast)

theorem IsPast.lt_clock (h : IsPast moves time host) : time < (clock host).1 :=
  h host .refl

theorem ClockAdvances.isPast (h : ClockAdvances moves) (host : σ) :
    IsPast moves (clock host).1 (clock host).2 :=
  h host

/-! ### Sessions -/

/-- **All is reported up to the last update**: it lies in the past, and if no output came behind it,
the terminal is settled unless it says that an update is due. -/
structure Session.Reported (moves : List (Move σ)) (host : σ) (s : Session) : Prop where
  valid : s.terminal.Valid
  past : ∀ time ∈ s.updateTime, IsPast moves time host
  settled : ∀ time ∈ s.updateTime, s.outputTime ≤ time → s.terminal.SettledUnlessDue

namespace Session.Reported

variable {s : Session}

theorem happens (h : s.Reported moves host) (hstep : Happens moves host host') :
    s.Reported moves host' :=
  { h with past := fun time htime => (h.past time htime).happens hstep }

theorem handles (h : s.Reported moves host) (hsteps : Multiplexer.Handles host host') :
    s.Reported moves host' :=
  { h with past := fun time htime => (h.past time htime).handles hsteps }

/-- What is asked of a terminal leaves it settled, or it says that an update is due. -/
theorem ask (h : s.Reported moves host) (files : FileSystem) {operation : Terminal.Operation}
    (hquiet : operation.isQuiet = true) :
    Session.Reported moves host
      { s with terminal := (s.terminal.operate files operation).1 } where
  valid := h.valid.operate files operation
  past := h.past
  settled := by
    intro time htime houtput
    refine (h.settled time htime houtput).operate h.valid files operation ?_
    -- no byte is interpreted
    cases operation with
    | write bytes => cases hquiet
    | _ => exact fun _ hm => by cases hm

/-- Output comes behind the last update. -/
theorem output (h : s.Reported moves host) (files : FileSystem) (bytes : Bytes) :
    Session.Reported moves (clock host).2
      { s with terminal := (s.terminal.write files bytes).1, outputTime := (clock host).1 } where
  valid := h.valid.operate files (.write bytes)
  past := fun time htime => (h.past time htime).happens .looked
  settled := by
    intro time htime houtput
    exact absurd (h.past time htime).lt_clock (Nat.not_lt.mpr houtput)

/-- An update settles. -/
theorem update (h : s.Reported moves host) {now : Nat} (hnow : IsPast moves now host') :
    Session.Reported moves host'
      { s with terminal := s.terminal.update, updateTime := some now } where
  valid := h.valid.operate default .update
  past := by
    rintro time htime
    rwa [← Option.mem_some.mp htime]
  settled := fun _ _ _ _ => Terminal.settled_update h.valid.toInBounds

/-- **A session that is never to be updated** has nothing left to tell. -/
theorem update_eq (h : s.Reported moves host) {interval present : Nat}
    (hquiet : ∀ now, present ≤ now → s.updateDue now interval = false) :
    s.terminal.update =
      s.terminal.tell (.rowUpdate "" (s.terminal.rowUpdate .nothing)) := by
  cases hupdate : s.updateTime with
  | none =>
    -- without an update before, one is due
    have hdue := hquiet present le_rfl
    simp [updateDue, hupdate] at hdue
  | some time =>
    have hdue := hquiet (max present (time + interval)) (le_max_left _ _)
    have hlong : interval ≤ max present (time + interval) - time := by omega
    simp only [updateDue, hupdate, Option.all_some, hlong, decide_true, Bool.and_true,
      Bool.or_eq_false_iff, decide_eq_false_iff_not, Nat.not_lt] at hdue
    exact (h.settled time hupdate hdue.2 hdue.1).update_eq

end Session.Reported

/-! ### What is done to sessions -/

namespace Multiplexer

/-- All sessions are reported up to their last updates. -/
def Reported (moves : List (Move σ)) (m : Multiplexer σ) : Prop :=
  ∀ name s, m.registry.session? name = some s → s.Reported moves m.host

variable {m m' : Multiplexer σ} {noted : Option Nat} {name : String} {s t : Session}

theorem Reported.happens (h : m.Reported moves) (hstep : Happens moves m.host host) :
    Multiplexer.Reported moves { m with host } :=
  fun name s hs => (h name s hs).happens hstep

/-- One session is changed while the host may change. -/
theorem Reported.put (h : m.Reported moves) (ht : t.Reported moves host)
    (hothers : ∀ s : Session, s.Reported moves m.host → s.Reported moves host) :
    Multiplexer.Reported moves { m with host, registry := m.registry.put name t } := by
  intro other u hu
  have hput := (Registry.session?_put m.registry name t other).symm.trans hu
  split at hput
  · cases hput
    exact ht
  · exact hothers u (h other u hput)

theorem Tending.reported (hclock : ClockAdvances moves) (h : m.Reported moves)
    (hnoted : ∀ now ∈ noted, IsPast moves now m.host) (hstep : Tending noted m m') :
    m'.Reported moves := by
  cases hstep with
  | handle hhost => exact h.happens (.handled hhost)
  | look => exact h.happens .looked
  | count n => exact h
  | ask hs files operation hquiet => exact h.put ((h _ _ hs).ask files hquiet) fun _ => id
  | output hs files bytes =>
    exact h.put ((h _ _ hs).output files bytes) fun _ hs => hs.happens .looked
  | report hnow hs => exact h.put ((h _ _ hs).update (hnoted _ hnow)) fun _ => id
  | conclude hs =>
    exact h.put ((h _ _ hs).update (hclock.isPast m.host)) fun _ hs => hs.happens .looked
  | tell hlive events => exact h
  | condemn name =>
    unfold Multiplexer.kill mapRegistry
    dsimp only
    cases hs : m.registry.session? name with
    | none =>
      rw [Registry.condemn_of_none hs]
      exact h
    | some s =>
      rw [Registry.condemn_of_some hs]
      exact h.put (t := { s with condemned := true }) { h name s hs with } fun _ => id
  | condemnAll =>
    intro name s hs
    have hall := (m.registry.session?_condemnAll name).symm.trans hs
    obtain ⟨t, ht, rfl⟩ := Option.map_eq_some_iff.mp hall
    exact { h name t ht with }
  | stop => exact h

/-- A time that is past stays so. -/
theorem Tending.isPast (h : IsPast moves time m.host) (hstep : Tending noted m m') :
    IsPast moves time m'.host := by
  cases hstep with
  | handle hhost => exact h.happens (.handled hhost)
  | look => exact h.happens .looked
  | output hs files bytes => exact h.happens .looked
  | conclude hs => exact h.happens .looked
  | _ => exact h

theorem Tends.isPast (h : IsPast moves time m.host) (hsteps : Tends noted m m') :
    IsPast moves time m'.host := by
  induction hsteps with
  | refl => exact h
  | tail _ hlast ih => exact hlast.isPast ih

/-- **Whatever is done to the sessions, they stay reported.** -/
theorem Tends.reported (hclock : ClockAdvances moves) (h : m.Reported moves)
    (hnoted : ∀ now ∈ noted, IsPast moves now m.host) (hsteps : Tends noted m m') :
    m'.Reported moves := by
  induction hsteps with
  | refl => exact h
  | tail hfirst hlast ih =>
    exact hlast.reported hclock ih fun now hnow => Tends.isPast (hnoted now hnow) hfirst

theorem Removes.reported {names : List String} (hremoves : Removes names m m')
    (h : m.Reported moves) : m'.Reported moves := by
  intro name s hs
  have hbefore := (hremoves.session? name).symm.trans hs
  split at hbefore
  · cases hbefore
  · exact (h name s hbefore).handles hremoves.host

theorem toNat_le_maxWord (size : UInt16) : size.toNat ≤ maxWord :=
  Nat.le_of_lt_succ size.toNat_lt

/-- A new session has not been updated. -/
theorem Reported.withNew (h : m.Reported moves) (name cookie : String) (height width : UInt16)
    (now : Nat) : (m.withNew name cookie height width now).Reported moves := by
  refine Reported.put (m := { m with registry :=
    { m.registry with spawnCount := m.registry.spawnCount + 1 } }) h ?_ fun _ => id
  exact
    { valid := Terminal.valid_new _ (toNat_le_maxWord width) (toNat_le_maxWord height)
      past := fun _ htime => by cases htime
      settled := fun _ htime => by cases htime }

end Multiplexer

/-! ### Moves and runs -/

namespace Service

/-- All sessions are reported, and the time that the loop has noted for their updates is past. -/
structure Reported (moves : List (Move σ)) (s : Service σ) : Prop where
  sessions : s.multiplexer.Reported moves
  noted : ∀ now, s.loop.phase = .finishing now → IsPast moves now s.multiplexer.host

variable {s : Service σ}

theorem Reported.step (hclock : ClockAdvances moves) (h : s.Reported moves) {move : Move σ}
    (hmove : move ∈ moves) : (s.step move).Reported moves := by
  have htakes := s.takes move
  generalize s.step move = after at htakes
  cases htakes with
  | served _ htended =>
    exact ⟨htended.reported hclock h.sessions (by simp),
      fun now hphase => htended.isPast (h.noted now hphase)⟩
  | @opened _ _ _ m' height width _ _ htended _ _ =>
    have hpast : ∀ now, s.loop.phase = .finishing now → IsPast moves now m'.host :=
      fun now hphase => htended.isPast (h.noted now hphase)
    refine ⟨(htended.reported hclock h.sessions (by simp)).withNew _ _ height width _, hpast⟩
  | elsewhere change =>
    have hstep : Happens moves s.multiplexer.host (change s.multiplexer.host) := .elsewhere hmove
    exact ⟨h.sessions.happens hstep, fun now hphase => (h.noted now hphase).happens hstep⟩
  | rested hphase => exact h
  | read names hphase htended =>
    exact ⟨htended.reported hclock h.sessions (by simp), fun _ hphase => by cases hphase⟩
  | looked hphase =>
    refine ⟨h.sessions.happens .looked, fun now hnow => ?_⟩
    cases hnow
    exact hclock.isPast _
  | @finished now hphase =>
    have hflushed := (s.multiplexer.tends_flush now).reported hclock h.sessions (by
      rintro _ hnow
      rw [← Option.mem_some.mp hnow]
      exact h.noted now hphase)
    refine ⟨?_, fun _ hphase => by cases hphase⟩
    obtain ⟨names, hremoves, -⟩ := s.multiplexer.removes_finishPass now s.loop.lastSweep
    exact hremoves.reported hflushed
  | stopped hphase halive =>
    exact ⟨s.multiplexer.removes_stop.reported h.sessions, fun _ hphase => by cases hphase⟩

theorem reported_run (hclock : ClockAdvances moves) (config : SessionConfig) (host : σ)
    (lastSweep : Nat) : ((start config host lastSweep).run moves).Reported moves :=
  run_induction (C := (· ∈ moves)) (P := fun s _ => s.Reported moves)
    (fun _ _ _ hmove h => h.step hclock hmove) (fun _ => id)
    { sessions := fun _ _ hs => by cases hs
      noted := fun _ hphase => by cases hphase }

/-- **Nothing is left unreported.** Let the clock go forward. Whatever the owner asks for, whatever
the loop does and whatever comes of it at the host: if from some time on a session is never to be
updated, then an update would tell nothing new, neither all of the screen nor a row of it nor a line
of the scrollback, and leave the terminal as it is. -/
theorem nothing_unreported (config : SessionConfig) (host : σ) (lastSweep : Nat)
    (moves : List (Move σ)) (hclock : ClockAdvances moves) (name : String) (session : Session)
    (present : Nat) :
    let s := (start config host lastSweep).run moves
    s.multiplexer.registry.session? name = some session →
    (∀ now, present ≤ now →
      session.updateDue now s.multiplexer.config.updateInterval = false) →
    session.terminal.update =
      session.terminal.tell (.rowUpdate "" (session.terminal.rowUpdate .nothing)) := by
  intro s hlive hquiet
  exact ((reported_run hclock config host lastSweep).sessions name session hlive).update_eq hquiet

/-- The clock of a script goes forward. -/
theorem clockAdvances_script (moves : List (Move Script))
    (helsewhere : ∀ change, .elsewhere change ∈ moves → ∀ host, host.time ≤ (change host).time) :
    ClockAdvances moves := by
  intro host host' hlater
  have hstep : ∀ before after : Script, Happens moves before after → before.time ≤ after.time := by
    intro before after h
    cases h with
    | handled h => cases h <;> exact le_rfl
    | looked => exact Nat.le_succ _
    | elsewhere h => exact helsewhere _ h before
  have htime : (clock host).2.time ≤ host'.time := by
    induction hlater with
    | refl => exact le_rfl
    | tail _ hlast ih => exact ih.trans (hstep _ _ hlast)
  exact Nat.lt_succ_of_le htime

/-- A payload that ends in the midst of output. Behind the output the terminal does not say that an
update is due, but the session does. Behind the next pass it does not any more, and all is told. -/
theorem nothing_unreported_payload :
    let config : SessionConfig := { updateMillis := 0 }
    let host : Script :=
      { reads := [.data (utf8Bytes "a"), .data (utf8Bytes "b\x1b[?1155;0hx\x1b[?1155lc")] }
    let before : List (Move Script) :=
      [.request (.openSession (some "a") none 2 2), .loop, .loop, .loop, .loop, .loop, .loop]
    let moves := before ++ [.loop, .loop]
    let s := (start config host 0).run before
    let quiet := (start config host 0).run moves
    (s.multiplexer.registry.session? "a").map
        (fun t => (t.terminal.needsUpdating, t.updateDue 5 0)) = some (false, true) ∧
    ∃ session, (ClockAdvances moves ∧ quiet.multiplexer.registry.session? "a" = some session ∧
        ∀ now, 0 ≤ now →
          session.updateDue now quiet.multiplexer.config.updateInterval = false) ∧
      session.terminal.update =
        session.terminal.tell (.rowUpdate "" (session.terminal.rowUpdate .nothing)) := by
  intro config host before moves s quiet
  have hclock : ClockAdvances moves := clockAdvances_script moves (by simp [moves, before])
  have hmidst : (s.multiplexer.registry.session? "a").map
      (fun t => (t.terminal.needsUpdating, t.updateDue 5 0)) = some (false, true) := by
    decide +kernel
  have hclean : (quiet.multiplexer.registry.session? "a").map
      (fun t => (t.terminal.needsUpdating, t.updateTime, t.outputTime)) =
        some (false, some 5, 4) := by
    decide +kernel
  have hreported := nothing_unreported config host 0 moves hclock "a"
  -- the run has been evaluated, and is not to be again
  rw [show (start config host 0).run moves = quiet from rfl] at hreported
  clear_value quiet
  obtain ⟨session, hsession, hfields⟩ := Option.map_eq_some_iff.mp hclean
  simp only [Prod.mk.injEq] at hfields
  obtain ⟨hdue, hupdate, houtput⟩ := hfields
  have hquiet : ∀ now, 0 ≤ now →
      session.updateDue now quiet.multiplexer.config.updateInterval = false := by
    intro now _
    simp [Session.updateDue, hdue, hupdate, houtput]
  exact ⟨hmidst, session, ⟨hclock, hsession, hquiet⟩, hreported session 0 hsession hquiet⟩

end Service

end GlassTty
