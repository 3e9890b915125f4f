import GlassTty.Proofs.Session.Steps

/-!
# The lifetimes of sessions

What the owner is told of a name are lifetimes (`GlassTty.Lifetime`), one after the other: a session
is opened, tells this and that and is closed. Nothing is told of the name before, in between or
behind, and a session that is live is in the midst of its lifetime
(`GlassTty.Service.lifetimes_run`).

How a move goes on with the history of one name is said by `GlassTty.Passage`. All moves but one
kind open nothing, and what they tell of a name is output, perhaps with the end behind it
(`GlassTty.Stretch`). These come one after the other in one move, when a session is updated and
then removed, and so they are closed under going on (`GlassTty.Stretch.trans`,
`GlassTty.Multiplexer.Speaks`). A name that is opened is passed over by the rest of the move.
-/

namespace GlassTty

variable {σ : Type}

/-! ### What is told of one name -/

/-- **What is told of a name** while no session is opened, between a state and a later one. The
child of the name, if it is live, is given for both. -/
inductive Stretch (name : String) : Option ChildId → List SessionEvent → Option ChildId → Prop
  /-- The name is free. -/
  | free : Stretch name none [] none
  | live (child : ChildId) (events : List TerminalEvent) :
    Stretch name (some child) (events.map (.output name)) (some child)
  /-- The session is removed. -/
  | ends (child : ChildId) (events : List TerminalEvent) :
    Stretch name (some child) (events.map (.output name) ++ [.closed name]) none

/-- **How a move goes on** with the history of a name. -/
inductive Passage (name : String) : Option ChildId → List SessionEntry → Option ChildId → Prop
  | stretch {before after : Option ChildId} {events : List SessionEvent}
    (h : Stretch name before events after) : Passage name before (events.map .told) after
  | opened (child : ChildId) : Passage name none [.opened name child] (some child)

variable {name : String} {a b c : Option ChildId}

theorem Stretch.trans {x y : List SessionEvent} (h : Stretch name a x b) (h' : Stretch name b y c) :
    Stretch name a (x ++ y) c := by
  cases h with
  | free => exact h'
  | live child events =>
    cases h' with
    | live _ later =>
      rw [← List.map_append]
      exact .live child (events ++ later)
    | ends _ later =>
      rw [← List.append_assoc, ← List.map_append]
      exact .ends child (events ++ later)
  | ends child events =>
    cases h' with
    | free =>
      rw [List.append_nil]
      exact .ends child events

/-- Where nothing is told, a session may go on. -/
theorem Stretch.silent (name : String) (a : Option ChildId) : Stretch name a [] a := by
  cases a with
  | none => exact .free
  | some child => exact .live child []

/-! ### Lifetimes -/

/-- What there is to say of one session: its child and what its terminal told. -/
structure Lifetime where
  child : ChildId
  events : List TerminalEvent

namespace Lifetime

/-- A lifetime so far. -/
def begun (name : String) (l : Lifetime) : List SessionEntry :=
  .opened name l.child :: l.events.map fun event => .told (.output name event)

/-- **A lifetime from its beginning to its end**: it ends once, and nothing is told behind. -/
def whole (name : String) (l : Lifetime) : List SessionEntry :=
  l.begun name ++ [.told (.closed name)]

end Lifetime

/-- **The history of a name**: lifetimes that have ended, and one that has not if the name is live,
with the child that it has. -/
def HasLifetimes (name : String) (child? : Option ChildId) (entries : List SessionEntry) : Prop :=
  ∃ (past : List Lifetime) (present : Option Lifetime),
    entries = past.flatMap (·.whole name) ++ present.toList.flatMap (·.begun name) ∧
      present.map (·.child) = child?

theorem HasLifetimes.nil (name : String) : HasLifetimes name none [] :=
  ⟨[], none, rfl, rfl⟩

/-- A session goes on or ends. -/
theorem HasLifetimes.stretch {entries : List SessionEntry} {events : List SessionEvent}
    (h : HasLifetimes name a entries) (hevents : Stretch name a events b) :
    HasLifetimes name b (entries ++ events.map .told) := by
  obtain ⟨past, present, rfl, hchild⟩ := h
  cases hevents with
  | free => exact ⟨past, present, by simp, hchild⟩
  | live child events =>
    obtain ⟨l, rfl, rfl⟩ := Option.map_eq_some_iff.mp hchild
    refine ⟨past, some { l with events := l.events ++ events }, ?_, rfl⟩
    simp [Lifetime.begun, Function.comp_def]
  | ends child events =>
    obtain ⟨l, rfl, rfl⟩ := Option.map_eq_some_iff.mp hchild
    refine ⟨past ++ [{ l with events := l.events ++ events }], none, ?_, rfl⟩
    simp [Lifetime.whole, Lifetime.begun, Function.comp_def]

theorem HasLifetimes.passage {entries more : List SessionEntry} (h : HasLifetimes name a entries)
    (hmore : Passage name a more b) : HasLifetimes name b (entries ++ more) := by
  cases hmore with
  | stretch hevents => exact h.stretch hevents
  | opened child =>
    obtain ⟨past, present, rfl, hchild⟩ := h
    obtain rfl : present = none := Option.map_eq_none_iff.mp hchild
    exact ⟨past, some ⟨child, []⟩, by simp [Lifetime.begun], rfl⟩

/-- Of a name that is free all lifetimes have ended. -/
theorem HasLifetimes.ended {entries : List SessionEntry} (h : HasLifetimes name none entries) :
    ∃ past : List Lifetime, entries = past.flatMap (·.whole name) := by
  obtain ⟨past, present, rfl, hchild⟩ := h
  obtain rfl : present = none := Option.map_eq_none_iff.mp hchild
  exact ⟨past, by simp⟩

/-- Whether an entry is the end of a session. -/
def SessionEntry.isClosed (e : SessionEntry) : Bool :=
  e.event?.any (·.isClosed)

/-- A move tells of an end exactly if the session is gone behind it. -/
theorem Passage.countP_isClosed {entries : List SessionEntry} (h : Passage name a entries b) :
    entries.countP (·.isClosed) = if a.isSome && b.isNone then 1 else 0 := by
  have houtputs : ∀ events : List TerminalEvent,
      (events.map fun event => SessionEntry.told (.output name event)).countP (·.isClosed) = 0 := by
    intro events
    rw [List.countP_eq_zero]
    intro entry hentry
    obtain ⟨event, -, rfl⟩ := List.mem_map.mp hentry
    exact Bool.false_ne_true
  cases h with
  | opened child => rfl
  | stretch hevents =>
    cases hevents with
    | free => rfl
    | live child events => simpa [Function.comp_def] using houtputs events
    | ends child events =>
      have hclosed : [SessionEntry.told (.closed name)].countP (·.isClosed) = 1 := rfl
      rw [List.map_append, List.map_map, List.countP_append, List.map_singleton, hclosed]
      simpa [Function.comp_def] using houtputs events

/-! ### What is told while no session is opened -/

/-- What is told of a session that is removed is about that session. -/
theorem filter_farewell (name : String) (events : List TerminalEvent) (other : String) :
    (events.map (SessionEvent.output name) ++ [SessionEvent.closed name]).filter
        (·.session = other) =
      if other = name then events.map (.output name) ++ [.closed name] else [] := by
  have habout : ∀ event ∈ events.map (SessionEvent.output name) ++ [SessionEvent.closed name],
      event.session = name := by
    intro event hevent
    rcases List.mem_append.mp hevent with hevent | hevent
    · obtain ⟨_, -, rfl⟩ := List.mem_map.mp hevent
      rfl
    · rw [List.mem_singleton.mp hevent]
      rfl
  split
  · next h =>
    rw [List.filter_eq_self]
    intro event hevent
    exact decide_eq_true ((habout event hevent).trans h.symm)
  · next h =>
    rw [List.filter_eq_nil_iff]
    intro event hevent hother
    exact h ((of_decide_eq_true hother).symm.trans (habout event hevent))

namespace Multiplexer

/-- **What is told between two states** is, for each name, a stretch of its session's life. -/
def Speaks (m m' : Multiplexer σ) : Prop :=
  ∃ news, m'.told = m.told ++ news ∧ ∀ name,
    Stretch name (m.registry.child? name) (news.filter (·.session = name))
      (m'.registry.child? name)

namespace Speaks

variable {m m' m'' : Multiplexer σ}

theorem trans (h : m.Speaks m') (h' : m'.Speaks m'') : m.Speaks m'' := by
  obtain ⟨news, htold, hnews⟩ := h
  obtain ⟨news', htold', hnews'⟩ := h'
  refine ⟨news ++ news', by rw [htold', htold, List.append_assoc], fun name => ?_⟩
  rw [List.filter_append]
  exact (hnews name).trans (hnews' name)

/-- Nothing is told and the sessions are the same. -/
theorem of_silent (hchild : ∀ name, m'.registry.child? name = m.registry.child? name)
    (htold : m'.told = m.told) : m.Speaks m' := by
  refine ⟨[], by rw [htold, List.append_nil], fun name => ?_⟩
  rw [hchild]
  exact .silent name _

/-- Sessions that are kept tell of themselves alone. -/
theorem of_kept (h : m.Kept m') : m.Speaks m' := by
  obtain ⟨news, htold, hlive⟩ := h.told
  refine ⟨_, htold, fun name => ?_⟩
  have hnews : (news.map fun p => SessionEvent.output p.1 p.2).filter
      (·.session = name) = ((news.filter (·.1 = name)).map (·.2)).map (.output name) := by
    rw [List.filter_map, List.map_map]
    refine List.map_congr_left fun p hp => ?_
    have hp' : p.1 = name := of_decide_eq_true (List.mem_filter.mp hp).2
    simp [hp']
  rw [h.child?, hnews]
  cases hchild : m.registry.child? name with
  | some child => exact .live child _
  | none =>
    -- a name that is free tells nothing
    have hnone : news.filter (·.1 = name) = [] := by
      rw [List.filter_eq_nil_iff]
      intro p hp hname
      have hlive' := hlive p hp
      rw [Registry.isLive_eq_isSome_child?, of_decide_eq_true hname, hchild] at hlive'
      cases hlive'
    rw [hnone]
    exact .free

variable [SessionHost σ]

/-- **A session that is removed** tells its end, and the others nothing. -/
theorem reap (m : Multiplexer σ) (name : String) : m.Speaks (m.reap name) := by
  cases hs : m.registry.session? name with
  | none =>
    rw [reap_of_none hs]
    exact .of_silent (fun _ => rfl) rfl
  | some s =>
    have hchild : ∀ other, (m.reap name).registry.child? other =
        if other = name then none else m.registry.child? other := by
      intro other
      rw [Registry.child?, (m.removes_reap name).session?, Registry.child?]
      by_cases h : other = name <;> simp [h]
    obtain ⟨gone, host, -, heq⟩ := reap_eq hs
    refine ⟨s.terminal.events.map (.output name) ++ [.closed name], ?_, fun other => ?_⟩
    · rw [heq, List.append_assoc]
    · rw [hchild, filter_farewell]
      by_cases h : other = name
      · subst h
        rw [if_pos rfl, if_pos rfl, Registry.child?, hs]
        exact .ends s.child s.terminal.events
      · rw [if_neg h, if_neg h]
        exact .silent other _

theorem foldl_reap (m : Multiplexer σ) (names : List String) :
    m.Speaks (names.foldl Multiplexer.reap m) := by
  induction names generalizing m with
  | nil => exact .of_silent (fun _ => rfl) rfl
  | cons name rest ih => exact (reap m name).trans (ih _)

theorem collectZombies (m : Multiplexer σ) : m.Speaks m.collectZombies := by
  obtain ⟨host, zombies, collected, -, -, heq⟩ := m.collectZombies_eq
  rw [heq]
  exact .of_silent (fun _ => rfl) rfl

theorem finishPass (h : m.registry.InOrder) (now lastSweep : Nat) :
    m.Speaks (m.finishPass now lastSweep).2 := by
  refine (of_kept ((m.tends_flush now).kept h)).trans ?_
  unfold Multiplexer.finishPass
  dsimp only
  split
  · have hsweep : (m.flush now).Speaks (m.flush now).beforeSweep := .of_silent (fun _ => rfl) rfl
    exact (hsweep.trans (foldl_reap _ _)).trans (collectZombies _)
  · exact collectZombies _

end Speaks

end Multiplexer

/-! ### Moves and runs -/

namespace Service

open Multiplexer (Tends)

variable [SessionHost σ]

/-- The child of a live session. -/
def child? (s : Service σ) (name : String) : Option ChildId :=
  s.multiplexer.registry.child? name

/-- What a move adds to the history, if it opens no session. -/
theorem passage_of_speaks {s after : Service σ} {move : Move σ} (hafter : s.step move = after)
    (hopening : s.opening? move = none) (hspeaks : s.multiplexer.Speaks after.multiplexer) :
    (after.multiplexer.told = s.multiplexer.told ++ s.newsOf move) ∧ ∀ name,
      Passage name (s.child? name) ((s.entriesOf move).filter (·.session = name))
        (after.child? name) := by
  obtain ⟨news, htold, hnews⟩ := hspeaks
  have hnewsOf : s.newsOf move = news := by rw [newsOf, hafter, htold, List.drop_left]
  refine ⟨by rw [hnewsOf, htold], fun name => ?_⟩
  have hentries : (s.entriesOf move).filter (·.session = name) =
      (news.filter (·.session = name)).map .told := by
    rw [entriesOf, hopening, hnewsOf]
    exact List.filter_map
  rw [hentries]
  exact .stretch (hnews name)

/-- What a move adds to the history, if it opens a session. -/
theorem passage_of_opened {s : Service σ} (h : s.Sound) {request : SessionRequest}
    {opened cookie : String} {m' : Multiplexer σ} {height width : UInt16} {now : Nat}
    (hafter : s.step (.request request) =
      { s with multiplexer := m'.withNew opened cookie height width now })
    (hopening : s.opening? (.request request) = some (opened, m'.registry.spawnCount))
    (htended : Tends none s.multiplexer m')
    (hfree : s.multiplexer.registry.session? opened = none) :
    (m'.told = s.multiplexer.told ++ s.newsOf (.request request)) ∧ ∀ name,
      Passage name (s.child? name)
        ((s.entriesOf (.request request)).filter (·.session = name))
        ((s.step (.request request)).child? name) := by
  obtain ⟨news, htold, hnews⟩ := Multiplexer.Speaks.of_kept (htended.kept h.inOrder)
  have hnewsOf : s.newsOf (.request request) = news := by
    rw [newsOf, hafter]
    exact (congrArg (List.drop _) htold).trans List.drop_left
  refine ⟨by rw [hnewsOf, htold], fun name => ?_⟩
  have hentries : (s.entriesOf (.request request)).filter (·.session = name) =
      [SessionEntry.opened opened m'.registry.spawnCount].filter (·.session = name) ++
        (news.filter (·.session = name)).map .told := by
    rw [entriesOf, hopening, hnewsOf, List.filter_append]
    exact congrArg _ List.filter_map
  have hchild : (s.step (.request request)).child? name =
      if name = opened then some m'.registry.spawnCount else m'.registry.child? name := by
    rw [hafter]
    exact child?_withNew m' opened cookie height width now name
  have hstretch := hnews name
  rw [hentries, hchild]
  by_cases hname : name = opened
  · subst hname
    have hnone : s.child? name = none := by rw [child?, Registry.child?, hfree]; rfl
    have hnone' : s.multiplexer.registry.child? name = none := hnone
    rw [hnone', (htended.kept h.inOrder).child?, hnone'] at hstretch
    -- a free name tells nothing
    have hsilent : news.filter (·.session = name) = [] := by
      generalize news.filter (·.session = name) = about at hstretch
      cases hstretch
      rfl
    rw [hnone, hsilent, if_pos rfl, List.filter_cons_of_pos (by simp [SessionEntry.session])]
    exact .opened _
  · have hother : [SessionEntry.opened opened m'.registry.spawnCount].filter
        (·.session = name) = [] := by
      rw [List.filter_eq_nil_iff]
      intro entry hentry hsession
      rw [List.mem_singleton.mp hentry] at hsession
      exact hname (of_decide_eq_true hsession).symm
    rw [hother, if_neg hname]
    exact .stretch hstretch

/-- **What a move adds to the history.** -/
theorem Sound.passage {s : Service σ} (h : s.Sound) (move : Move σ) :
    ((s.step move).multiplexer.told = s.multiplexer.told ++ s.newsOf move) ∧ ∀ name,
      Passage name (s.child? name) ((s.entriesOf move).filter (·.session = name))
        ((s.step move).child? name) := by
  have htakes := s.takes move
  generalize hafter : s.step move = after at htakes
  cases htakes with
  | served hopening htended =>
    exact passage_of_speaks hafter hopening (.of_kept (htended.kept h.inOrder))
  | opened height width hopening htended halive hfree =>
    rw [← hafter]
    have hpassage := passage_of_opened h hafter hopening htended hfree
    exact ⟨by rw [hafter]; exact hpassage.1, hpassage.2⟩
  | elsewhere change => exact passage_of_speaks hafter rfl (.of_silent (fun _ => rfl) rfl)
  | rested hphase => exact passage_of_speaks hafter rfl (.of_silent (fun _ => rfl) rfl)
  | read names hphase htended =>
    exact passage_of_speaks hafter rfl (.of_kept (htended.kept h.inOrder))
  | looked hphase => exact passage_of_speaks hafter rfl (.of_silent (fun _ => rfl) rfl)
  | finished hphase => exact passage_of_speaks hafter rfl (.finishPass h.inOrder _ _)
  | stopped hphase halive =>
    exact passage_of_speaks hafter rfl
      ((Multiplexer.Speaks.foldl_reap _ _).trans (.collectZombies _))

/-- What is told of a run is in its history, and each name has its lifetimes. -/
theorem hasLifetimes_run (config : SessionConfig) (host : σ) (lastSweep : Nat)
    (moves : List (Move σ)) :
    let s := (start config host lastSweep).run moves
    let history := (start config host lastSweep).history moves
    history.filterMap (·.event?) = s.multiplexer.told ∧
      ∀ name, HasLifetimes name (s.child? name) (history.filter (·.session = name)) := by
  refine (run_induction (C := fun _ => True) (P := fun s history => s.Sound ∧
    history.filterMap (·.event?) = s.multiplexer.told ∧
      ∀ name, HasLifetimes name (s.child? name) (history.filter (·.session = name)))
    (fun s history move _ h => ?_) (fun _ _ => trivial)
    ⟨sound_start config host lastSweep, rfl, fun name => .nil name⟩).2
  obtain ⟨hsound, htold, hlifetimes⟩ := h
  obtain ⟨hnews, hpassage⟩ := hsound.passage move
  have hevents : (s.entriesOf move).filterMap (·.event?) = s.newsOf move := by
    have hopening : ((s.opening? move).map fun p =>
        SessionEntry.opened p.1 p.2).toList.filterMap (·.event?) = [] := by
      cases s.opening? move <;> rfl
    rw [entriesOf, List.filterMap_append, hopening, List.filterMap_map]
    exact List.filterMap_some
  refine ⟨hsound.step move, ?_, fun name => ?_⟩
  · rw [List.filterMap_append, htold, hevents, hnews]
  · rw [List.filter_append]
    exact (hlifetimes name).passage (hpassage name)

/-! ### No more sessions -/

/-- Sessions are not opened again. -/
theorem Sound.alive_step {s : Service σ} (h : s.Sound) (move : Move σ)
    (halive : (s.step move).multiplexer.registry.alive = true) :
    s.multiplexer.registry.alive = true := by
  have htakes := s.takes move
  generalize s.step move = after at htakes halive
  cases htakes with
  | served _ htended => exact (htended.kept h.inOrder).alive halive
  | opened height width _ htended halive' _ => exact (htended.kept h.inOrder).alive halive'
  | elsewhere change => exact halive
  | rested hphase => exact halive
  | read names hphase htended => exact (htended.kept h.inOrder).alive halive
  | looked hphase => exact halive
  | @finished now hphase =>
    have hflushed := (s.multiplexer.tends_flush now).kept h.inOrder
    obtain ⟨names, hremoves, -⟩ := s.multiplexer.removes_finishPass now s.loop.lastSweep
    exact hflushed.alive (hremoves.alive.symm.trans halive)
  | stopped hphase _ => exact s.multiplexer.removes_stop.alive.symm.trans halive

theorem Sound.alive_run {s : Service σ} (h : s.Sound) {moves : List (Move σ)}
    (halive : (s.run moves).multiplexer.registry.alive = true) :
    s.multiplexer.registry.alive = true ∧ .request .shutdown ∉ moves := by
  induction moves generalizing s with
  | nil => exact ⟨halive, List.not_mem_nil⟩
  | cons move rest ih =>
    obtain ⟨hstep, hrest⟩ := ih (h.step move) halive
    refine ⟨h.alive_step move hstep, ?_⟩
    rw [List.mem_cons, not_or]
    refine ⟨?_, hrest⟩
    rintro rfl
    cases hstep

/-- **Sessions come and go in lifetimes.** Whatever the owner asks for, whatever the loop does and
whatever comes of it at the host:

* the history of a run has all that the owner was told, and of each name it has lifetimes that have
  ended, and one that has not if the name is live;
* a move tells the end of a session exactly if it removes it, and then once;
* where no session is opened that was asked for, the sessions are as they were;
* once no more sessions are to be opened, none is;
* when the loop has stopped there are no sessions, and every lifetime has ended. -/
theorem lifetimes_run (config : SessionConfig) (host : σ) (lastSweep : Nat)
    (moves : List (Move σ)) :
    let s := (start config host lastSweep).run moves
    let history := (start config host lastSweep).history moves
    (history.filterMap (·.event?) = s.multiplexer.told ∧
      ∀ name, HasLifetimes name (s.child? name) (history.filter (·.session = name))) ∧
    (∀ move name, ((s.entriesOf move).filter (·.session = name)).countP (·.isClosed) =
      if (s.child? name).isSome && ((s.step move).child? name).isNone then 1 else 0) ∧
    (∀ name command height width error,
      (s.multiplexer.openSized name command height width).1 = .error error →
        (s.multiplexer.openSized name command height width).2.registry.sessions =
          s.multiplexer.registry.sessions) ∧
    (.request .shutdown ∈ moves → ∀ name command height width,
      s.multiplexer.openSized name command height width =
        (.error .shuttingDown, s.multiplexer)) ∧
    (s.loop.phase = .stopped → s.multiplexer.registry.sessions = [] ∧
      ∀ name, ∃ past : List Lifetime,
        history.filter (·.session = name) = past.flatMap (·.whole name)) := by
  intro s history
  have hsound : s.Sound := sound_run config host lastSweep moves
  have hhistory := hasLifetimes_run config host lastSweep moves
  refine ⟨hhistory, fun move name => ((hsound.passage move).2 name).countP_isClosed, ?_, ?_, ?_⟩
  · intro name command height width error herror
    have hopens := s.multiplexer.openSized_cases name command height width
    generalize s.multiplexer.openSized name command height width = result at hopens herror
    cases hopens with
    | refused _ hsessions => exact hsessions
    | live => cases herror
    | new => cases herror
  · intro hshutdown name command height width
    apply Multiplexer.openSized_of_stopped
    cases halive : s.multiplexer.registry.alive with
    | false => rfl
    | true =>
      exact absurd hshutdown ((sound_start config host lastSweep).alive_run halive).2
  · intro hstopped
    have hsessions := (hsound.stopped hstopped).2
    refine ⟨hsessions, fun name => ?_⟩
    have hfree : s.child? name = none := by
      rw [child?, Registry.child?_eq_lookup_roster, Registry.roster, hsessions]
      rfl
    have hlifetimes := hhistory.2 name
    rw [hfree] at hlifetimes
    exact hlifetimes.ended

/-- A session tells its screen and is killed, and one of its name is opened again. Another is not
opened because the host refuses. Then no more are opened, and the loop stops. -/
theorem lifetimes_run_twice :
    let host : Script :=
      { spawns := [none, none, some "no process"], reads := [.data (utf8Bytes "x")] }
    let opens (name : String) : Move Script := .request (.openSession name none 1 1)
    let before : List (Move Script) :=
      [opens "a", .loop, .loop, .loop, .loop, .request (.kill "a"), .loop, .loop, .loop, .loop,
        opens "a"]
    let moves := before ++ [opens "b", .request .shutdown, opens "b", .loop]
    let s := (start {} host 0).run before
    let stopped := (start {} host 0).run moves
    let history := (start {} host 0).history moves
    (.request .shutdown ∈ moves ∧ stopped.loop.phase = .stopped ∧
      (s.multiplexer.openSized (some "b") none 1 1).1 =
        .error (.spawn "/bin/sh" (.refused "no process"))) ∧
    (s.multiplexer.openSized (some "b") none 1 1).2.registry.sessions =
      s.multiplexer.registry.sessions ∧
    stopped.multiplexer.openSized (some "b") none 1 1 =
      (.error .shuttingDown, stopped.multiplexer) ∧
    stopped.multiplexer.registry.sessions = [] ∧
    history.map (·.isClosed) = [false, false, true, false, true] ∧
    ∃ past : List Lifetime,
      history.filter (·.session = "a") = past.flatMap (·.whole "a") := by
  intro host opens before moves s stopped history
  have hshutdown : .request .shutdown ∈ moves := by simp [moves]
  have hstopped : stopped.loop.phase = .stopped := by decide +kernel
  have hrefused : (s.multiplexer.openSized (some "b") none 1 1).1 =
      .error (.spawn "/bin/sh" (.refused "no process")) := by decide +kernel
  have hmarks : history.map (·.isClosed) = [false, false, true, false, true] := by decide +kernel
  have hbefore := lifetimes_run {} host 0 before
  have hall := lifetimes_run {} host 0 moves
  -- the runs have been evaluated, and are not to be again
  rw [show (start {} host 0).run before = s from rfl] at hbefore
  rw [show (start {} host 0).run moves = stopped from rfl,
    show (start {} host 0).history moves = history from rfl] at hall
  clear_value s stopped history
  have hfailed := hbefore.2.2.1 (some "b") none 1 1 _ hrefused
  have hlate := hall.2.2.2.1 hshutdown (some "b") none 1 1
  have hend := hall.2.2.2.2 hstopped
  exact ⟨⟨hshutdown, hstopped, hrefused⟩, hfailed, hlate, hend.1, hmarks, hend.2 "a"⟩

end Service

end GlassTty
