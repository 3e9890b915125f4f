import GlassTty.Proofs.Session.Run
import GlassTty.Proofs.Terminal.Run
import Mathlib.Logic.Relation

/-!
# What is done to sessions

Whatever the owner asks for and whatever the loop does, it comes down to a few things that are done
to the multiplexer one after the other (`GlassTty.Multiplexer.Tending`,
`GlassTty.Multiplexer.Tends`). None of them opens a session or removes one. That is left to three
that are described in full:

* `GlassTty.Multiplexer.openSized_cases`, a session that is opened;
* `GlassTty.Multiplexer.reap_eq`, a session that is removed;
* `GlassTty.Multiplexer.collectZombies_eq`, children that are collected.

So what is kept of the sessions is shown for each thing that may be done, and never again for each
request.

| what the sessions go through | what is done |
|---|---|
| `forward` | `ask`, `tell` |
| `type` | `handle`, `condemn` |
| `resizeSession` | `handle`, `ask`, `condemn` |
| `saveFile` | `ask`, `handle`, `forward` |
| `clickPaste` | `ask`, and `type` or `tell` |
| `showOutput` | `output`, `handle`, `forward`, `ask`, `type` |
| `finishOutput` | `conclude`, `forward`, `condemn` |
| `flushSession` | `report` or nothing, `forward` |
-/

namespace GlassTty

variable {σ : Type}

/-- Neither output nor an update. -/
def Terminal.Operation.isQuiet : Terminal.Operation → Bool
  | .write _ => false
  | .update => false
  | _ => true

namespace Multiplexer

variable [SessionHost σ]

open SessionHost

/-! ### The host -/

/-- **The host is asked for something**, but not for the time. -/
inductive Handled (host : σ) : σ → Prop
  | secret : Handled host (secret host).2
  | withFiles (files : FileSystem) : Handled host (withFiles host files)
  | spawn (child : ChildId) (request : SpawnRequest) : Handled host (spawn host child request).2
  | poll (children : List ChildId) (time : Nat) : Handled host (poll host children time).2
  | read (child : ChildId) : Handled host (read host child).2
  | write (child : ChildId) (bytes : Bytes) : Handled host (write host child bytes).2
  | resize (child : ChildId) (height width : Nat) :
    Handled host (SessionHost.resize host child height width).2
  | terminate (child : ChildId) : Handled host (terminate host child)
  | close (child : ChildId) : Handled host (close host child)
  | collect (child : ChildId) : Handled host (collect host child).2

/-- The host is asked for some things, one after the other. -/
abbrev Handles : σ → σ → Prop :=
  Relation.ReflTransGen Handled

/-! ### The sessions -/

/-- **One thing that is done to the sessions**, by a loop that may have noted a time. -/
inductive Tending (noted : Option Nat) (m : Multiplexer σ) : Multiplexer σ → Prop
  | handle {host : σ} (h : Handled m.host host) : Tending noted m { m with host }
  /-- The time is asked for, and noted elsewhere. -/
  | look : Tending noted m { m with host := (clock m.host).2 }
  /-- A name is counted. That is done for the owner, who notes no time. -/
  | count (n : Nat) (howner : noted = none) :
    Tending noted m { m with registry := { m.registry with nameCount := n } }
  /-- A terminal is asked for something. -/
  | ask {name : String} {s : Session} (hs : m.registry.session? name = some s) (files : FileSystem)
    (operation : Terminal.Operation) (hquiet : operation.isQuiet = true) :
    Tending noted m
      { m with
        registry := m.registry.put name
          { s with terminal := (s.terminal.operate files operation).1 } }
  /-- A terminal is shown output, which comes now. -/
  | output {name : String} {s : Session} (hs : m.registry.session? name = some s)
    (files : FileSystem) (bytes : Bytes) :
    Tending noted m
      { m with
        host := (clock m.host).2
        registry := m.registry.put name
          { s with
            terminal := (s.terminal.write files bytes).1
            outputTime := (clock m.host).1 } }
  /-- A session is updated at the time that was noted. -/
  | report {now : Nat} (hnoted : noted = some now) {name : String} {s : Session}
    (hs : m.registry.session? name = some s) :
    Tending noted m
      { m with
        registry := m.registry.put name
          { s with terminal := s.terminal.update, updateTime := some now } }
  /-- A session is updated now. -/
  | conclude {name : String} {s : Session} (hs : m.registry.session? name = some s) :
    Tending noted m
      { m with
        host := (clock m.host).2
        registry := m.registry.put name
          { s with terminal := s.terminal.update, updateTime := some (clock m.host).1 } }
  | tell {name : String} (hlive : m.registry.isLive name = true) (events : List TerminalEvent) :
    Tending noted m { m with told := m.told ++ events.map (.output name) }
  | condemn (name : String) : Tending noted m (m.kill name)
  | condemnAll : Tending noted m m.killAll
  /-- No more sessions are opened. -/
  | stop : Tending noted m { m with registry := { m.registry with alive := false } }

/-- **Some things are done to the sessions**, one after the other. -/
abbrev Tends (noted : Option Nat) : Multiplexer σ → Multiplexer σ → Prop :=
  Relation.ReflTransGen (Tending noted)

variable {noted : Option Nat} {m m' : Multiplexer σ} {name : String} {s : Session}

theorem Tending.once (h : Tending noted m m') : Tends noted m m' :=
  .single h

/-! ### What the owner asks for -/

theorem tends_kill (m : Multiplexer σ) (name : String) : Tends noted m (m.kill name) :=
  .single (.condemn name)

theorem tends_killAll (m : Multiplexer σ) : Tends noted m m.killAll :=
  .single .condemnAll

theorem tends_shutdown (m : Multiplexer σ) : Tends noted m m.shutdown :=
  Tending.stop.once.tail .condemnAll

omit [SessionHost σ] in
/-- What a live session has to say is told, and its terminal has it no more. -/
theorem forward_of_session (hs : m.registry.session? name = some s) :
    m.forward name =
      { m with
        registry := m.registry.put name { s with terminal := s.terminal.drainEvents.2 }
        told := m.told ++ s.terminal.events.map (.output name) } := by
  unfold forward
  rw [hs]
  rfl

theorem tends_forward (m : Multiplexer σ) (name : String) : Tends noted m (m.forward name) := by
  unfold forward
  cases hs : m.registry.session? name with
  | none => exact .refl
  | some s =>
    refine (Tending.ask hs default .drainEvents rfl).once.tail ?_
    exact .tell (by simp [Registry.isLive]) s.terminal.events

theorem tends_modifyTerminal (m : Multiplexer σ) (name : String) (operation : Terminal.Operation)
    (hquiet : operation.isQuiet = true) :
    Tends noted m
      (m.mapRegistry (·.modifyTerminal name fun t => (t.operate default operation).1)) := by
  unfold mapRegistry Registry.modifyTerminal Registry.modify
  cases hs : m.registry.session? name with
  | none =>
    dsimp only
    rw [hs]
  | some s =>
    dsimp only
    rw [hs]
    exact .single (.ask hs default operation hquiet)

theorem tends_type (m : Multiplexer σ) (name : String) (s : Session) (bytes : Bytes) :
    Tends noted m (m.type name s bytes) := by
  have hwrite : Tends noted m { m with host := (write m.host s.child bytes).2 } :=
    .single (.handle (.write s.child bytes))
  unfold type
  dsimp only
  split
  · exact hwrite.tail (.condemn name)
  · exact hwrite

theorem tends_input (m : Multiplexer σ) (name : String) (bytes : Bytes) :
    Tends noted m (m.input name bytes) := by
  unfold input
  split
  · exact tends_type m name _ bytes
  · exact .refl

theorem tends_resizeSession (hs : m.registry.session? name = some s) (height width : UInt16) :
    Tends noted m (m.resizeSession name s height.toNat width.toNat) := by
  have hasked : Tends noted m _ := (Tending.ask hs default (.resize height width) rfl).once.tail
    (.handle (.resize s.child height.toNat width.toNat))
  unfold resizeSession
  dsimp only
  split
  · exact hasked
  · exact hasked.tail (.condemn name)

theorem tends_resize (m : Multiplexer σ) (name : String) (height width : UInt16) :
    Tends noted m (m.resize name height.toNat width.toNat) := by
  unfold resize
  split
  · next hs => exact tends_resizeSession hs height width
  · exact .refl

theorem tends_saveFile (m : Multiplexer σ) (name path : String) (content : Bytes) :
    Tends noted m (m.saveFile name path content) := by
  unfold saveFile
  split
  · next s hs =>
    have hasked : Tends noted m _ :=
      (Tending.ask hs (files m.host) (.saveFile path content) rfl).once.tail
        (.handle (.withFiles (s.terminal.saveFile (files m.host) path content).2))
    exact hasked.trans (tends_forward _ name)
  · exact .refl

theorem tends_clickPaste (m : Multiplexer σ) (name : String) (click : Terminal.Click) :
    Tends noted m (m.clickPaste name click) := by
  unfold clickPaste
  split
  · next s hs =>
    dsimp only
    have hasked (setting fallback) : Tends noted m _ :=
      (Tending.ask hs (files m.host) (.clickPaste click setting fallback) rfl).once
    split
    · exact (hasked _ _).trans (tends_type _ name _ _)
    · exact hasked _ _
    · next error herror =>
      refine (hasked _ _).tail (.tell ?_ [.directive (.alert error.message)])
      simp [Registry.isLive]
  · exact .refl

/-! ### What the loop does -/

theorem tends_showOutput (hs : m.registry.session? name = some s) (bytes : Bytes) :
    Tends noted m (m.showOutput name s bytes) := by
  unfold showOutput
  dsimp only
  have hshown : Tends noted m _ :=
    ((Tending.output hs (files (clock m.host).2) bytes).once.tail
      (.handle (.withFiles (s.terminal.write (files (clock m.host).2) bytes).2))).trans
        (tends_forward _ name)
  split
  · next hs' =>
    exact (hshown.tail (.ask hs' default .takeReplies rfl)).trans (tends_type _ name _ _)
  · exact hshown

theorem tends_finishOutput (hs : m.registry.session? name = some s) :
    Tends noted m (m.finishOutput name s) := by
  exact ((Tending.conclude hs).once.trans (tends_forward _ name)).trans (tends_kill _ name)

theorem tends_readSession (m : Multiplexer σ) (name : String) :
    Tends noted m (m.readSession name) := by
  unfold readSession
  split
  · next s hs =>
    dsimp only
    have hread : Tends noted m { m with host := (read m.host s.child).2 } :=
      .single (.handle (.read s.child))
    split
    · refine hread.trans (tends_showOutput ?_ _)
      exact hs
    · exact hread
    · refine hread.trans (tends_finishOutput ?_)
      exact hs
    · exact hread.trans (tends_kill _ name)
  · exact .refl

theorem tends_pollSessions (m : Multiplexer σ) : Tends noted m m.pollSessions.2 :=
  .single (.handle (.poll _ _))

theorem tends_flushSession (m : Multiplexer σ) (now : Nat) (name : String) :
    Tends (some now) m (flushSession now m name) := by
  refine Relation.ReflTransGen.trans ?_ (tends_forward _ name)
  unfold mapRegistry Registry.modify
  cases hs : m.registry.session? name with
  | none =>
    dsimp only
    rw [hs]
  | some s =>
    dsimp only
    rw [hs]
    dsimp only
    split
    · exact .single (.report rfl hs)
    · exact .single (.ask hs default (.changeFiles default) rfl)

theorem tends_flush (m : Multiplexer σ) (now : Nat) : Tends (some now) m (m.flush now) := by
  unfold flush
  induction m.names generalizing m with
  | nil => exact .refl
  | cons name rest ih => exact (tends_flushSession m now name).trans (ih _)

/-! ### Sessions that are removed -/

/-- A session that is changed and then removed leaves nothing behind. -/
theorem remove_put (r : Registry) (name : String) (s : Session) :
    (r.put name s).remove name = r.remove name := by
  have hsessions : ∀ l : List (String × Session),
      (Registry.insertByName name s l).filter (·.1 ≠ name) = l.filter (·.1 ≠ name) := by
    intro l
    induction l with
    | nil => simp [Registry.insertByName]
    | cons first rest ih =>
      obtain ⟨key, t⟩ := first
      unfold Registry.insertByName
      split
      · next hkey => simp [hkey]
      · split
        · simp
        · simp only [List.filter_cons, ih]
  unfold Registry.remove Registry.put
  rw [hsessions]

/-- **A session that is removed**: the owner is told what its terminal had to say, and its end. The
child is collected, or is to be. -/
theorem reap_eq (hs : m.registry.session? name = some s) :
    ∃ gone host, Handles m.host host ∧ m.reap name =
      { m with
        host
        registry := (m.registry.remove name).bury s.child gone
        told := m.told ++ s.terminal.events.map (.output name) ++ [.closed name] } := by
  refine ⟨(collect (close (terminate m.host s.child) s.child) s.child).1, _,
    ((Relation.ReflTransGen.single (.terminate s.child)).tail (.close s.child)).tail
      (.collect s.child), ?_⟩
  unfold reap
  rw [hs]
  dsimp only
  rw [forward_of_session hs]
  simp only [tell, remove_put]

theorem reap_of_none (hs : m.registry.session? name = none) : m.reap name = m := by
  unfold reap
  rw [hs]

/-- A child that is buried is either left for later or collected. -/
theorem perm_bury (r : Registry) (child : ChildId) (gone : Bool) :
    ((r.bury child gone).zombies ++ (r.bury child gone).collected).Perm
      (child :: (r.zombies ++ r.collected)) := by
  unfold Registry.bury
  cases gone with
  | false => simp
  | true =>
    rw [if_pos rfl, ← List.append_assoc]
    exact List.perm_append_singleton _ _

/-- **Children that are collected**, or left for later. -/
theorem collectZombies_eq (m : Multiplexer σ) :
    ∃ host zombies collected, Handles m.host host ∧
      (zombies ++ collected).Perm (m.registry.zombies ++ m.registry.collected) ∧
      m.collectZombies = { m with host, registry := { m.registry with zombies, collected } } := by
  suffices hlist : ∀ (waiting : List ChildId) (m : Multiplexer σ),
      ∃ host zombies collected, Handles m.host host ∧
        (zombies ++ collected).Perm (waiting ++ (m.registry.zombies ++ m.registry.collected)) ∧
        waiting.foldl collectZombie m =
          { m with host, registry := { m.registry with zombies, collected } } by
    exact hlist m.registry.zombies (m.mapRegistry fun r => { r with zombies := [] })
  intro waiting
  induction waiting with
  | nil => exact fun m => ⟨m.host, m.registry.zombies, m.registry.collected, .refl, .refl _, rfl⟩
  | cons child rest ih =>
    intro m
    obtain ⟨host, zombies, collected, hhost, hperm, heq⟩ := ih (m.collectZombie child)
    refine ⟨host, zombies, collected, ?_, hperm.trans ?_, ?_⟩
    · exact .head (.collect child) hhost
    · exact ((perm_bury m.registry child _).append_left rest).trans List.perm_middle
    · rw [List.foldl_cons, heq]
      unfold collectZombie Registry.bury
      dsimp only
      split <;> rfl

/-! ### Sessions that are opened -/

/-- The smallest size of a window is one row and one column. -/
theorem exists_toNat_eq_max (n : UInt16) : ∃ size : UInt16, size.toNat = max n.toNat 1 := by
  by_cases h : n.toNat = 0
  · exact ⟨1, by rw [h]; rfl⟩
  · exact ⟨n, by omega⟩

/-- The multiplexer with a new session, for the next child. -/
def withNew (m : Multiplexer σ) (name cookie : String) (height width : UInt16) (now : Nat) :
    Multiplexer σ :=
  let child := m.registry.spawnCount
  let session : Session :=
    { terminal := m.newTerminal name cookie height.toNat width.toNat, child, outputTime := now }
  { m with registry := { m.registry with spawnCount := child + 1 }.put name session }

/-- **A session is asked for**: it is refused, and the sessions are as they were, or one of that
name is live and given the size, or a new one is opened. -/
inductive Opens (m : Multiplexer σ) : Except SessionError (String × String) × Multiplexer σ → Prop
  | refused {error : SessionError} {m' : Multiplexer σ} (h : Tends none m m')
    (hsessions : m'.registry.sessions = m.registry.sessions) : Opens m (.error error, m')
  | live {name cookie : String} {m' : Multiplexer σ} (h : Tends none m m')
    (hlive : m.registry.isLive name = true) : Opens m (.ok (name, cookie), m')
  /-- Before the session is put among the others, a name may have been counted and the host was
  asked for a secret, a child and the time. -/
  | new {name cookie : String} {m' : Multiplexer σ} (height width : UInt16)
    (h : Tends none m m') (halive : m'.registry.alive = true)
    (hfree : m.registry.session? name = none) {now : Nat} :
    Opens m (.ok (name, cookie), m'.withNew name cookie height width now)

/-- A child is started under the next number, or none is. -/
theorem spawnNext_cases (m : Multiplexer σ) (request : SpawnRequest) :
    (∃ error m', Tends none m m' ∧ m'.registry = m.registry ∧
      m.spawnNext request = (.error error, m')) ∨
    ∃ host, Handled m.host host ∧ m.spawnNext request =
      (.ok m.registry.spawnCount,
        { m with
          host
          registry := { m.registry with spawnCount := m.registry.spawnCount + 1 } }) := by
  unfold spawnNext
  split
  · exact .inl ⟨_, _, .refl, rfl, rfl⟩
  · dsimp only
    have hspawn : Handled m.host (spawn m.host m.registry.spawnCount request).2 := .spawn _ _
    split
    · next heq =>
      rw [heq] at hspawn
      exact .inl ⟨_, _, .single (.handle hspawn), rfl, rfl⟩
    · next heq =>
      rw [heq] at hspawn
      exact .inr ⟨_, hspawn, rfl⟩

theorem opens_openNew (hfree : m.registry.session? name = none) (halive : m.registry.alive = true)
    (command : Option String) (height width : UInt16) :
    m.Opens (m.openNew name command height.toNat width.toNat) := by
  have hsecret : Tends none m { m with host := (secret m.host).2 } :=
    .single (.handle .secret)
  unfold openNew
  dsimp only
  rcases spawnNext_cases { m with host := (secret m.host).2 }
      (spawnRequest { m with host := (secret m.host).2 } name (secret m.host).1 command
        height.toNat width.toNat) with
    ⟨error, m', hm', hregistry, heq⟩ | ⟨host, hhost, heq⟩
  · rw [heq]
    refine .refused (hsecret.trans hm') ?_
    rw [hregistry]
  · rw [heq]
    have htended : Tends none m { m with host := (clock host).2 } :=
      (hsecret.tail (.handle hhost)).tail .look
    exact .new height width htended halive hfree

/-- A name may be counted before the session is asked for. -/
theorem Opens.count {result : Except SessionError (String × String) × Multiplexer σ} {n : Nat}
    (h : Opens { m with registry := { m.registry with nameCount := n } } result) :
    m.Opens result := by
  have hcount : Tends none m { m with registry := { m.registry with nameCount := n } } :=
    (Tending.count n rfl).once
  cases h with
  | refused h hsessions => exact .refused (hcount.trans h) hsessions
  | live h hlive => exact .live (hcount.trans h) hlive
  | new height width h halive hfree => exact .new height width (hcount.trans h) halive hfree

/-- A session of a given name is asked for. -/
theorem opens_named (m : Multiplexer σ) (halive : m.registry.alive = true) (name : String)
    (command : Option String) (height width : UInt16) :
    m.Opens (match m.registry.session? name with
      | some s => (.ok (name, s.terminal.cookie),
          m.resizeSession name s height.toNat width.toNat)
      | none => m.openNew name command height.toNat width.toNat) := by
  split
  · next s hs =>
    have hlive : m.registry.isLive name = true := Option.isSome_of_eq_some hs
    exact .live (tends_resizeSession hs height width) hlive
  · next hs => exact opens_openNew hs halive command height width

/-- **What comes of asking for a session.** -/
theorem openSized_cases (m : Multiplexer σ) (name command : Option String) (height width : UInt16) :
    m.Opens (m.openSized name command height width) := by
  obtain ⟨height', hheight⟩ := exists_toNat_eq_max height
  obtain ⟨width', hwidth⟩ := exists_toNat_eq_max width
  unfold openSized openSession
  rw [← hheight, ← hwidth]
  dsimp only
  split
  · exact .refused .refl rfl
  · next halive =>
    replace halive : m.registry.alive = true := by simpa using halive
    cases name.filter (!·.isEmpty) with
    | some chosen => exact opens_named m halive chosen command height' width'
    | none =>
      exact .count (opens_named { m with registry := m.registry.makeName.2 } halive
        m.registry.makeName.1 command height' width')

theorem openSized_of_stopped (h : m.registry.alive = false) (name command : Option String)
    (height width : UInt16) :
    m.openSized name command height width = (.error .shuttingDown, m) := by
  unfold openSized openSession
  simp [h]

/-! ### Requests -/

/-- **What a request can do**: something is done to the sessions there are, or a new one is opened
besides. -/
inductive Serves (m : Multiplexer σ) : Option (String × ChildId) → Multiplexer σ → Prop
  | tended {m' : Multiplexer σ} (h : Tends none m m') : Serves m none m'
  | opened {name cookie : String} {m' : Multiplexer σ} (height width : UInt16)
    (h : Tends none m m') (halive : m'.registry.alive = true)
    (hfree : m.registry.session? name = none) {now : Nat} :
    Serves m (some (name, m'.registry.spawnCount)) (m'.withNew name cookie height width now)

theorem serves_openSession (m : Multiplexer σ) (name command : Option String)
    (height width : UInt16) :
    m.Serves (m.opening? (.openSession name command height width))
      (m.openSized name command height width).2 := by
  have hopens := m.openSized_cases name command height width
  unfold opening?
  dsimp only
  generalize m.openSized name command height width = result at hopens
  cases hopens with
  | refused h => exact .tended h
  | live h hlive =>
    dsimp only
    rw [if_pos hlive]
    exact .tended h
  | @new name cookie m' height width h halive hfree now =>
    dsimp only
    have hlive : m.registry.isLive name = false := by simp [Registry.isLive, hfree]
    have hchild : (m'.withNew name cookie height width now).registry.child? name =
        some m'.registry.spawnCount := by simp [Registry.child?, withNew]
    rw [hlive, if_neg Bool.false_ne_true, hchild]
    exact .opened height width h halive hfree

/-- A request that asks for no session does something to those there are. -/
theorem tends_serve (m : Multiplexer σ) {request : SessionRequest}
    (h : ∀ asked command height width, request ≠ .openSession asked command height width) :
    Tends noted m (m.serve request) := by
  cases request with
  | openSession asked command height width => exact absurd rfl (h asked command height width)
  | input name bytes => exact tends_input m name bytes
  | resize name height width => exact tends_resize m name height width
  | clear name => exact tends_modifyTerminal m name .clear rfl
  | clearLast name guard => exact tends_modifyTerminal m name (.clearLast guard) rfl
  | kill name => exact tends_kill m name
  | killAll => exact tends_killAll m
  | clickPaste name click => exact tends_clickPaste m name click
  | reconnect name responseId => exact tends_modifyTerminal m name (.reconnect responseId) rfl
  | saveFile name path content => exact tends_saveFile m name path content
  | inspect name => exact .refl
  | shutdown => exact tends_shutdown m

/-- **What comes of a request.** -/
theorem serves (m : Multiplexer σ) (request : SessionRequest) :
    m.Serves (m.opening? request) (m.serve request) := by
  cases request with
  | openSession name command height width => exact serves_openSession m name command height width
  | _ => exact .tended (m.tends_serve nofun)

end Multiplexer

end GlassTty
