import GlassTty.Proofs.Session.Keeping

/-!
# Sessions that are removed

Sessions are removed at the end of a pass, and all of them when the loop stops. This file says what
that does to the others, namely nothing (`GlassTty.Multiplexer.Removes`), and which are removed:

* at the end of a pass those that are condemned or were silent for too long, and only if a sweep was
  asked for or is due (`GlassTty.Multiplexer.removes_finishPass`);
* when the loop stops, all (`GlassTty.Multiplexer.removes_stop`).

The child of a removed session is not lost. It stays among those that are held
(`GlassTty.Registry.held`), by a session or for collection.
-/

namespace GlassTty

variable {σ : Type}

namespace Registry

variable {r : Registry}

/-- The children that were started: those of live sessions, those that are to be collected and those
that are. -/
def held (r : Registry) : List ChildId :=
  r.roster.map (·.2) ++ (r.zombies ++ r.collected)

theorem mem_expired {now timeout : Nat} {name : String} :
    name ∈ r.expired now timeout ↔ ∃ s, (name, s) ∈ r.sessions ∧ s.expired now timeout = true := by
  simp [expired]

/-- **The child of a session that is removed** is still held. -/
theorem InOrder.held_remove (h : r.InOrder) {name : String} {s : Session}
    (hs : r.session? name = some s) (gone : Bool) :
    ((r.remove name).bury s.child gone).held.Perm r.held := by
  have hroster : ((r.remove name).bury s.child gone).roster = (r.remove name).roster := by
    unfold bury
    split <;> rfl
  have hchildren := (h.roster_perm_remove hs).map (·.2)
  rw [held, hroster]
  calc (r.remove name).roster.map (·.2) ++ _
    _ |>.Perm ((r.remove name).roster.map (·.2) ++ s.child :: (r.zombies ++ r.collected)) :=
      (Multiplexer.perm_bury (r.remove name) s.child gone).append_left _
    _ |>.Perm (s.child :: (r.remove name).roster.map (·.2) ++ (r.zombies ++ r.collected)) :=
      List.perm_middle
    _ |>.Perm r.held := hchildren.symm.append_right _

end Registry

namespace Multiplexer

variable [SessionHost σ] {m m' m'' : Multiplexer σ} {names names' : List String}

/-- **The sessions with some names are removed**, and the others are as they were. -/
structure Removes (names : List String) (m m' : Multiplexer σ) : Prop where
  config : m'.config = m.config
  sessions : m'.registry.sessions = m.registry.sessions.filter fun p => decide (p.1 ∉ names)
  alive : m'.registry.alive = m.registry.alive
  nameCount : m'.registry.nameCount = m.registry.nameCount
  spawnCount : m'.registry.spawnCount = m.registry.spawnCount
  held : m.registry.InOrder → m'.registry.held.Perm m.registry.held
  host : Handles m.host m'.host

namespace Removes

theorem refl (m : Multiplexer σ) : m.Removes [] m where
  config := rfl
  sessions := by simp
  alive := rfl
  nameCount := rfl
  spawnCount := rfl
  held := fun _ => .refl _
  host := .refl

theorem session? (h : Removes names m m') (name : String) :
    m'.registry.session? name = if name ∈ names then none else m.registry.session? name := by
  rw [Registry.session?, h.sessions, Registry.lookup_filter fun key => decide (key ∉ names)]
  by_cases hname : name ∈ names <;> simp [hname, Registry.session?]

/-- A session that is left is there with its child. -/
theorem child?_of_eq_some (h : Removes names m m') {name : String} {child : ChildId}
    (hchild : m'.registry.child? name = some child) : m.registry.child? name = some child := by
  rw [Registry.child?, h.session?] at hchild
  split at hchild
  · cases hchild
  · exact hchild

theorem inOrder (h : Removes names m m') (horder : m.registry.InOrder) : m'.registry.InOrder :=
  horder.of_sublist (by
    rw [h.sessions]
    exact List.filter_sublist)

theorem trans (h : Removes names m m') (h' : Removes names' m' m'') :
    m.Removes (names ++ names') m'' where
  config := h'.config.trans h.config
  sessions := by
    rw [h'.sessions, h.sessions, List.filter_filter]
    congr 1
    funext p
    simp [Bool.and_comm]
  alive := h'.alive.trans h.alive
  nameCount := h'.nameCount.trans h.nameCount
  spawnCount := h'.spawnCount.trans h.spawnCount
  held := fun horder => (h'.held (h.inOrder horder)).trans (h.held horder)
  host := h.host.trans h'.host

end Removes

/-! ### What removes sessions -/

theorem removes_reap (m : Multiplexer σ) (name : String) : m.Removes [name] (m.reap name) := by
  cases hs : m.registry.session? name with
  | none =>
    rw [reap_of_none hs]
    have hfree : m.registry.sessions.filter (fun p => decide (p.1 ∉ [name])) =
        m.registry.sessions := by
      rw [List.filter_eq_self]
      intro p hp
      have hne := List.lookup_eq_none_iff.mp hs p hp
      rw [bne_iff_ne] at hne
      simpa using hne.symm
    exact { Removes.refl m with sessions := hfree.symm }
  | some s =>
    obtain ⟨gone, host, hhost, heq⟩ := reap_eq hs
    have hfields : ((m.registry.remove name).bury s.child gone).sessions =
          (m.registry.remove name).sessions ∧
        ((m.registry.remove name).bury s.child gone).alive = m.registry.alive ∧
        ((m.registry.remove name).bury s.child gone).nameCount = m.registry.nameCount ∧
        ((m.registry.remove name).bury s.child gone).spawnCount = m.registry.spawnCount := by
      unfold Registry.bury
      split <;> exact ⟨rfl, rfl, rfl, rfl⟩
    obtain ⟨hsessions, halive, hnames, hcount⟩ := hfields
    rw [heq]
    exact
      { config := rfl
        sessions := hsessions.trans (by simp [Registry.remove])
        alive := halive
        nameCount := hnames
        spawnCount := hcount
        held := fun horder => horder.held_remove hs gone
        host := hhost }

theorem removes_foldl_reap (m : Multiplexer σ) (names : List String) :
    m.Removes names (names.foldl reap m) := by
  induction names generalizing m with
  | nil => exact .refl m
  | cons name rest ih => exact (m.removes_reap name).trans (ih (m.reap name))

theorem removes_collectZombies (m : Multiplexer σ) : m.Removes [] m.collectZombies := by
  obtain ⟨host, zombies, collected, hhost, hperm, heq⟩ := m.collectZombies_eq
  rw [heq]
  exact { Removes.refl m with held := fun _ => hperm.append_left _, host := hhost }

theorem Removes.collect (h : Removes names m m') : m.Removes names m'.collectZombies := by
  have hcollected := h.trans m'.removes_collectZombies
  rwa [List.append_nil] at hcollected

/-- **When the loop stops**, no session is left. -/
theorem removes_stop (m : Multiplexer σ) : m.Removes m.names m.reapAll.collectZombies :=
  (m.removes_foldl_reap m.names).collect

theorem Removes.sessions_of_names (h : Removes m.names m m') : m'.registry.sessions = [] := by
  rw [h.sessions, List.filter_eq_nil_iff]
  intro p hp
  have hmem : p.1 ∈ m.names := List.mem_map_of_mem hp
  simpa using hmem

/-- The registry before a sweep: what was asked for is being done. -/
def beforeSweep (m : Multiplexer σ) : Multiplexer σ :=
  m.mapRegistry fun r => { r with sweepDue := false }

/-- **What the end of a pass removes**: behind the updates nothing if no sweep was asked for, or the
sessions that are to end. -/
theorem removes_finishPass (m : Multiplexer σ) (now lastSweep : Nat) :
    let flushed := m.flush now
    ∃ names, flushed.Removes names (m.finishPass now lastSweep).2 ∧
      ((flushed.registry.sweepDue = false ∧ names = []) ∨
        names = flushed.registry.expired now flushed.config.idleTimeout) := by
  intro flushed
  unfold finishPass
  dsimp only
  by_cases hsweep : flushed.registry.sweepDue || decide (sweepInterval ≤ now - lastSweep)
  · rw [if_pos hsweep]
    have hremoves := (flushed.beforeSweep.removes_foldl_reap
      (flushed.registry.expired now flushed.config.idleTimeout)).collect
    exact ⟨_, { hremoves with }, .inr rfl⟩
  · rw [if_neg hsweep]
    have hdue : flushed.registry.sweepDue = false := by
      rw [Bool.or_eq_true, not_or] at hsweep
      simpa using hsweep.1
    exact ⟨[], flushed.removes_collectZombies, .inl ⟨hdue, rfl⟩⟩

end Multiplexer

end GlassTty
