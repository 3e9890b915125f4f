import GlassTty.Proofs.Session.Tending

/-!
# What stays while sessions are tended

Whatever is done to the sessions, they stay who they are as long as none is opened or removed
(`GlassTty.Multiplexer.Kept`): the same names stand in the roster with the same children, what the
owner is told is output of live sessions, a session that is condemned stays so, and one that is
condemned has asked for a sweep (`GlassTty.Registry.MarksAsk`).
-/

namespace GlassTty

variable {σ : Type}

namespace Registry

variable {r : Registry} {name : String}

/-- A condemned session has asked for a sweep. -/
def MarksAsk (r : Registry) : Prop :=
  ∀ name s, r.session? name = some s → s.condemned = true → r.sweepDue = true

theorem isLive_eq_isSome_child? (r : Registry) (name : String) :
    r.isLive name = (r.child? name).isSome := by
  rw [child?, Option.isSome_map, isLive]

theorem condemn_of_none (h : r.session? name = none) : r.condemn name = r := by
  unfold condemn
  rw [h]

theorem condemn_of_some {s : Session} (h : r.session? name = some s) :
    r.condemn name = { r.put name { s with condemned := true } with sweepDue := true } := by
  unfold condemn
  rw [h]

theorem roster_condemnAll (r : Registry) : r.condemnAll.roster = r.roster := by
  simp [roster, condemnAll, Function.comp_def]

theorem InOrder.condemnAll (h : r.InOrder) : r.condemnAll.InOrder := by
  rw [InOrder, names_eq_map_roster, roster_condemnAll, ← names_eq_map_roster]
  exact h

theorem session?_condemnAll (r : Registry) (name : String) :
    r.condemnAll.session? name = (r.session? name).map ({ · with condemned := true }) := by
  unfold session? Registry.condemnAll
  induction r.sessions with
  | nil => rfl
  | cons first rest ih =>
    obtain ⟨key, t⟩ := first
    rw [List.map_cons, lookup_cons_ite, lookup_cons_ite]
    split
    · rfl
    · exact ih

end Registry

namespace Multiplexer

/-- **What is kept of the sessions** from one state to a later one. -/
structure Kept (m m' : Multiplexer σ) : Prop where
  config : m'.config = m.config
  inOrder : m'.registry.InOrder
  roster : m'.registry.roster = m.registry.roster
  told : ∃ news : List (String × TerminalEvent),
    m'.told = m.told ++ news.map (fun p => .output p.1 p.2) ∧
      ∀ p ∈ news, m.registry.isLive p.1 = true
  alive : m'.registry.alive = true → m.registry.alive = true
  spawnCount : m'.registry.spawnCount = m.registry.spawnCount
  zombies : m'.registry.zombies = m.registry.zombies
  collected : m'.registry.collected = m.registry.collected
  condemned : ∀ name s, m.registry.session? name = some s → s.condemned = true →
    ∃ s', m'.registry.session? name = some s' ∧ s'.condemned = true
  marksAsk : m.registry.MarksAsk → m'.registry.MarksAsk

namespace Kept

variable {m m' m'' : Multiplexer σ}

theorem refl (h : m.registry.InOrder) : m.Kept m where
  config := rfl
  inOrder := h
  roster := rfl
  told := ⟨[], by simp, by simp⟩
  alive := id
  spawnCount := rfl
  zombies := rfl
  collected := rfl
  condemned := fun _ s hs hmark => ⟨s, hs, hmark⟩
  marksAsk := id

theorem child? (h : m.Kept m') (name : String) :
    m'.registry.child? name = m.registry.child? name := by
  rw [Registry.child?_eq_lookup_roster, h.roster, ← Registry.child?_eq_lookup_roster]

theorem isLive (h : m.Kept m') (name : String) :
    m'.registry.isLive name = m.registry.isLive name := by
  rw [Registry.isLive_eq_isSome_child?, h.child?, ← Registry.isLive_eq_isSome_child?]

theorem trans (h : m.Kept m') (h' : m'.Kept m'') : m.Kept m'' where
  config := h'.config.trans h.config
  inOrder := h'.inOrder
  roster := h'.roster.trans h.roster
  told := by
    obtain ⟨news, htold, hlive⟩ := h.told
    obtain ⟨news', htold', hlive'⟩ := h'.told
    refine ⟨news ++ news', by rw [htold', htold, List.map_append, List.append_assoc], ?_⟩
    intro p hp
    rcases List.mem_append.mp hp with hp | hp
    · exact hlive p hp
    · rw [← h.isLive]
      exact hlive' p hp
  alive := fun halive => h.alive (h'.alive halive)
  spawnCount := h'.spawnCount.trans h.spawnCount
  zombies := h'.zombies.trans h.zombies
  collected := h'.collected.trans h.collected
  condemned := by
    intro name s hs hmark
    obtain ⟨s', hs', hmark'⟩ := h.condemned name s hs hmark
    exact h'.condemned name s' hs' hmark'
  marksAsk := fun hmarks => h'.marksAsk (h.marksAsk hmarks)

/-- The host may change at any time. -/
theorem withHost (h : m.Kept m') (host : σ) : m.Kept { m' with host } :=
  { h with }

/-- **A session that is put back** with its child and its mark. -/
theorem put (h : m.registry.InOrder) {name : String} {s t : Session}
    (hs : m.registry.session? name = some s) (hchild : t.child = s.child)
    (hmark : t.condemned = s.condemned) (host : σ) :
    m.Kept { m with host, registry := m.registry.put name t } :=
  { Kept.refl h with
    inOrder := h.put name t
    roster := h.roster_put hs hchild
    condemned := by
      intro other u hu humark
      rw [Registry.session?_put]
      by_cases hother : other = name
      · subst hother
        obtain rfl : u = s := Option.some.inj (hu.symm.trans hs)
        exact ⟨t, if_pos rfl, hmark.trans humark⟩
      · exact ⟨u, by rw [if_neg hother, hu], humark⟩
    marksAsk := by
      intro hmarks other u hu humark
      rw [Registry.session?_put] at hu
      by_cases hother : other = name
      · obtain rfl : t = u := Option.some.inj (by rwa [if_pos hother] at hu)
        exact hmarks name s hs (hmark.symm.trans humark)
      · rw [if_neg hother] at hu
        exact hmarks other u hu humark }

theorem kill (h : m.registry.InOrder) (name : String) : m.Kept (m.kill name) := by
  unfold Multiplexer.kill mapRegistry
  dsimp only
  cases hs : m.registry.session? name with
  | none =>
    rw [Registry.condemn_of_none hs]
    exact refl h
  | some s =>
    rw [Registry.condemn_of_some hs]
    exact
      { Kept.refl h with
        inOrder := h.put name _
        roster := h.roster_put hs rfl
        condemned := by
          intro other u hu humark
          by_cases hother : other = name
          · exact ⟨_, (Registry.session?_put ..).trans (if_pos hother), rfl⟩
          · exact ⟨u, ((Registry.session?_put ..).trans (if_neg hother)).trans hu, humark⟩
        marksAsk := fun _ _ _ _ _ => rfl }

theorem killAll (h : m.registry.InOrder) : m.Kept m.killAll :=
  { Kept.refl h with
    inOrder := h.condemnAll
    roster := m.registry.roster_condemnAll
    condemned := by
      intro name s hs _
      exact ⟨_, (m.registry.session?_condemnAll name).trans (by rw [hs]; rfl), rfl⟩
    marksAsk := fun _ _ _ _ _ => rfl }

end Kept

variable [SessionHost σ] {noted : Option Nat} {m m' : Multiplexer σ}

theorem Tending.kept (h : Tending noted m m') (horder : m.registry.InOrder) : m.Kept m' := by
  cases h with
  | handle h => exact (Kept.refl horder).withHost _
  | look => exact (Kept.refl horder).withHost _
  | count n => exact { Kept.refl horder with }
  | ask hs files operation hquiet => exact .put horder hs (by rfl) (by rfl) m.host
  | output hs files bytes => exact .put horder hs (by rfl) (by rfl) _
  | report _ hs => exact .put horder hs (by rfl) (by rfl) m.host
  | conclude hs => exact .put horder hs (by rfl) (by rfl) _
  | @tell name hlive events =>
    exact
      { Kept.refl horder with
        told :=
          ⟨events.map (name, ·), by simp [Function.comp_def], by simpa using fun _ _ => hlive⟩ }
  | condemn name => exact .kill horder name
  | condemnAll => exact .killAll horder
  | stop => exact { Kept.refl horder with alive := fun h => by cases h }

/-- **Whatever is done to the sessions keeps them.** -/
theorem Tends.kept (h : Tends noted m m') (horder : m.registry.InOrder) : m.Kept m' := by
  induction h with
  | refl => exact .refl horder
  | tail _ hlast ih => exact ih.trans (hlast.kept ih.inOrder)

end Multiplexer

end GlassTty
