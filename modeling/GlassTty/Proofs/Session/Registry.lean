import GlassTty.Session.Registry
import Mathlib.Data.List.Basic

/-!
# The order of the sessions

The live sessions stand in the order of their names (`GlassTty.Registry.InOrder`), so that each name
has one place: before it are the sessions with smaller names, behind it those with greater ones
(`GlassTty.Registry.Split`). A session is put there, also in place of another of the same name
(`GlassTty.Registry.Split.sessions_put`), and nothing else is touched.

What counts of a session for its owner is its name and its child. A registry is looked at as a list
of these (`GlassTty.Registry.roster`), which stays as it is when a live session is put back with the
same child (`GlassTty.Registry.InOrder.roster_put`).
-/

namespace GlassTty.Registry

variable {r : Registry} {name other : String} {s t : Session}

/-! ### Looking up -/

theorem lookup_cons_ite (key : String) (s : Session) (rest : List (String × Session))
    (other : String) :
    ((key, s) :: rest).lookup other = if other = key then some s else rest.lookup other := by
  rw [List.lookup_cons]
  by_cases h : other = key
  · simp [h]
  · rw [if_neg h, beq_eq_false_iff_ne.mpr h]

theorem lookup_insertByName (name : String) (s : Session) (l : List (String × Session))
    (other : String) :
    (insertByName name s l).lookup other = if other = name then some s else l.lookup other := by
  induction l with
  | nil => exact lookup_cons_ite name s [] other
  | cons first rest ih =>
    obtain ⟨key, t⟩ := first
    unfold insertByName
    by_cases hsame : name = key
    · subst hsame
      rw [if_pos rfl, lookup_cons_ite, lookup_cons_ite]
      split <;> rfl
    · by_cases hlt : name < key
      · rw [if_neg hsame, if_pos hlt, lookup_cons_ite]
      · rw [if_neg hsame, if_neg hlt, lookup_cons_ite, lookup_cons_ite, ih]
        by_cases hkey : other = key
        · rw [if_pos hkey, if_pos hkey, if_neg fun h => hsame (h.symm.trans hkey)]
        · rw [if_neg hkey, if_neg hkey]

@[simp]
theorem session?_put (r : Registry) (name : String) (s : Session) (other : String) :
    (r.put name s).session? other = if other = name then some s else r.session? other :=
  lookup_insertByName name s r.sessions other

/-- Sessions are left out by their names. -/
theorem lookup_filter (keep : String → Bool) (l : List (String × Session)) (other : String) :
    (l.filter fun p => keep p.1).lookup other = if keep other then l.lookup other else none := by
  induction l with
  | nil => simp
  | cons first rest ih =>
    obtain ⟨key, t⟩ := first
    by_cases hkey : keep key = true
    · rw [List.filter_cons_of_pos (by exact hkey), lookup_cons_ite, lookup_cons_ite, ih]
      by_cases h : other = key
      · rw [if_pos h, if_pos h, h, if_pos hkey]
      · rw [if_neg h, if_neg h]
    · rw [List.filter_cons_of_neg (by exact hkey), ih, lookup_cons_ite]
      by_cases h : other = key
      · rw [h, if_neg hkey, if_neg hkey]
      · rw [if_neg h]

theorem isLive_iff_mem_names : r.isLive name = true ↔ name ∈ r.names := by
  rw [isLive, session?, List.lookup_isSome_iff, names, List.mem_map]
  constructor
  · rintro ⟨p, hp, hname⟩
    exact ⟨p, hp, (beq_iff_eq.mp hname).symm⟩
  · rintro ⟨p, hp, rfl⟩
    exact ⟨p, hp, beq_self_eq_true _⟩

theorem mem_of_session? (h : r.session? name = some s) : (name, s) ∈ r.sessions := by
  obtain ⟨before, after, hsplit, -⟩ := List.lookup_eq_some_iff.mp h
  simp [hsplit]

/-! ### The place of a name -/

/-- The sessions are in the order of their names, and no two of them have the same. -/
def InOrder (r : Registry) : Prop :=
  r.names.Pairwise (· < ·)

/-- **The place of a name**: what stands before it, perhaps a session of that name, and what stands
behind it. -/
structure Split (r : Registry) (name : String) (before after : List (String × Session)) : Prop where
  sessions : r.sessions = before ++ ((r.session? name).map (name, ·)).toList ++ after
  smaller : ∀ p ∈ before, p.1 < name
  greater : ∀ p ∈ after, name < p.1

theorem exists_split (h : r.InOrder) (name : String) :
    ∃ before after, r.Split name before after := by
  suffices hlist : ∀ l : List (String × Session), (l.map (·.1)).Pairwise (· < ·) →
      ∃ before after, l = before ++ ((l.lookup name).map (name, ·)).toList ++ after ∧
        (∀ p ∈ before, p.1 < name) ∧ ∀ p ∈ after, name < p.1 by
    obtain ⟨before, after, hsessions, hsmaller, hgreater⟩ := hlist r.sessions h
    exact ⟨before, after, hsessions, hsmaller, hgreater⟩
  intro l hl
  induction l with
  | nil => exact ⟨[], [], rfl, by simp, by simp⟩
  | cons first rest ih =>
    obtain ⟨key, t⟩ := first
    rw [List.map_cons, List.pairwise_cons] at hl
    obtain ⟨hfirst, hrest⟩ := hl
    have hgreater : ∀ p ∈ rest, key < p.1 := fun p hp => hfirst _ (List.mem_map_of_mem hp)
    rcases Std.lt_trichotomy name key with hlt | rfl | hgt
    · -- the name belongs before the first
      have hall : ∀ p ∈ (key, t) :: rest, name < p.1 := by
        intro p hp
        rcases List.mem_cons.mp hp with rfl | hp
        · exact hlt
        · exact String.lt_trans hlt (hgreater p hp)
      have hnone : ((key, t) :: rest).lookup name = none := by
        rw [List.lookup_eq_none_iff]
        intro p hp
        rw [bne_iff_ne]
        rintro rfl
        exact String.lt_irrefl _ (hall p hp)
      exact ⟨[], (key, t) :: rest, by rw [hnone]; rfl, by simp, hall⟩
    · exact ⟨[], rest, by simp, by simp, hgreater⟩
    · obtain ⟨before, after, hsplit, hsmaller, hafter⟩ := ih hrest
      have hne : (name == key) = false := by
        rw [beq_eq_false_iff_ne]
        rintro rfl
        exact String.lt_irrefl _ hgt
      refine ⟨(key, t) :: before, after, ?_, ?_, hafter⟩
      · rw [List.lookup_cons, hne, List.cons_append, List.cons_append, ← hsplit]
      · intro p hp
        rcases List.mem_cons.mp hp with rfl | hp
        · exact hgt
        · exact hsmaller p hp

namespace Split

variable {before after : List (String × Session)}

/-- **A session is put in its place.** -/
theorem sessions_put (h : r.Split name before after) (s : Session) :
    (r.put name s).sessions = before ++ (name, s) :: after := by
  have hskip : ∀ (x y : List (String × Session)), (∀ p ∈ x, p.1 < name) →
      insertByName name s (x ++ y) = x ++ insertByName name s y := by
    intro x y hx
    induction x with
    | nil => rfl
    | cons first x ih =>
      obtain ⟨key, t⟩ := first
      have hkey : key < name := hx _ List.mem_cons_self
      have hne : name ≠ key := by
        rintro rfl
        exact String.lt_irrefl _ hkey
      rw [List.cons_append, insertByName, if_neg hne, if_neg (String.lt_asymm hkey),
        ih fun p hp => hx p (List.mem_cons_of_mem _ hp)]
      rfl
  have hfront : insertByName name s after = (name, s) :: after := by
    cases after with
    | nil => rfl
    | cons first after =>
      obtain ⟨key, t⟩ := first
      have hkey : name < key := h.greater _ List.mem_cons_self
      have hne : name ≠ key := by
        rintro rfl
        exact String.lt_irrefl _ hkey
      rw [insertByName, if_neg hne, if_pos hkey]
  have hput : (r.put name s).sessions = insertByName name s r.sessions := rfl
  rw [hput, h.sessions, List.append_assoc, hskip _ _ h.smaller]
  cases r.session? name with
  | none => rw [Option.map_none, Option.toList_none, List.nil_append, hfront]
  | some t => simp [insertByName]

/-- What is left when the session is removed. -/
theorem sessions_remove (h : r.Split name before after) :
    (r.remove name).sessions = before ++ after := by
  have hkeep : ∀ x : List (String × Session), (∀ p ∈ x, p.1 ≠ name) →
      x.filter (·.1 ≠ name) = x := by
    intro x hx
    rw [List.filter_eq_self]
    simpa using hx
  have hsmaller : ∀ p ∈ before, p.1 ≠ name := by
    rintro p hp rfl
    exact String.lt_irrefl _ (h.smaller p hp)
  have hgreater : ∀ p ∈ after, p.1 ≠ name := by
    rintro p hp rfl
    exact String.lt_irrefl _ (h.greater p hp)
  have hremove : (r.remove name).sessions = r.sessions.filter (·.1 ≠ name) := rfl
  rw [hremove, h.sessions, List.filter_append, List.filter_append, hkeep _ hsmaller,
    hkeep _ hgreater]
  cases r.session? name <;> simp

end Split

/-! ### What keeps the order -/

theorem InOrder.of_sublist {r' : Registry} (h : r.InOrder) (hsub : r'.sessions.Sublist r.sessions) :
    r'.InOrder :=
  List.Pairwise.sublist (hsub.map _) h

theorem InOrder.remove (h : r.InOrder) (name : String) : (r.remove name).InOrder :=
  h.of_sublist List.filter_sublist

theorem InOrder.put (h : r.InOrder) (name : String) (s : Session) : (r.put name s).InOrder := by
  obtain ⟨before, after, hsplit⟩ := exists_split h name
  have hrest : (before ++ after).map (·.1) |>.Pairwise (· < ·) := by
    have hremove := h.remove name
    rwa [InOrder, names, hsplit.sessions_remove] at hremove
  rw [InOrder, names, hsplit.sessions_put]
  rw [List.map_append, List.pairwise_append] at hrest
  rw [List.map_append, List.map_cons, List.pairwise_append, List.pairwise_cons]
  obtain ⟨hbefore, hafter, hcross⟩ := hrest
  refine ⟨hbefore, ⟨?_, hafter⟩, ?_⟩
  · intro key hkey
    obtain ⟨p, hp, rfl⟩ := List.mem_map.mp hkey
    exact hsplit.greater p hp
  · intro key hkey other hother
    obtain ⟨p, hp, rfl⟩ := List.mem_map.mp hkey
    rcases List.mem_cons.mp hother with rfl | hother
    · exact hsplit.smaller p hp
    · exact hcross _ (List.mem_map_of_mem hp) _ hother

/-- A session is where its name is looked up. -/
theorem InOrder.mem_sessions (h : r.InOrder) :
    (name, s) ∈ r.sessions ↔ r.session? name = some s := by
  refine ⟨fun hmem => ?_, mem_of_session?⟩
  obtain ⟨before, after, hsplit⟩ := exists_split h name
  rw [hsplit.sessions] at hmem
  simp only [List.mem_append, Option.mem_toList, Option.map_eq_some_iff] at hmem
  rcases hmem with (hbefore | ⟨t, ht, heq⟩) | hafter
  · exact absurd (hsplit.smaller _ hbefore) (String.lt_irrefl _)
  · cases heq
    exact ht
  · exact absurd (hsplit.greater _ hafter) (String.lt_irrefl _)

/-! ### The roster -/

/-- The names of the live sessions, each with its child. -/
def roster (r : Registry) : List (String × ChildId) :=
  r.sessions.map fun (name, s) => (name, s.child)

/-- The child of a live session. -/
def child? (r : Registry) (name : String) : Option ChildId :=
  (r.session? name).map (·.child)

theorem child?_eq_lookup_roster (r : Registry) (name : String) :
    r.child? name = r.roster.lookup name := by
  unfold child? session? roster
  induction r.sessions with
  | nil => rfl
  | cons first rest ih =>
    obtain ⟨key, t⟩ := first
    rw [List.map_cons, List.lookup_cons, List.lookup_cons, ← ih]
    cases name == key <;> rfl

theorem mem_roster_of_child? {child : ChildId} (h : r.child? name = some child) :
    (name, child) ∈ r.roster := by
  obtain ⟨t, ht, rfl⟩ := Option.map_eq_some_iff.mp h
  exact List.mem_map_of_mem (mem_of_session? ht)

theorem names_eq_map_roster (r : Registry) : r.names = r.roster.map (·.1) := by
  simp [names, roster]

/-- **A live session that is put back with its child** leaves the roster as it is. -/
theorem InOrder.roster_put (h : r.InOrder) (hlive : r.session? name = some t)
    (hchild : s.child = t.child) : (r.put name s).roster = r.roster := by
  obtain ⟨before, after, hsplit⟩ := exists_split h name
  have hsessions := hsplit.sessions
  rw [hlive] at hsessions
  rw [roster, roster, hsplit.sessions_put, hsessions]
  simp [hchild]

/-- A new session comes to the others. -/
theorem InOrder.roster_put_perm (h : r.InOrder) (hfree : r.session? name = none) (s : Session) :
    (r.put name s).roster.Perm ((name, s.child) :: r.roster) := by
  obtain ⟨before, after, hsplit⟩ := exists_split h name
  have hsessions := hsplit.sessions
  rw [hfree] at hsessions
  rw [roster, roster, hsplit.sessions_put, hsessions]
  simp

/-- What was removed and what is left are all there was. -/
theorem InOrder.roster_perm_remove (h : r.InOrder) (hlive : r.session? name = some s) :
    r.roster.Perm ((name, s.child) :: (r.remove name).roster) := by
  obtain ⟨before, after, hsplit⟩ := exists_split h name
  have hsessions := hsplit.sessions
  rw [hlive] at hsessions
  rw [roster, roster, hsplit.sessions_remove, hsessions]
  simp

end GlassTty.Registry
