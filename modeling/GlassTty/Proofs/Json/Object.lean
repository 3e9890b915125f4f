import GlassTty.Json.Value
import Mathlib.Data.List.Perm.Basic
import Mathlib.Data.List.Nodup

/-!
# The members of an object

An object has its members in the order of their names, one a name (`GlassTty.Json.Object.InOrder`).
Built from members with different names it has just these (`GlassTty.Json.Object.ofList_perm`), and
what is found by a name is the member that has it (`GlassTty.Json.Object.get?_eq_some_iff`).
-/

namespace GlassTty.Json.Object

variable {o o' : Object} {name : String} {value : Value}

/-- The names of the members. -/
def names (o : Object) : List String :=
  o.map Prod.fst

/-- The members are in the order of their names, and no two of them have the same. -/
def InOrder (o : Object) : Prop :=
  o.names.Pairwise (· < ·)

theorem InOrder.nodup_names (h : o.InOrder) : o.names.Nodup := by
  refine List.Pairwise.imp ?_ h
  rintro name _ hlt rfl
  exact String.lt_irrefl name hlt

/-! ### Members that are added -/

theorem mem_names_insert {other : String} :
    other ∈ (o.insert name value).names ↔ other = name ∨ other ∈ o.names := by
  induction o with
  | nil => simp [insert, names]
  | cons first rest ih =>
    obtain ⟨key, old⟩ := first
    simp only [names, List.map_cons, List.mem_cons] at ih ⊢
    rw [insert]
    split_ifs with hsame hless
    · simp [hsame]
    · simp
    · simp only [List.map_cons, List.mem_cons, ih]
      exact or_left_comm

theorem InOrder.insert (h : o.InOrder) : (o.insert name value).InOrder := by
  induction o with
  | nil => exact List.pairwise_singleton _ _
  | cons first rest ih =>
    obtain ⟨key, old⟩ := first
    obtain ⟨hfirst, hrest⟩ := List.pairwise_cons.mp h
    rw [Object.insert]
    split_ifs with hsame hless
    · exact hsame ▸ h
    · refine List.pairwise_cons.mpr ⟨fun other hother => ?_, h⟩
      rcases List.mem_cons.mp hother with rfl | hother
      · exact hless
      · exact String.lt_trans hless (hfirst other hother)
    · refine List.pairwise_cons.mpr ⟨fun other hother => ?_, ih hrest⟩
      rcases mem_names_insert.mp hother with rfl | hother
      · rcases Std.lt_trichotomy other key with hlt | heq | hgt
        · exact absurd hlt hless
        · exact absurd heq hsame
        · exact hgt
      · exact hfirst other hother

/-- A member of a new name comes to the others. -/
theorem insert_perm (h : name ∉ o.names) : (o.insert name value).Perm ((name, value) :: o) := by
  induction o with
  | nil => exact .refl _
  | cons first rest ih =>
    obtain ⟨key, old⟩ := first
    obtain ⟨hkey, hrest⟩ := List.ne_and_not_mem_of_not_mem_cons h
    rw [Object.insert, if_neg hkey]
    split_ifs
    · exact .refl _
    · exact ((ih hrest).cons _).trans (.swap _ _ _)

/-! ### Objects with given members -/

theorem inOrder_foldl_insert (members : List (String × Value)) (h : o.InOrder) :
    (members.foldl (fun o (name, value) => o.insert name value) o).InOrder := by
  induction members generalizing o with
  | nil => exact h
  | cons first rest ih => exact ih h.insert

theorem foldl_insert_perm {members : List (String × Value)}
    (h : (names (members ++ o)).Nodup) :
    (members.foldl (fun o (name, value) => o.insert name value) o).Perm (members ++ o) := by
  induction members generalizing o with
  | nil => exact .refl _
  | cons first rest ih =>
    obtain ⟨name, value⟩ := first
    have hmiddle : (rest ++ (name, value) :: o).Perm ((name, value) :: (rest ++ o)) :=
      List.perm_middle
    have hfresh : name ∉ o.names := fun hmem =>
      (List.nodup_cons.mp h).1 (by simp [names] at hmem ⊢; exact .inr hmem)
    have hinsert : (rest ++ o.insert name value).Perm (rest ++ (name, value) :: o) :=
      (insert_perm hfresh).append_left rest
    have hnodup : (names (rest ++ o.insert name value)).Nodup :=
      (((hinsert.trans hmiddle).map Prod.fst).nodup_iff).mpr h
    exact ((ih hnodup).trans hinsert).trans hmiddle

/-- **An object is in order**, whatever members it is given. -/
theorem inOrder_ofList (members : List (String × Value)) : (ofList members).InOrder :=
  inOrder_foldl_insert members List.Pairwise.nil

/-- **Members with different names** are all there, and no others. -/
theorem ofList_perm {members : List (String × Value)} (h : (names members).Nodup) :
    (ofList members).Perm members := by
  have hperm := @foldl_insert_perm [] members (by rwa [List.append_nil])
  rwa [List.append_nil] at hperm

/-- An object that is in order is built again from its members. -/
theorem ofList_eq_self (h : o.InOrder) : ofList o = o := by
  refine (ofList_perm h.nodup_names).eq_of_pairwise ?_ (List.pairwise_map.mp (inOrder_ofList o))
    (List.pairwise_map.mp h)
  intro member other _ _ hlt hgt
  exact absurd (String.lt_trans hlt hgt) (String.lt_irrefl _)

/-! ### Members that are looked up -/

theorem get?_eq_none_iff : o.get? name = none ↔ name ∉ o.names := by
  rw [get?, List.lookup_eq_none_iff, names, List.mem_map]
  constructor
  · rintro hall ⟨member, hmem, rfl⟩
    simpa using hall member hmem
  · intro hnot member hmem
    rw [bne_iff_ne]
    rintro rfl
    exact hnot ⟨member, hmem, rfl⟩

theorem mem_of_get? (h : o.get? name = some value) : (name, value) ∈ o := by
  obtain ⟨before, after, rfl, -⟩ := List.lookup_eq_some_iff.mp h
  simp

/-- **The member of a name** is the one that is found. -/
theorem get?_eq_some_iff (h : o.names.Nodup) : o.get? name = some value ↔ (name, value) ∈ o := by
  refine ⟨mem_of_get?, fun hmem => ?_⟩
  cases hget : o.get? name with
  | none => exact absurd (List.mem_map_of_mem hmem) (get?_eq_none_iff.mp hget)
  | some found =>
    have hsame := List.inj_on_of_nodup_map h (mem_of_get? hget) hmem rfl
    rw [(Prod.mk.inj hsame).2]

theorem get?_cons (key : String) (old : Value) (rest : Object) :
    get? ((key, old) :: rest) name = if name = key then some old else get? rest name := by
  rw [get?, List.lookup_cons]
  by_cases h : name = key
  · simp [h]
  · rw [if_neg h, beq_eq_false_iff_ne.mpr h, get?]

/-- **A member that is added** is found under its name, and the others are found as before. -/
theorem get?_insert (other : String) :
    (o.insert name value).get? other = if other = name then some value else o.get? other := by
  induction o with
  | nil => exact get?_cons name value []
  | cons first rest ih =>
    obtain ⟨key, old⟩ := first
    rw [Object.insert]
    by_cases hsame : name = key
    · rw [if_pos hsame, get?_cons, get?_cons, hsame]
      split <;> rfl
    · by_cases hless : name < key
      · rw [if_neg hsame, if_pos hless, get?_cons]
      · rw [if_neg hsame, if_neg hless, get?_cons, get?_cons, ih]
        by_cases hother : other = name
        · rw [if_pos hother, hother, if_neg hsame, if_pos rfl]
        · rw [if_neg hother, if_neg hother]

/-! ### Members that are taken away -/

theorem InOrder.erase (h : o.InOrder) (name : String) : (o.erase name).InOrder :=
  List.Pairwise.sublist (List.filter_sublist.map _) h

end GlassTty.Json.Object
