import GlassTty.Proofs.Paste.Relative

/-!
# Names that climb

A file that is far away keeps its absolute name: no name on the command line is to begin with three
steps up. The test for it looks for the text `../../../` at the beginning of the relative name, so
that it takes the third slash for the third step. That slash is there if the name goes on, and is
missing if it does not.

| the relative name | what is written |
|---|---|
| up to two steps up | the relative name |
| three steps up, and further components | the absolute name |
| three steps up, and nothing else | the relative name |

So one file is missed, the directory three levels above the working directory
(`GlassTty.FileUrl.relative_far`, `GlassTty.FileUrl.relative_third_parent`). All of this holds for
every absolute name, in normal form or not: the way to it is told as components
(`GlassTty.Path.Leaving`), of which those of a name in normal form are names.
-/

namespace GlassTty

namespace Path

open FileSystem (placeText)

/-! ### Components behind the root -/

theorem ofPart_eq_current_iff {part : List Char} :
    Component.ofPart part = .current ↔ part = ['.'] := by
  unfold Component.ofPart
  split_ifs with hcurrent hparent <;> simp [hcurrent]

theorem isWritten_ofPart {part : List Char} (hne : part ≠ []) (hcurrent : part ≠ ['.'])
    (hslash : '/' ∉ part) : IsWritten (.ofPart part) := by
  rw [Component.ofPart, if_neg hcurrent]
  split
  · exact .parent
  · next hparent => exact ⟨⟨hne, hcurrent, hparent⟩, hslash⟩

theorem components_of_isAbsolute {path : List Char} (h : isAbsolute path = true) :
    ∃ cs, components path = .root :: cs ∧ ∀ c ∈ cs, IsWritten c := by
  refine ⟨_, if_pos h, fun c hc => ?_⟩
  obtain ⟨hmem, hcurrent⟩ := List.mem_filter.mp hc
  obtain ⟨part, hpart, rfl⟩ := List.mem_map.mp hmem
  obtain ⟨hparts, hne⟩ := List.mem_filter.mp hpart
  refine isWritten_ofPart ?_ ?_ (not_mem_of_mem_parts hparts)
  · simpa using hne
  · simpa [ofPart_eq_current_iff] using hcurrent

theorem components_ofComponents {cs : List Component} (h : ∀ c ∈ cs, IsWritten c) :
    components (ofComponents cs) = cs := by
  rw [ofComponents_eq_intercalate h, components_intercalate_text h]

/-! ### Leaving a place -/

namespace Leaving

variable {base common up : Place} {target down : List Component}

/-- If the way down is the beginning of what is left, there is none. -/
theorem down_eq_nil (h : Leaving base target common up down) {more : List Component}
    (hup : up.map .normal = down ++ more) : down = [] := by
  cases down with
  | nil => rfl
  | cons d down =>
    obtain ⟨name, rest, rfl, rfl, -⟩ := List.map_eq_cons_iff.mp hup
    exact absurd rfl (h.apart name rfl)

theorem up_eq_of_base_eq (h : Leaving base target common up down) {more : Place}
    (hbase : base.map .normal = target ++ more.map .normal) : down = [] ∧ up = more := by
  rw [h.base_eq, h.target_eq, List.map_append, List.append_assoc] at hbase
  have hup := List.append_cancel_left hbase
  have hdown := h.down_eq_nil hup
  rw [hdown, List.nil_append] at hup
  exact ⟨hdown, map_normal_inj.mp hup⟩

end Leaving

/-- Three steps up. -/
def threeUp : List Component := List.replicate 3 .parent

/-- No name from the root begins with steps up. -/
theorem not_threeUp_of_isAbsolute {path : List Char} (h : isAbsolute path = true) :
    ¬threeUp <+: components path := by
  obtain ⟨cs, hcs, -⟩ := components_of_isAbsolute h
  rw [hcs]
  exact fun hprefix => nomatch (List.cons_prefix_cons.mp hprefix).1

/-- The way to a name in normal form is three steps up just if the name is that of the directory
three levels above. -/
theorem Leaving.eq_threeUp_iff {base target common up : Place} {down : List Component}
    (h : Leaving base (target.map .normal) common up down) :
    List.replicate up.length .parent ++ down = threeUp ↔
      ∃ names : Place, names.length = 3 ∧ base = target ++ names := by
  constructor
  · intro hway
    have hdown : down = [] := by
      refine List.eq_nil_iff_forall_not_mem.mpr fun c hc => ?_
      have hparent : c = .parent :=
        List.eq_of_mem_replicate (hway ▸ List.mem_append_right _ hc)
      have htarget : c ∈ target.map .normal := h.target_eq ▸ List.mem_append_right _ hc
      obtain ⟨name, -, rfl⟩ := List.mem_map.mp htarget
      cases hparent
    have hcommon : target = common := by
      have htarget := h.target_eq
      rw [hdown, List.append_nil] at htarget
      exact map_normal_inj.mp htarget
    refine ⟨up, ?_, hcommon ▸ h.base_eq⟩
    simpa [hdown, threeUp] using congrArg List.length hway
  · rintro ⟨names, hlength, rfl⟩
    obtain ⟨rfl, rfl⟩ := h.up_eq_of_base_eq (List.map_append ..)
    rw [List.append_nil, hlength, threeUp]

theorem relative?_of_isAbsolute {path : List Char} (h : isAbsolute path = true) {base : Place}
    (hbase : IsNamed base) :
    ∃ target common up down, components path = .root :: target ∧
      Leaving base target common up down ∧ (∀ c ∈ down, IsWritten c) ∧
      relative? path (placeText base) =
        some (ofComponents (List.replicate up.length .parent ++ down)) := by
  obtain ⟨target, hcomponents, hwritten⟩ := components_of_isAbsolute h
  obtain ⟨common, up, down, hleaving, hway⟩ := wayFrom_normal target base
  refine ⟨target, common, up, down, hcomponents, hleaving, fun c hc => ?_, ?_⟩
  · exact hwritten c (hleaving.target_eq ▸ List.mem_append_right _ hc)
  · rw [relative?, h, show isAbsolute (placeText base) = true from rfl, if_pos rfl, hcomponents,
      components_placeText hbase, wayFrom, if_pos ⟨rfl, rfl⟩, hway]
    rfl

end Path

namespace FileUrl

open GlassTty.Path

variable {url cwd : List Char}

/-- **The test for what is far away** finds three steps up, unless they are all there is. -/
theorem hasPrefix_farUp_iff_ne {cs : List Component} (h : ∀ c ∈ cs, IsWritten c) :
    Text.hasPrefix farUp (ofComponents cs) = true ↔ threeUp <+: cs ∧ cs ≠ threeUp := by
  rw [hasPrefix_farUp_iff h]
  constructor
  · rintro ⟨rest, hne, rfl⟩
    refine ⟨⟨rest, rfl⟩, fun hsame => hne ?_⟩
    exact List.append_right_eq_self.mp (show threeUp ++ rest = threeUp from hsame)
  · rintro ⟨⟨rest, rfl⟩, hne⟩
    exact ⟨rest, fun hnil => hne (by rw [hnil, List.append_nil]), rfl⟩

theorem relative_of_ne {form : List Char} (hne : pathOf url ≠ cwd)
    (hform : relative? (pathOf url) cwd = some form) :
    relative url cwd =
      if Text.hasPrefix farUp form ∨ form.isEmpty then pathOf url else form := by
  rw [relative, if_neg hne, hform]

section Climbing

variable {cs : List Component} (hcs : ∀ c ∈ cs, IsWritten c)
  (hform : relative? (pathOf url) cwd = some (ofComponents cs))
  (hsame : pathOf url = cwd → cs = [])

include hsame

/-- A name that begins with steps up is that of another place. -/
theorem pathOf_ne_of_threeUp (hup : threeUp <+: cs) : pathOf url ≠ cwd := by
  intro heq
  rw [hsame heq] at hup
  exact absurd hup (by decide)

include hform

/-- Three steps up are written as they are. -/
theorem relative_of_eq_threeUp (hup : cs = threeUp) : relative url cwd = ofComponents cs := by
  have hother := pathOf_ne_of_threeUp hsame (hup ▸ List.prefix_rfl)
  rw [relative_of_ne hother hform, if_neg]
  rw [hup]
  decide

include hcs

/-- A name that would begin with three steps up and goes on behind them is written absolute. -/
theorem relative_of_far (hup : threeUp <+: cs) (hne : cs ≠ threeUp) :
    relative url cwd = pathOf url := by
  rw [relative_of_ne (pathOf_ne_of_threeUp hsame hup) hform,
    if_pos (Or.inl ((hasPrefix_farUp_iff_ne hcs).mpr ⟨hup, hne⟩))]

/-- Nothing else that is written begins with three steps up. -/
theorem threeUp_relative_iff (hpath : isAbsolute (pathOf url) = true) :
    threeUp <+: components (relative url cwd) ↔ cs = threeUp := by
  constructor
  · intro hup
    by_cases heq : pathOf url = cwd
    · rw [relative, if_pos heq] at hup
      exact absurd hup (by decide)
    · rw [relative_of_ne heq hform] at hup
      split_ifs at hup with hfar
      · exact absurd hup (not_threeUp_of_isAbsolute hpath)
      · rw [components_ofComponents hcs] at hup
        exact not_not.mp fun hne =>
          hfar (Or.inl ((hasPrefix_farUp_iff_ne hcs).mpr ⟨hup, hne⟩))
  · intro hup
    rw [relative_of_eq_threeUp hform hsame hup, components_ofComponents hcs, hup]

end Climbing

/-- **A name that would begin with three steps up is written absolute**, unless there is nothing
behind these steps: then it is written as it is, and no other name begins so. For a name in normal
form this is the directory three levels above the working directory. -/
theorem relative_far (hpath : isAbsolute (pathOf url) = true) (hcwd : IsNormal cwd) :
    ∃ form, relative? (pathOf url) cwd = some form ∧
      (threeUp <+: components form → components form ≠ threeUp →
        relative url cwd = pathOf url) ∧
      (components form = threeUp → relative url cwd = form) ∧
      (threeUp <+: components (relative url cwd) ↔ components form = threeUp) ∧
      (IsNormal (pathOf url) → (components form = threeUp ↔
        ∃ names : Place, names.length = 3 ∧
          components cwd = components (pathOf url) ++ names.map .normal)) := by
  obtain ⟨base, hbase, rfl⟩ := hcwd.exists_place
  obtain ⟨target, common, up, down, hcomponents, hleaving, hdown, hform⟩ :=
    relative?_of_isAbsolute hpath hbase
  have hcs : ∀ c ∈ List.replicate up.length .parent ++ down, IsWritten c := by
    intro c hc
    obtain hc | hc := List.mem_append.mp hc
    · exact List.eq_of_mem_replicate hc ▸ .parent
    · exact hdown c hc
  -- from the working directory to itself there is no step
  have hsame : pathOf url = FileSystem.placeText base →
      List.replicate up.length .parent ++ down = [] := by
    intro heq
    rw [heq, components_placeText hbase] at hcomponents
    have hwhole : base.map .normal = target ++ ([] : Place).map .normal :=
      (List.cons.inj hcomponents).2.trans (List.append_nil target).symm
    obtain ⟨hdown, hup⟩ := hleaving.up_eq_of_base_eq hwhole
    rw [hdown, hup]
    rfl
  refine ⟨_, hform, ?_⟩
  rw [components_ofComponents hcs]
  refine ⟨relative_of_far hcs hform hsame, relative_of_eq_threeUp hform hsame,
    threeUp_relative_iff hcs hform hsame hpath, fun hnormal => ?_⟩
  obtain ⟨place, hplace, hurl⟩ := hnormal.exists_place
  rw [hurl, components_placeText hplace] at hcomponents ⊢
  obtain rfl := (List.cons.inj hcomponents).2
  rw [components_placeText hbase, hleaving.eq_threeUp_iff]
  refine exists_congr fun names => and_congr_right fun _ => ?_
  rw [List.cons_append, List.cons_inj_right, ← List.map_append]
  exact map_normal_inj.symm

/-- A file below the root is named absolute from three levels down, without the host of its URL. -/
theorem relative_far_box :
    let url := scheme ++ "box/x?v=1".toList
    let cwd := "/a/b/c".toList
    isAbsolute (pathOf url) = true ∧ IsNormal cwd ∧
      relative? (pathOf url) cwd = some "../../../x".toList ∧
      relative url cwd = "/x".toList := by
  intro url cwd
  have hpath : isAbsolute (pathOf url) = true := by decide
  have hcwd : IsNormal cwd := by decide
  have hform : relative? (pathOf url) cwd = some "../../../x".toList := by decide
  obtain ⟨form, hform', hfar, -⟩ := relative_far hpath hcwd
  obtain rfl : form = _ := Option.some.inj (hform'.symm.trans hform)
  exact ⟨hpath, hcwd, hform, hfar (by decide) (by decide)⟩

/-- The directory three levels above the working directory is named by three steps up. -/
theorem relative_third_parent :
    let url := scheme ++ "/a".toList
    let cwd := "/a/b/c/d".toList
    IsNormal (pathOf url) ∧ IsNormal cwd ∧
      relative? (pathOf url) cwd = some "../../..".toList ∧
      relative url cwd = "../../..".toList ∧ relative url cwd ≠ pathOf url ∧
      threeUp <+: components (relative url cwd) := by
  decide

end FileUrl

end GlassTty
