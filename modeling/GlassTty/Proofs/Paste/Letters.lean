import GlassTty.Paste.FileUrl
import GlassTty.Proofs.Host.Places
import GlassTty.Proofs.Text.Parts

/-!
# What a name is written with

A file is named on the command line with characters of its URL, and besides with dots and slashes
(`GlassTty.FileUrl.mem_relative`): of the working directory nothing is written, it is only left by
steps up. So what cannot stand in the URL cannot stand in the name either.
-/

namespace GlassTty.Path

/-! ### The characters of components -/

theorem mem_of_mem_parts {path part : List Char} (hpart : part ∈ parts path) {c : Char}
    (hc : c ∈ part) : c ∈ path := by
  induction path generalizing part with
  | nil =>
    rw [List.mem_singleton.mp hpart] at hc
    exact hc
  | cons d rest ih =>
    obtain ⟨first, more, hparts⟩ := List.exists_cons_of_ne_nil (parts_ne_nil rest)
    rw [parts, hparts] at hpart
    rw [hparts] at ih
    split_ifs at hpart with hd
    · obtain rfl | hpart := List.mem_cons.mp hpart
      · cases hc
      · exact List.mem_cons_of_mem d (ih hpart hc)
    · obtain rfl | hpart := List.mem_cons.mp hpart
      · obtain rfl | hc := List.mem_cons.mp hc
        · exact List.mem_cons_self
        · exact List.mem_cons_of_mem d (ih List.mem_cons_self hc)
      · exact List.mem_cons_of_mem d (ih (List.mem_cons_of_mem first hpart) hc)

theorem text_ofPart (part : List Char) : (Component.ofPart part).text = part := by
  unfold Component.ofPart
  split_ifs with hcurrent hparent
  · rw [hcurrent]
    rfl
  · rw [hparent]
    rfl
  · rfl

/-- A component is written with characters of its name. -/
theorem mem_of_mem_components {path : List Char} {component : Component}
    (h : component ∈ components path) {c : Char} (hc : c ∈ component.text) : c ∈ path := by
  have hnamed : ∀ {component}, component ∈ ((parts path).filter (!·.isEmpty)).map Component.ofPart →
      c ∈ component.text → c ∈ path := by
    intro component hmem hc
    obtain ⟨part, hpart, rfl⟩ := List.mem_map.mp hmem
    rw [text_ofPart] at hc
    exact mem_of_mem_parts (List.mem_of_mem_filter hpart) hc
  unfold components at h
  dsimp only at h
  split at h
  · next habsolute =>
    obtain rfl | h := List.mem_cons.mp h
    · obtain ⟨rest, rfl⟩ := exists_eq_cons_of_isAbsolute habsolute
      rw [List.mem_singleton.mp hc]
      exact List.mem_cons_self
    · exact hnamed (List.mem_of_mem_filter h) hc
  · split at h
    · cases h
    · next first rest hparts =>
      rw [hparts] at hnamed
      obtain rfl | h := List.mem_cons.mp h
      · exact hnamed List.mem_cons_self hc
      · exact hnamed (List.mem_cons_of_mem first (List.mem_of_mem_filter h)) hc

/-- The way from a place goes through the components of its target, and up. -/
theorem mem_of_mem_wayFrom {started : Bool} {target base way : List Component}
    (h : wayFrom started target base = some way) {component : Component} (hmem : component ∈ way) :
    component ∈ target ∨ component = .parent := by
  fun_induction wayFrom started target base generalizing way with
  | case1 =>
    cases h
    cases hmem
  | case2 =>
    cases h
    exact .inl hmem
  | case3 _ b base ih =>
    obtain ⟨way, hway, rfl⟩ := Option.map_eq_some_iff.mp h
    obtain rfl | hmem := List.mem_cons.mp hmem
    · exact .inr rfl
    · exact ih hway hmem
  | case4 started t target b base _ ih => exact (ih h hmem).imp_left (List.mem_cons_of_mem t)
  | case5 started t target base _ ih =>
    obtain ⟨way, hway, rfl⟩ := Option.map_eq_some_iff.mp h
    obtain rfl | hmem := List.mem_cons.mp hmem
    · exact .inl List.mem_cons_self
    · exact (ih hway hmem).imp_left (List.mem_cons_of_mem t)
  | case6 => cases h
  | case7 started t target b base =>
    cases h
    obtain hup | hdown := List.mem_append.mp hmem
    · refine .inr ?_
      obtain rfl | hup := List.mem_cons.mp hup
      · rfl
      · obtain ⟨-, -, rfl⟩ := List.mem_map.mp hup
        rfl
    · exact .inl hdown

/-! ### The characters of names -/

theorem mem_join {directory path : List Char} {c : Char} (h : c ∈ join directory path) :
    c ∈ directory ∨ c ∈ path ∨ c = '/' := by
  unfold join at h
  split_ifs at h
  · exact .inr (.inl h)
  · exact (List.mem_append.mp h).imp_right .inl
  · obtain h | h := List.mem_append.mp h
    · exact .inl h
    · exact .inr (List.mem_cons.mp h).symm

theorem mem_ofComponents {cs : List Component} {c : Char} (h : c ∈ ofComponents cs) :
    (∃ component ∈ cs, c ∈ component.text) ∨ c = '/' := by
  -- by induction on the components, whatever is written before them
  have hfold : ∀ (cs : List Component) (directory : List Char),
      c ∈ cs.foldl (fun path c => join path c.text) directory →
        c ∈ directory ∨ (∃ component ∈ cs, c ∈ component.text) ∨ c = '/' := by
    intro cs
    induction cs with
    | nil => exact fun directory hmem => .inl hmem
    | cons first rest ih =>
      intro directory hmem
      rcases ih _ hmem with hmem | ⟨component, hrest, hc⟩ | hslash
      · rcases mem_join hmem with hmem | hmem | hslash
        · exact .inl hmem
        · exact .inr (.inl ⟨first, List.mem_cons_self, hmem⟩)
        · exact .inr (.inr hslash)
      · exact .inr (.inl ⟨component, List.mem_cons_of_mem first hrest, hc⟩)
      · exact .inr (.inr hslash)
  exact (hfold cs [] h).resolve_left List.not_mem_nil

theorem mem_relative? {path base way : List Char} (h : relative? path base = some way) {c : Char}
    (hc : c ∈ way) : c ∈ path ∨ c = '.' ∨ c = '/' := by
  unfold relative? at h
  split_ifs at h
  · obtain ⟨cs, hcs, rfl⟩ := Option.map_eq_some_iff.mp h
    rcases mem_ofComponents hc with ⟨component, hmem, hc⟩ | hslash
    · rcases mem_of_mem_wayFrom hcs hmem with htarget | rfl
      · exact .inl (mem_of_mem_components htarget hc)
      · exact .inr (.inl (by simpa [Component.text] using hc))
    · exact .inr (.inr hslash)
  · cases h
    exact .inl hc

end GlassTty.Path

namespace GlassTty.FileUrl

open GlassTty.Path

theorem mem_pathOf {url : List Char} {c : Char} (h : c ∈ pathOf url) : c ∈ url ∨ c = '/' := by
  unfold pathOf at h
  split at h
  · next u hparse =>
    obtain ⟨rest, hrest, rfl⟩ := Option.map_eq_some_iff.mp hparse
    rw [Text.dropPrefix?_eq_some_iff] at hrest
    dsimp only at h
    split_ifs at h
    · exact .inr (List.mem_singleton.mp h)
    · have hname := (List.dropWhile_suffix _).subset h
      have hmem := (List.takeWhile_prefix _).subset hname
      exact .inl (hrest ▸ List.mem_append_right scheme hmem)
  · exact .inl h

theorem pathOf_ne_nil {url : List Char} (h : url ≠ []) : pathOf url ≠ [] := by
  unfold pathOf
  split
  · next u hparse =>
    obtain ⟨rest, -, rfl⟩ := Option.map_eq_some_iff.mp hparse
    dsimp only
    split_ifs with hempty
    · exact List.cons_ne_nil _ _
    · simpa using hempty
  · exact h

/-- **A file is named with its own characters**, dots and slashes. -/
theorem mem_relative {url cwd : List Char} {c : Char} (h : c ∈ relative url cwd) :
    c ∈ url ∨ c = '.' ∨ c = '/' := by
  have hpath : c ∈ pathOf url → c ∈ url ∨ c = '.' ∨ c = '/' := fun hmem =>
    (mem_pathOf hmem).imp_right .inr
  unfold relative at h
  dsimp only at h
  split_ifs at h
  · exact .inr (.inl (List.mem_singleton.mp h))
  · split at h
    · next way hway =>
      split_ifs at h
      · exact hpath h
      · rcases mem_relative? hway h with hmem | hdot | hslash
        · exact hpath hmem
        · exact .inr (.inl hdot)
        · exact .inr (.inr hslash)
    · exact hpath h

theorem forall_mem_relative {P : Char → Prop} {url cwd : List Char} (hdot : P '.') (hslash : P '/')
    (h : ∀ ch ∈ url, P ch) : ∀ ch ∈ relative url cwd, P ch := by
  intro ch hch
  rcases mem_relative hch with hmem | rfl | rfl
  · exact h ch hmem
  · exact hdot
  · exact hslash

theorem relative_ne_nil {url cwd : List Char} (h : url ≠ []) : relative url cwd ≠ [] := by
  unfold relative
  dsimp only
  split_ifs
  · exact List.cons_ne_nil _ _
  · split
    · split_ifs with hfar
      · exact pathOf_ne_nil h
      · simpa using fun hempty => hfar (.inr hempty)
    · exact pathOf_ne_nil h

end GlassTty.FileUrl
