import GlassTty.Host.FileSystem
import Mathlib.Data.List.Basic

/-!
# Names in normal form

A place has one name that goes straight down to it, without dots and without a slash too many
(`GlassTty.Path.IsNormal`). This name has the components one expects
(`GlassTty.Path.components_placeText`), so it leads there from everywhere
(`GlassTty.FileSystem.placeFrom_placeText`).

The names of a place are what stands between the slashes of a text, so that cutting a text at its
slashes and putting it together are the two sides of it. For both the library has its own words,
`List.splitOn` and `List.intercalate`.
-/

namespace GlassTty

namespace Path

/-! ### Parts of a name -/

theorem exists_eq_cons_of_isAbsolute {path : List Char} (h : isAbsolute path = true) :
    ∃ rest, path = '/' :: rest :=
  List.head?_eq_some_iff.mp (of_decide_eq_true h)

theorem parts_eq_splitOn (path : List Char) : parts path = path.splitOn '/' := by
  induction path with
  | nil => rfl
  | cons c rest ih =>
    rw [parts, ih, List.splitOn_cons_eq_if_modifyHead]
    obtain ⟨part, more, hparts⟩ := List.exists_cons_of_ne_nil (List.splitOn_ne_nil '/' rest)
    by_cases hc : c = '/'
    · simp [hc]
    · simp [hc, hparts]

theorem parts_ne_nil (path : List Char) : parts path ≠ [] :=
  parts_eq_splitOn path ▸ List.splitOn_ne_nil '/' path

/-- What is put together with slashes comes apart again. -/
theorem parts_intercalate {names : List (List Char)} (hne : names ≠ [])
    (h : ∀ name ∈ names, '/' ∉ name) : parts (['/'].intercalate names) = names := by
  rw [parts_eq_splitOn, List.splitOn_intercalate '/' h hne]

theorem intercalate_parts (path : List Char) : ['/'].intercalate (parts path) = path := by
  rw [parts_eq_splitOn, List.intercalate_splitOn]

/-- There is no slash left in a part. -/
theorem not_mem_of_mem_parts {path part : List Char} (h : part ∈ parts path) : '/' ∉ part := by
  induction path generalizing part with
  | nil =>
    rw [List.mem_singleton.mp h]
    exact List.not_mem_nil
  | cons c rest ih =>
    obtain ⟨first, more, hparts⟩ := List.exists_cons_of_ne_nil (parts_ne_nil rest)
    rw [parts, hparts] at h
    rw [hparts] at ih
    by_cases hc : c = '/'
    · rw [if_pos hc] at h
      obtain rfl | h := List.mem_cons.mp h
      · exact List.not_mem_nil
      · exact ih h
    · rw [if_neg hc] at h
      obtain rfl | h := List.mem_cons.mp h
      · exact List.not_mem_cons_of_ne_of_not_mem (Ne.symm hc) (ih List.mem_cons_self)
      · exact ih (List.mem_cons_of_mem first h)

/-! ### Normal form -/

/-- A part of a name that leads one step down: it is not empty, and not one dot or two. -/
structure IsStep (part : List Char) : Prop where
  ne_nil : part ≠ []
  ne_current : part ≠ ['.']
  ne_parent : part ≠ ['.', '.']

instance (part : List Char) : Decidable (IsStep part) :=
  decidable_of_iff (part ≠ [] ∧ part ≠ ['.'] ∧ part ≠ ['.', '.'])
    ⟨fun h => ⟨h.1, h.2.1, h.2.2⟩, fun h => ⟨h.ne_nil, h.ne_current, h.ne_parent⟩⟩

/-- **A name in normal form**: it begins at the root, and every part behind a slash leads down. Only
the root itself ends in a slash. -/
def IsNormal (path : List Char) : Prop :=
  path = ['/'] ∨ isAbsolute path = true ∧ ∀ part ∈ (parts path).tail, IsStep part

instance (path : List Char) : Decidable (IsNormal path) :=
  inferInstanceAs (Decidable (_ ∨ _))

/-- A place whose names can stand in a text. -/
def IsNamed (place : Place) : Prop :=
  ∀ name ∈ place, IsStep name ∧ '/' ∉ name

theorem IsNamed.of_append {left right : Place} (h : IsNamed (left ++ right)) :
    IsNamed left ∧ IsNamed right :=
  ⟨fun name hname => h name (List.mem_append_left right hname),
    fun name hname => h name (List.mem_append_right left hname)⟩

/-- **A name in normal form is the text of a place.** -/
theorem IsNormal.exists_place {path : List Char} (h : IsNormal path) :
    ∃ place, IsNamed place ∧ path = FileSystem.placeText place := by
  obtain rfl | ⟨habsolute, hparts⟩ := h
  · exact ⟨[], nofun, rfl⟩
  · obtain ⟨rest, rfl⟩ := exists_eq_cons_of_isAbsolute habsolute
    rw [parts, if_pos rfl, List.tail_cons] at hparts
    refine ⟨parts rest, fun name hname => ⟨hparts name hname, not_mem_of_mem_parts hname⟩, ?_⟩
    rw [FileSystem.placeText, intercalate_parts]

/-! ### Components -/

/-- A component that is written between slashes. -/
def IsWritten : Component → Prop
  | .root => False
  | .current => False
  | .parent => True
  | .normal name => IsStep name ∧ '/' ∉ name

namespace IsWritten

variable {c : Component}

theorem parent : IsWritten .parent :=
  trivial

theorem text_ne_nil (h : IsWritten c) : c.text ≠ [] := by
  cases c with
  | root => exact h.elim
  | current => exact h.elim
  | parent => exact List.cons_ne_nil _ _
  | normal name => exact h.1.ne_nil

theorem not_mem_text (h : IsWritten c) : '/' ∉ c.text := by
  cases c with
  | root => exact h.elim
  | current => exact h.elim
  | parent => decide
  | normal name => exact h.2

theorem ofPart_text (h : IsWritten c) : Component.ofPart c.text = c := by
  cases c with
  | root => exact h.elim
  | current => exact h.elim
  | parent => rfl
  | normal name =>
    rw [Component.ofPart, Component.text, if_neg h.1.ne_current, if_neg h.1.ne_parent]

/-- A component is known by its text. -/
theorem eq_of_text_eq {d : Component} (hc : IsWritten c) (hd : IsWritten d)
    (h : c.text = d.text) : c = d := by
  rw [← hc.ofPart_text, h, hd.ofPart_text]

theorem ne_current (h : IsWritten c) : c ≠ .current := by
  rintro rfl
  exact h

end IsWritten

section

variable {cs : List Component}

/-- The parts of a text that is made of components are these components. -/
theorem map_ofPart_filter (h : ∀ c ∈ cs, IsWritten c) :
    ((cs.map Component.text).filter (!·.isEmpty)).map Component.ofPart = cs := by
  have hfilter : (cs.map Component.text).filter (!·.isEmpty) = cs.map Component.text := by
    refine List.filter_eq_self.mpr fun part hpart => ?_
    obtain ⟨c, hc, rfl⟩ := List.mem_map.mp hpart
    simpa using (h c hc).text_ne_nil
  rw [hfilter, List.map_map]
  exact (List.map_congr_left fun c hc => (h c hc).ofPart_text).trans (List.map_id cs)

theorem filter_ne_current (h : ∀ c ∈ cs, IsWritten c) :
    cs.filter (· ≠ .current) = cs :=
  List.filter_eq_self.mpr fun c hc => decide_eq_true (h c hc).ne_current

theorem parts_intercalate_text (hne : cs ≠ []) (h : ∀ c ∈ cs, IsWritten c) :
    parts (['/'].intercalate (cs.map Component.text)) = cs.map Component.text := by
  refine parts_intercalate (by simpa using hne) fun part hpart => ?_
  obtain ⟨c, hc, rfl⟩ := List.mem_map.mp hpart
  exact (h c hc).not_mem_text

theorem isAbsolute_intercalate_text (h : ∀ c ∈ cs, IsWritten c) :
    isAbsolute (['/'].intercalate (cs.map Component.text)) = false := by
  cases cs with
  | nil => rfl
  | cons c rest =>
    obtain ⟨hc, -⟩ := List.forall_mem_cons.mp h
    obtain ⟨d, text, htext⟩ := List.exists_cons_of_ne_nil hc.text_ne_nil
    have hd : d ≠ '/' := fun hd => hc.not_mem_text (by rw [htext, hd]; exact List.mem_cons_self)
    rw [List.map_cons, htext, List.intercalate_cons_cons_left, isAbsolute, List.head?_cons]
    simpa using hd

/-- **A relative name has the components that it is made of.** -/
theorem components_intercalate_text (h : ∀ c ∈ cs, IsWritten c) :
    components (['/'].intercalate (cs.map Component.text)) = cs := by
  cases cs with
  | nil => rfl
  | cons first rest =>
    rw [components, isAbsolute_intercalate_text h,
      parts_intercalate_text (List.cons_ne_nil first rest) h, map_ofPart_filter h]
    simp only [Bool.false_eq_true, if_false, filter_ne_current (List.forall_mem_cons.mp h).2]

end

/-! ### Putting components together -/

/-- A slash comes between a directory and a name, if there is none yet. -/
theorem join_of_ne {directory path : List Char} (hdirectory : directory ≠ [])
    (hlast : directory.getLast? ≠ some '/') (hpath : path.head? ≠ some '/') :
    join directory path = directory ++ '/' :: path := by
  rw [join, isAbsolute, if_neg (by simpa using hpath), if_neg (by simp [hdirectory, hlast])]

theorem intercalate_append_cons (sep left right : List Char) (texts : List (List Char)) :
    sep.intercalate ((left ++ right) :: texts) = left ++ sep.intercalate (right :: texts) := by
  cases texts with
  | nil => simp only [List.intercalate_singleton]
  | cons text more => simp only [List.intercalate_cons_cons, List.append_assoc]

theorem foldl_join {cs : List Component} (h : ∀ c ∈ cs, IsWritten c) {directory : List Char}
    (hne : directory ≠ []) (hlast : directory.getLast? ≠ some '/') :
    cs.foldl (fun path c => join path c.text) directory =
      ['/'].intercalate (directory :: cs.map Component.text) := by
  induction cs generalizing directory with
  | nil => exact (List.intercalate_singleton).symm
  | cons c rest ih =>
    obtain ⟨hc, hrest⟩ := List.forall_mem_cons.mp h
    have hhead : c.text.head? ≠ some '/' := fun hhead =>
      hc.not_mem_text (List.mem_of_mem_head? hhead)
    have hlast' : (directory ++ '/' :: c.text).getLast? ≠ some '/' := by
      obtain ⟨d, text, htext⟩ := List.exists_cons_of_ne_nil hc.text_ne_nil
      rw [List.getLast?_append_cons, htext, List.getLast?_cons_cons, ← htext]
      exact fun hlast' => hc.not_mem_text (List.mem_of_mem_getLast? hlast')
    rw [List.foldl_cons, join_of_ne hne hlast hhead, ih hrest (by simp) hlast',
      intercalate_append_cons, List.intercalate_cons_cons_left, List.map_cons,
      List.intercalate_cons_cons, List.append_assoc, List.singleton_append]

/-- **Joining components** puts a slash between them. -/
theorem ofComponents_eq_intercalate {cs : List Component} (h : ∀ c ∈ cs, IsWritten c) :
    ofComponents cs = ['/'].intercalate (cs.map Component.text) := by
  cases cs with
  | nil => rfl
  | cons c rest =>
    obtain ⟨hc, hrest⟩ := List.forall_mem_cons.mp h
    have hfirst : join [] c.text = c.text := by simp [join]
    rw [ofComponents, List.foldl_cons, hfirst, foldl_join hrest hc.text_ne_nil, List.map_cons]
    exact fun hlast => hc.not_mem_text (List.mem_of_mem_getLast? hlast)

/-- **The components of a place** are the root and its names. -/
theorem components_placeText {place : Place} (h : IsNamed place) :
    components (FileSystem.placeText place) = .root :: place.map .normal := by
  have hwritten : ∀ c ∈ place.map Component.normal, IsWritten c := by
    intro c hc
    obtain ⟨name, hname, rfl⟩ := List.mem_map.mp hc
    exact h name hname
  have htexts : place = (place.map Component.normal).map Component.text := by
    rw [List.map_map]
    exact (List.map_id place).symm
  have hparts : ((parts (['/'].intercalate place)).filter (!·.isEmpty)).map Component.ofPart =
      place.map Component.normal := by
    cases place with
    | nil => rfl
    | cons name rest =>
      rw [parts_intercalate (List.cons_ne_nil name rest) fun name hname => (h name hname).2]
      nth_rewrite 1 [htexts]
      exact map_ofPart_filter hwritten
  have habsolute : isAbsolute ('/' :: ['/'].intercalate place) = true := rfl
  have hempty : ([] :: parts (['/'].intercalate place)).filter (!·.isEmpty) =
      (parts (['/'].intercalate place)).filter (!·.isEmpty) := rfl
  rw [FileSystem.placeText, components, habsolute, if_pos rfl, parts, if_pos rfl, hempty, hparts,
    filter_ne_current hwritten]

end Path

/-! ### Walking by the text alone -/

namespace FileSystem

open GlassTty.Path

theorem foldl_advance_normal (place names : Place) :
    (names.map Component.normal).foldl advance place = place ++ names := by
  induction names generalizing place with
  | nil => exact (List.append_nil place).symm
  | cons name rest ih =>
    rw [List.map_cons, List.foldl_cons, ih, advance, List.append_assoc, List.singleton_append]

/-- As many steps up as there are names lead out of them. -/
theorem foldl_advance_parent (place names : Place) :
    (List.replicate names.length Component.parent).foldl advance (place ++ names) = place := by
  induction hlength : names.length generalizing names with
  | zero =>
    rw [List.length_eq_zero_iff.mp hlength]
    exact List.append_nil place
  | succ n ih =>
    have hne : names ≠ [] := List.ne_nil_of_length_eq_add_one hlength
    rw [List.replicate_succ, List.foldl_cons, advance, List.dropLast_append_of_ne_nil hne]
    exact ih names.dropLast (by rw [List.length_dropLast, hlength, Nat.add_sub_cancel])

/-- The text of a place leads to it from everywhere. -/
theorem placeFrom_placeText {place : Place} (h : IsNamed place) (start : Place) :
    placeFrom start (placeText place) = place := by
  rw [placeFrom, components_placeText h, List.foldl_cons, foldl_advance_normal]
  exact List.nil_append place

end FileSystem

end GlassTty
