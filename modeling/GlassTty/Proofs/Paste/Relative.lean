import GlassTty.Paste.FileUrl
import GlassTty.Proofs.Host.Places
import GlassTty.Proofs.Text.Parts
import Mathlib.Data.List.TakeWhile

/-!
# A file as seen from the working directory

A clicked file is written on the command line as seen from the working directory. Whichever form is
chosen – a dot, a way down or across, or the absolute name – the shell, which resolves it against
that directory, comes to the file that was clicked; and the absolute name is chosen only where it is
far away (`GlassTty.FileUrl.resolve_relative`).

The way to a place goes up from the directory to where the two part, and down from there
(`GlassTty.Path.relative?_placeText`). They part between names and not inside one: of `/home/a` and
`/home/ab` only `/home` is common, although the one text begins with the other.
-/

namespace GlassTty

namespace Path

open FileSystem (placeText placeFrom)

/-! ### The way from a place to another -/

/-- **Where two places part**: behind all the names that they have in common. -/
structure Parting (base target common up down : Place) : Prop where
  base_eq : base = common ++ up
  target_eq : target = common ++ down
  apart : ∀ name ∈ up.head?, name ∉ down.head?

/-- As many steps up as there are names to leave, and then the names down. -/
def way (up down : Place) : List Component :=
  List.replicate up.length .parent ++ down.map .normal

theorem wayFrom_nil_right (started : Bool) (target : List Component) :
    wayFrom started target [] = some target := by
  cases target <;> rfl

theorem wayFrom_nil_left (started : Bool) (names : Place) :
    wayFrom started [] (names.map .normal) = some (List.replicate names.length .parent) := by
  induction names generalizing started with
  | nil => rfl
  | cons name rest ih =>
    rw [List.map_cons, wayFrom, ih, List.length_cons, List.replicate_succ]
    rfl

/-- **Where the way from a place to some components leaves it**: behind all the names that they have
in common. -/
structure Leaving (base : Place) (target : List Component) (common up : Place)
    (down : List Component) : Prop where
  base_eq : base = common ++ up
  target_eq : target = common.map .normal ++ down
  apart : ∀ name ∈ up.head?, .normal name ∉ down.head?

/-- **The way from a place**: what it has in common with the components is left out. -/
theorem wayFrom_normal (target : List Component) (base : Place) :
    ∃ common up down, Leaving base target common up down ∧
      wayFrom false target (base.map .normal) =
        some (List.replicate up.length .parent ++ down) := by
  induction target generalizing base with
  | nil =>
    refine ⟨[], base, [], ⟨rfl, rfl, fun _ _ => nofun⟩, ?_⟩
    rw [List.append_nil]
    exact wayFrom_nil_left false base
  | cons t target ih =>
    cases base with
    | nil => exact ⟨[], [], t :: target, ⟨rfl, rfl, nofun⟩, wayFrom_nil_right false _⟩
    | cons b base =>
      rw [List.map_cons, wayFrom]
      by_cases hsame : t = .normal b
      · obtain ⟨common, up, down, hleaving, hway⟩ := ih base
        refine ⟨b :: common, up, down, ⟨?_, ?_, hleaving.apart⟩, ?_⟩
        · rw [hleaving.base_eq, List.cons_append]
        · rw [hleaving.target_eq, hsame, List.map_cons, List.cons_append]
        · rw [if_pos ⟨rfl, hsame⟩, hway]
      · refine ⟨[], b :: base, t :: target, ⟨rfl, rfl, ?_⟩, ?_⟩
        · simpa [eq_comm] using hsame
        · rw [if_neg (by simpa using hsame), if_neg (by simp), if_neg (by simp), List.map_map]
          simp [Function.comp_def, List.replicate_succ]

theorem map_normal_inj {left right : Place} :
    left.map Component.normal = right.map Component.normal ↔ left = right :=
  (List.map_injective_iff.mpr fun _ _ => Component.normal.inj).eq_iff

/-- **The way between places**: what they have in common is left out. -/
theorem wayFrom_names (target base : Place) :
    ∃ common up down, Parting base target common up down ∧
      wayFrom false (target.map .normal) (base.map .normal) = some (way up down) := by
  obtain ⟨common, up, down, h, hway⟩ := wayFrom_normal (target.map .normal) base
  obtain ⟨before, behind, rfl, hbefore, rfl⟩ := List.map_eq_append_iff.mp h.target_eq
  obtain rfl := map_normal_inj.mp hbefore
  refine ⟨before, up, behind, ⟨h.base_eq, rfl, fun name hname hdown => ?_⟩, hway⟩
  exact h.apart name hname (by rw [List.head?_map, hdown]; rfl)

/-- **The name of a place as seen from another** is the way between them. -/
theorem relative?_placeText {target base : Place} (htarget : IsNamed target)
    (hbase : IsNamed base) :
    ∃ common up down, Parting base target common up down ∧
      relative? (placeText target) (placeText base) = some (ofComponents (way up down)) := by
  obtain ⟨common, up, down, hparting, hway⟩ := wayFrom_names target base
  refine ⟨common, up, down, hparting, ?_⟩
  have habsolute (place : Place) : isAbsolute (placeText place) = true := rfl
  rw [relative?, habsolute, habsolute, if_pos rfl, components_placeText htarget,
    components_placeText hbase, wayFrom, if_pos ⟨rfl, rfl⟩, hway]
  rfl

theorem isWritten_of_mem_way {up down : Place} (h : IsNamed down) :
    ∀ c ∈ way up down, IsWritten c := by
  intro c hc
  obtain hc | hc := List.mem_append.mp hc
  · rw [List.eq_of_mem_replicate hc]
    exact .parent
  · obtain ⟨name, hname, rfl⟩ := List.mem_map.mp hc
    exact h name hname

theorem way_eq_nil_iff {up down : Place} : way up down = [] ↔ up = [] ∧ down = [] := by
  simp [way]

/-- Nothing goes up behind the names down. -/
theorem count_parent_way (up down : Place) : (way up down).count .parent = up.length := by
  have hdown : (down.map Component.normal).count .parent = 0 := by
    refine List.count_eq_zero.mpr fun hmem => ?_
    obtain ⟨name, -, hname⟩ := List.mem_map.mp hmem
    cases hname
  rw [way, List.count_append, List.count_replicate_self, hdown, Nat.add_zero]

/-! ### Going the way -/

/-- **The name that `way` stands for, seen from the directory `cwd`**, by the text alone: an
absolute name stays as it is, a dot is the directory, and two dots drop a component. -/
def resolve (cwd way : List Char) : List Char :=
  if isAbsolute way then way else placeText (placeFrom (placeFrom [] cwd) way)

/-- **The way leads to the place.** -/
theorem resolve_way {base target common up down : Place}
    (h : Parting base target common up down) (htarget : IsNamed target) (hbase : IsNamed base) :
    resolve (placeText base) (ofComponents (way up down)) = placeText target := by
  have hwritten : ∀ c ∈ way up down, IsWritten c :=
    isWritten_of_mem_way (h.target_eq ▸ htarget).of_append.2
  rw [resolve, ofComponents_eq_intercalate hwritten, isAbsolute_intercalate_text hwritten,
    if_neg Bool.false_ne_true, FileSystem.placeFrom_placeText hbase, placeFrom,
    components_intercalate_text hwritten, way, List.foldl_append, h.base_eq,
    FileSystem.foldl_advance_parent, FileSystem.foldl_advance_normal, h.target_eq]

theorem resolve_dot {place : Place} (h : IsNamed place) :
    resolve (placeText place) ['.'] = placeText place := by
  rw [resolve, if_neg (by decide), FileSystem.placeFrom_placeText h]
  rfl

end Path

namespace FileUrl

open GlassTty.Path

/-- The path of a URL without a host and a query. -/
theorem pathOf_scheme_append {path : List Char} (habsolute : isAbsolute path = true)
    (hquery : '?' ∉ path) : pathOf (scheme ++ path) = path := by
  obtain ⟨rest, rfl⟩ := exists_eq_cons_of_isAbsolute habsolute
  have hname : ('/' :: rest).takeWhile (· ≠ '?') = '/' :: rest := by
    refine List.takeWhile_eq_self_iff.mpr fun c hc => decide_eq_true ?_
    rintro rfl
    exact hquery hc
  rw [pathOf, parse?, Text.dropPrefix?_append, Option.map_some, hname]
  rfl

/-- **A way that is too far** begins with three steps up, and goes on behind them. -/
theorem hasPrefix_farUp_iff {cs : List Component} (h : ∀ c ∈ cs, IsWritten c) :
    Text.hasPrefix farUp (ofComponents cs) = true ↔
      ∃ rest, rest ≠ [] ∧ cs = .parent :: .parent :: .parent :: rest := by
  rw [Text.hasPrefix_iff, ofComponents_eq_intercalate h]
  constructor
  · rintro ⟨text, htext⟩
    have hne : cs ≠ [] := by
      rintro rfl
      cases htext
    have hparts : cs.map Component.text =
        Component.parent.text :: Component.parent.text :: Component.parent.text :: parts text := by
      rw [← parts_intercalate_text hne h, ← htext]
      rfl
    obtain ⟨first, cs, rfl, hfirst, hparts⟩ := List.map_eq_cons_iff.mp hparts
    obtain ⟨second, cs, rfl, hsecond, hparts⟩ := List.map_eq_cons_iff.mp hparts
    obtain ⟨third, rest, rfl, hthird, hparts⟩ := List.map_eq_cons_iff.mp hparts
    simp only [List.forall_mem_cons] at h
    obtain ⟨hwritten₁, hwritten₂, hwritten₃, -⟩ := h
    refine ⟨rest, ?_, ?_⟩
    · rintro rfl
      exact parts_ne_nil text hparts.symm
    · rw [hwritten₁.eq_of_text_eq .parent hfirst, hwritten₂.eq_of_text_eq .parent hsecond,
        hwritten₃.eq_of_text_eq .parent hthird]
  · rintro ⟨rest, hne, rfl⟩
    obtain ⟨c, more, rfl⟩ := List.exists_cons_of_ne_nil hne
    exact ⟨['/'].intercalate ((c :: more).map Component.text), rfl⟩

/-- **What is written names the file that was clicked**: resolved against the working directory it
is the path of the URL. It begins at the root only where the two part three names up or more. -/
theorem resolve_relative {path cwd : List Char} (hpath : IsNormal path) (hquery : '?' ∉ path)
    (hcwd : IsNormal cwd) :
    resolve cwd (relative (scheme ++ path) cwd) = path ∧
      (isAbsolute (relative (scheme ++ path) cwd) = true →
        ∃ base target common up down, cwd = FileSystem.placeText base ∧
          path = FileSystem.placeText target ∧ Parting base target common up down ∧
          3 ≤ up.length) := by
  obtain ⟨target, htarget, rfl⟩ := hpath.exists_place
  obtain ⟨base, hbase, rfl⟩ := hcwd.exists_place
  have habsolute : isAbsolute (FileSystem.placeText target) = true := rfl
  obtain ⟨common, up, down, hparting, hway⟩ := relative?_placeText htarget hbase
  have hwritten : ∀ c ∈ way up down, IsWritten c :=
    isWritten_of_mem_way (hparting.target_eq ▸ htarget).of_append.2
  rw [relative, pathOf_scheme_append habsolute hquery]
  simp only [hway]
  split_ifs with hsame hfar
  · refine ⟨by rw [hsame, resolve_dot hbase], fun hroot => ?_⟩
    cases hroot
  · refine ⟨if_pos habsolute, fun _ => ⟨base, target, common, up, down, rfl, rfl, hparting, ?_⟩⟩
    obtain hfar | hempty := hfar
    · obtain ⟨rest, -, hrest⟩ := (hasPrefix_farUp_iff hwritten).mp hfar
      have hcount := count_parent_way up down
      rw [hrest, List.count_cons_self, List.count_cons_self, List.count_cons_self] at hcount
      omega
    · -- only the way to the directory itself is empty
      have hnil : way up down = [] := by
        rw [← components_intercalate_text hwritten, ← ofComponents_eq_intercalate hwritten,
          List.isEmpty_iff.mp hempty]
        rfl
      obtain ⟨rfl, rfl⟩ := way_eq_nil_iff.mp hnil
      exact absurd (by rw [hparting.target_eq, hparting.base_eq]) hsame
  · refine ⟨resolve_way hparting htarget hbase, fun hroot => ?_⟩
    rw [ofComponents_eq_intercalate hwritten, isAbsolute_intercalate_text hwritten] at hroot
    cases hroot

/-- Of one path the text of the directory is the beginning, but not up to a component. The other
one is three steps up. -/
theorem resolve_relative_beside_and_far :
    (relative (scheme ++ "/home/ab/x".toList) "/home/a".toList = "../ab/x".toList ∧
        resolve "/home/a".toList "../ab/x".toList = "/home/ab/x".toList) ∧
      isAbsolute (relative (scheme ++ "/x".toList) "/home/a/b".toList) = true ∧
        ∃ base target common up down, "/home/a/b".toList = FileSystem.placeText base ∧
          "/x".toList = FileSystem.placeText target ∧ Parting base target common up down ∧
          3 ≤ up.length := by
  have hbeside :
      relative (scheme ++ "/home/ab/x".toList) "/home/a".toList = "../ab/x".toList := by
    decide
  have hfar : isAbsolute (relative (scheme ++ "/x".toList) "/home/a/b".toList) = true := by
    decide
  refine ⟨⟨hbeside, ?_⟩, hfar, (resolve_relative (by decide) (by decide) (by decide)).2 hfar⟩
  rw [← hbeside]
  exact (resolve_relative (by decide) (by decide) (by decide)).1

end FileUrl

end GlassTty
