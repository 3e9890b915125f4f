import GlassTty.Host.FileSystem
import Mathlib.Data.List.Basic
import Mathlib.Tactic.SplitIfs

/-!
# A file that is written is read back

A name is good for a file if the walk along it leads to a place where a file is or nothing is
(`GlassTty.FileSystem.KeepsFile`). Under such a name writing succeeds, what is written is read back,
and nothing but that place changes (`GlassTty.FileSystem.KeepsFile.write`,
`GlassTty.FileSystem.KeepsFile.readUpTo_put`).

Reading walks along the name again, in the files that have changed. It comes to the same place: the
walk passes through directories only, and the place that is written to is none, before and after
(`GlassTty.FileSystem.walk_put`). The name may go back and forth, so this cannot be read off the
places on the way being shorter.
-/

namespace GlassTty.FileSystem

variable {fs : FileSystem} {place : Place} {path : List Char}

/-- A computation that succeeds has succeeded at its beginning. -/
theorem exists_of_bind_eq_ok {α β : Type} {x : Except FileError α} {f : α → Except FileError β}
    {b : β} (h : (x >>= f) = .ok b) : ∃ a, x = .ok a ∧ f a = .ok b := by
  cases x with
  | error cause => cases h
  | ok a => exact ⟨a, rfl, h⟩

/-! ### Changing what stands at a place -/

theorem lookup_filter_ne (nodes : List (Place × Node)) {place other : Place} (h : other ≠ place) :
    (nodes.filter fun (key, _) => key ≠ place).lookup other = nodes.lookup other := by
  induction nodes with
  | nil => rfl
  | cons first rest ih =>
    obtain ⟨key, node⟩ := first
    by_cases hkey : key = place
    · rw [List.filter_cons_of_neg (by simpa using hkey), ih, List.lookup_cons,
        beq_eq_false_iff_ne.mpr (hkey ▸ h)]
    · rw [List.filter_cons_of_pos (by simpa using hkey), List.lookup_cons, List.lookup_cons, ih]

/-- **What is put at a place stands there**, and elsewhere nothing changes. -/
theorem nodeAt?_put (hplace : place ≠ []) (node : Node) (other : Place) :
    (fs.put place node).nodeAt? other = if other = place then some node else fs.nodeAt? other := by
  by_cases hsame : other = place
  · subst hsame
    simp [nodeAt?, put, hplace]
  · have hrest := lookup_filter_ne fs.nodes hsame
    rw [if_neg hsame]
    unfold nodeAt? put
    rw [List.lookup_cons, beq_eq_false_iff_ne.mpr hsame]
    simp only [hrest]

/-! ### The walk along a name -/

theorem nodeAt?_of_enter {part : List Char} {next : Place} (h : fs.enter place part = .ok next) :
    fs.nodeAt? place = some .directory := by
  unfold enter at h
  split at h
  · cases h
  · assumption
  · cases h

/-- A step goes on as before, wherever it goes. -/
theorem enter_congr {fs' : FileSystem} (h : fs'.nodeAt? place = fs.nodeAt? place)
    (part : List Char) : fs'.enter place part = fs.enter place part := by
  rw [enter, enter, h]

/-- The steps of a walk, one after the other. -/
theorem walk_append (origin : Place) (before after : List (List Char)) :
    fs.walk origin (before ++ after) =
      (fs.walk origin before).bind fun reached => fs.walk reached after := by
  induction before generalizing origin with
  | nil => rfl
  | cons part before ih =>
    rw [List.cons_append, walk, walk]
    cases fs.enter origin part with
    | error cause => rfl
    | ok next => exact ih next

/-- **A walk is as before** where no directory has been taken away. -/
theorem walk_put {node : Node} (hplace : fs.nodeAt? place ≠ some .directory)
    {origin reached : Place} {parts : List (List Char)} (h : fs.walk origin parts = .ok reached) :
    (fs.put place node).walk origin parts = .ok reached := by
  have hne : place ≠ [] := by
    rintro rfl
    exact hplace rfl
  induction parts generalizing origin with
  | nil => exact h
  | cons part parts ih =>
    obtain ⟨next, henter, hrest⟩ := exists_of_bind_eq_ok h
    have hother : origin ≠ place := by
      rintro rfl
      exact hplace (nodeAt?_of_enter henter)
    have hsame : (fs.put place node).nodeAt? origin = fs.nodeAt? origin := by
      rw [nodeAt?_put hne, if_neg hother]
    rw [walk, enter_congr hsame, henter]
    exact ih hrest

/-- **Where a file is written is where the whole name leads.** -/
theorem walk_of_target {start : Place} (h : fs.target start path = .ok place) :
    nameFault? path = none ∧ endsInSlash path = false ∧
      fs.walk (route start path).1 (route start path).2 = .ok place := by
  unfold target at h
  rcases hroute : route start path with ⟨origin, parts⟩
  rw [hroute] at h
  split at h
  · cases h
  · next hfault =>
    obtain ⟨directory, hwalk, hrest⟩ := exists_of_bind_eq_ok h
    split at hrest
    · cases hrest
    · split at hrest
      · cases hrest
      · next last hlast =>
        split_ifs at hrest with hname
        obtain ⟨hslash, -⟩ := not_or.mp hname
        refine ⟨hfault, by simpa using hslash, ?_⟩
        dsimp only
        rw [← List.dropLast_append_getLast? last hlast, walk_append, hwalk]
        exact congrArg (· >>= Except.ok) hrest
    · cases hrest

/-! ### Files that are kept -/

/-- A name is good for a file: it leads to a place where a file is, or nothing yet. Devices are left
out, since they keep nothing of what is written. -/
structure KeepsFile (fs : FileSystem) (path : List Char) (place : Place) : Prop where
  target : fs.target fs.workingDirectory path = .ok place
  isFile : ∀ node, fs.nodeAt? place = some node → ∃ data executable, node = .file data executable

namespace KeepsFile

theorem nodeAt?_ne (h : fs.KeepsFile path place) : fs.nodeAt? place ≠ some .directory := by
  intro hnode
  obtain ⟨_, _, hfile⟩ := h.isFile _ hnode
  cases hfile

theorem place_ne_nil (h : fs.KeepsFile path place) : place ≠ [] := by
  rintro rfl
  exact h.nodeAt?_ne rfl

/-- **A file is written** to its place, executable if it was. -/
theorem write (h : fs.KeepsFile path place) (data : Bytes) :
    ∃ executable, fs.write path data = .ok (fs.put place (.file data executable)) := by
  rw [FileSystem.write, writeFrom, h.target]
  cases hnode : fs.nodeAt? place with
  | none => exact ⟨false, by simp only [hnode, bind, Except.bind]⟩
  | some node =>
    obtain ⟨old, executable, rfl⟩ := h.isFile node hnode
    exact ⟨executable, by simp only [hnode, bind, Except.bind]⟩

/-- **What was written is read back**, up to the number of bytes that is asked for. -/
theorem readUpTo_put (h : fs.KeepsFile path place) (data : Bytes) (executable : Bool)
    (count : Nat) :
    (fs.put place (.file data executable)).readUpTo count path = .ok (data.take count) := by
  obtain ⟨hfault, hslash, hwalk⟩ := walk_of_target h.target
  have hfind : (fs.put place (.file data executable)).find fs.workingDirectory path =
      .ok (place, .file data executable) := by
    unfold find
    rw [hfault]
    simp [walk_put h.nodeAt?_ne hwalk, bind, Except.bind, nodeAt?_put h.place_ne_nil, hslash]
  rw [readUpTo]
  exact congrArg (· >>= _) hfind

end KeepsFile

end GlassTty.FileSystem
