import GlassTty.Proofs.History.Eviction

/-!
# Each line is told once

The scrollback keeps two numbers to know what was told: the lines that have ever come, less those
that were taken back, and what that number was at the last report. Neither says which lines they
are. Evicted lines are not taken off either number, an entry may be taken back of which a part was
told, and to tell everything again the second number is set back by the lines that are left.

This file counts the lines themselves. A ledger (`GlassTty.Scrollback.Ledger`) gives each line that
comes a number of its own, and has the numbers of the lines that are kept and of those that were
told. What is not told yet is always the end of what is kept, and it is as long as the two numbers
say (`GlassTty.Scrollback.Ledger.Tracks`). So each line is told once
(`GlassTty.Scrollback.takeUnreported_run_once`).

| operation | what the two numbers say of the lines not told |
|---|---|
| a line comes | one more, but no more than are kept: `GlassTty.Scrollback.unreported_push` |
| an entry is taken back | as many less as are gone: `GlassTty.Scrollback.unreported_clearLast` |
| rewind | all that are kept: `GlassTty.Scrollback.unreported_rewind` |
| report | none: `GlassTty.Scrollback.unreported_takeUnreported` |
-/

namespace GlassTty.Scrollback

/-! ### What the numbers say -/

/-- **The two numbers are in order**: all lines that are kept have come, and no more were told than
have come. -/
structure Counted (s : Scrollback) : Prop where
  lines_le : s.lines.length ≤ s.total
  reported_le : s.reported ≤ s.total

theorem length_push_le (s : Scrollback) (line : ScrollbackLine) :
    (s.push line).lines.length ≤ s.lines.length + 1 := by
  rcases Nat.eq_zero_or_pos s.capacity with hnone | hroom
  · rw [push, if_pos hnone]
    exact Nat.le_succ _
  · have hsuffix := (push_suffix hroom.ne' line).1
    simpa using hsuffix.length_le

/-- **A line that comes is not told yet**, and what is evicted has not to be told any more. -/
theorem unreported_push {s : Scrollback} (h : s.Counted) (hfits : s.lines.length ≤ s.capacity)
    (line : ScrollbackLine) :
    (s.push line).unreported = min (s.unreported + 1) (s.push line).lines.length := by
  have hlength := s.length_push_le line
  have hreported := h.reported_le
  unfold unreported push at *
  split
  · omega
  · next hroom =>
    rw [if_neg hroom] at hlength
    dsimp only at hlength ⊢
    omega

/-- **With an entry that is taken back** as many lines less are to be told as are gone, whether they
were told before or not. -/
theorem unreported_clearLast {s : Scrollback} (h : s.Counted) (guard : Option Nat) :
    ((s.clearLast? guard).getD s).unreported =
      s.unreported - (s.lines.length - ((s.clearLast? guard).getD s).lines.length) := by
  have hkept := s.linesBeforeLast_prefix.length_le
  have hlines := h.lines_le
  have hreported := h.reported_le
  unfold clearLast?
  split
  · simp only [unreported, Option.getD_some]
    omega
  · rw [Option.getD_none, Nat.sub_self, Nat.sub_zero]

theorem unreported_rewind {s : Scrollback} (h : s.Counted) :
    s.rewind.unreported = s.lines.length := by
  have hlines := h.lines_le
  simp only [unreported, rewind]
  omega

theorem unreported_takeUnreported (s : Scrollback) : s.takeUnreported.2.unreported = 0 := by
  simp only [unreported, takeUnreported]
  omega

/-- **Every operation leaves the numbers in order.** -/
theorem Counted.operate {s : Scrollback} (h : s.Counted) (operation : Operation) :
    (s.operate operation).Counted := by
  have hlines := h.lines_le
  have hreported := h.reported_le
  cases operation with
  | beginEntry => exact ⟨hlines, hreported⟩
  | push line =>
    have hlength := s.length_push_le (s.ofNewest line)
    change (s.push (s.ofNewest line)).Counted
    unfold push at *
    split
    · exact h
    · next hroom =>
      rw [if_neg hroom] at hlength
      exact ⟨hlength.trans (Nat.succ_le_succ hlines), hreported.trans (Nat.le_succ _)⟩
  | takeUnreported => exact ⟨hlines, le_rfl⟩
  | rewind => exact ⟨hlines, Nat.sub_le _ _⟩
  | clearLast guard =>
    have hkept := s.linesBeforeLast_prefix.length_le
    change ((s.clearLast? guard).getD s).Counted
    unfold clearLast?
    split
    · refine ⟨?_, Nat.min_le_right _ _⟩
      simp only [Option.getD_some]
      omega
    · exact h
  | clear => exact ⟨le_rfl, le_rfl⟩

/-! ### The ledger -/

/-- **A ledger of lines**, each known by the number of lines that had come before it. -/
structure Ledger where
  /-- How many lines have come. -/
  came : Nat := 0
  /-- The lines that are kept, each behind its number. -/
  kept : List (Nat × ScrollbackLine) := []
  /-- The numbers of the lines that were told since everything was to be told, in that order. -/
  told : List Nat := []

namespace Ledger

/-- The lines that a report of `s` tells: it tells them from the end of those that are kept. -/
def toTell (l : Ledger) (s : Scrollback) : List (Nat × ScrollbackLine) :=
  l.kept.rtake s.takeUnreported.1.length

/-- **The ledger after an operation** on the scrollback `s`. When a line comes, others go from the
front until there are as many as `s` keeps; when an entry is taken back, they go from the end. -/
def after (l : Ledger) (s : Scrollback) : Operation → Ledger
  | .beginEntry => l
  | .push line =>
    { l with
      came := l.came + 1
      kept := (l.kept ++ [(l.came, s.ofNewest line)]).rtake
        (s.operate (.push line)).lines.length }
  | .takeUnreported => { l with told := l.told ++ (l.toTell s).map (·.1) }
  | .rewind => { l with told := [] }
  | .clearLast guard =>
    { l with kept := l.kept.take (s.operate (.clearLast guard)).lines.length }
  | .clear => { l with kept := [] }

/-- The ledger after a run that begins with the scrollback `s`. -/
def afterRun (l : Ledger) (s : Scrollback) : List Operation → Ledger
  | [] => l
  | operation :: rest => (l.after s operation).afterRun (s.operate operation) rest

/-- **The ledger is that of the scrollback.** The lines have numbers in the order in which they
came, and those that were not told are the end of what is kept, as long as the scrollback says. -/
structure Tracks (l : Ledger) (s : Scrollback) : Prop where
  lines : l.kept.map (·.2) = s.lines
  sorted : (l.kept.map (·.1)).Pairwise (· < ·)
  kept_lt : ∀ entry ∈ l.kept, entry.1 < l.came
  told_lt : ∀ number ∈ l.told, number < l.came
  told_nodup : l.told.Nodup
  split : ∃ old fresh, l.kept = old ++ fresh ∧ fresh.length = s.unreported ∧
    (∀ entry ∈ old, entry.1 ∈ l.told) ∧ ∀ entry ∈ fresh, entry.1 ∉ l.told

namespace Tracks

variable {l : Ledger} {s : Scrollback}

theorem length_kept (h : l.Tracks s) : l.kept.length = s.lines.length := by
  rw [← h.lines, List.length_map]

/-- **What a report tells** are the lines that were not told. -/
theorem toTell_eq (h : l.Tracks s) :
    (l.toTell s).map (·.2) = s.takeUnreported.1 ∧
      l.toTell s = l.kept.filter (fun entry => entry.1 ∉ l.told) := by
  obtain ⟨old, fresh, hsplit, hlength, hold, hfresh⟩ := h.split
  have hle : s.unreported ≤ s.lines.length := Nat.min_le_right _ _
  have htaken : s.takeUnreported.1 = s.lines.rtake s.unreported := rfl
  have hcount : s.takeUnreported.1.length = fresh.length := by
    rw [htaken, List.rtake, List.length_drop, hlength]
    omega
  have htell : l.toTell s = fresh := by
    rw [toTell, hcount, hsplit, List.rtake, List.length_append, Nat.add_sub_cancel,
      List.drop_left]
  constructor
  · rw [htell, htaken, ← h.lines, hsplit, ← hlength, List.rtake, List.map_append,
      List.length_append, List.length_map, List.length_map, Nat.add_sub_cancel]
    exact (List.drop_left' (List.length_map _)).symm
  · have hnone : old.filter (fun entry => entry.1 ∉ l.told) = [] :=
      List.filter_eq_nil_iff.mpr fun entry hentry => by simpa using hold entry hentry
    have hall : fresh.filter (fun entry => entry.1 ∉ l.told) = fresh :=
      List.filter_eq_self.mpr fun entry hentry => by simpa using hfresh entry hentry
    rw [htell, hsplit, List.filter_append, hnone, hall, List.nil_append]

theorem empty (capacity : Nat) : ({} : Ledger).Tracks (.empty capacity) where
  lines := rfl
  sorted := .nil
  kept_lt := by simp
  told_lt := by simp
  told_nodup := .nil
  split := ⟨[], [], rfl, rfl, by simp, by simp⟩

/-- A line that comes has a number that no other has, and is not told. What is evicted goes from the
lines that were told first. -/
theorem push (h : l.Tracks s) (hcounted : s.Counted) (horder : s.InOrder) (line : ScrollbackLine) :
    (l.after s (.push line)).Tracks (s.operate (.push line)) := by
  set new := (l.came, s.ofNewest line) with hnew
  set left := (s.operate (.push line)).lines.length with hleft
  have hkept : (l.after s (.push line)).kept = (l.kept ++ [new]).rtake left := rfl
  have hsuffix : (s.push (s.ofNewest line)).lines <:+ s.lines ++ [s.ofNewest line] := by
    rw [horder.lines_push]
    exact evict_suffix _ _
  have hmem : ∀ entry ∈ (l.kept ++ [new]).rtake left, entry ∈ l.kept ∨ entry = new := by
    intro entry hentry
    simpa using List.mem_of_mem_drop hentry
  have hfresh : new.1 ∉ l.told := fun htold => (h.told_lt _ htold).false
  refine ⟨?_, ?_, ?_, fun number hnumber => (h.told_lt number hnumber).trans (Nat.lt_succ_self _),
    h.told_nodup, ?_⟩
  · have hlength : (l.kept ++ [new]).length = (s.lines ++ [s.ofNewest line]).length := by
      rw [List.length_append, List.length_append, h.length_kept, List.length_singleton,
        List.length_singleton]
    rw [hkept, List.rtake, hlength, List.map_drop, List.map_append, h.lines]
    exact (List.suffix_iff_eq_drop.mp hsuffix).symm
  · have hall : ((l.kept ++ [new]).map (·.1)).Pairwise (· < ·) := by
      rw [List.map_append]
      refine List.pairwise_append.mpr ⟨h.sorted, List.pairwise_singleton _ _, ?_⟩
      intro number hnumber came hcame
      obtain ⟨entry, hentry, rfl⟩ := List.mem_map.mp hnumber
      rw [List.mem_singleton.mp hcame]
      exact h.kept_lt entry hentry
    exact hall.sublist ((List.drop_sublist _ _).map _)
  · intro entry hentry
    rcases hmem entry hentry with hold | rfl
    · exact (h.kept_lt entry hold).trans (Nat.lt_succ_self _)
    · exact Nat.lt_succ_self _
  · obtain ⟨old, fresh, hsplit, hlength, hold, hfresh'⟩ := h.split
    have htotal : s.lines.length = old.length + fresh.length := by
      rw [← h.length_kept, hsplit, List.length_append]
    set gone := old.length + (fresh.length + 1) - left with hgone
    refine ⟨old.drop gone, (fresh ++ [new]).drop (gone - old.length), ?_, ?_, ?_, ?_⟩
    · rw [hkept, hsplit, List.append_assoc, List.rtake, List.drop_append, List.length_append,
        List.length_append, List.length_singleton]
    · have hcount := unreported_push hcounted horder.fits (s.ofNewest line)
      have hle : left ≤ s.lines.length + 1 := s.length_push_le _
      rw [List.length_drop, List.length_append, List.length_singleton]
      refine Eq.trans ?_ hcount.symm
      rw [← hlength]
      change _ = min (fresh.length + 1) left
      omega
    · exact fun entry hentry => hold entry (List.mem_of_mem_drop hentry)
    · intro entry hentry
      rcases List.mem_append.mp (List.mem_of_mem_drop hentry) with hin | hin
      · exact hfresh' entry hin
      · rw [List.mem_singleton.mp hin]
        exact hfresh

/-- With a report the lines that were not told are told. -/
theorem takeUnreported (h : l.Tracks s) :
    (l.after s .takeUnreported).Tracks (s.operate .takeUnreported) := by
  have htell := h.toTell_eq.2
  have hfresh : ∀ entry ∈ l.toTell s, entry.1 ∉ l.told := by
    intro entry hentry
    rw [htell] at hentry
    simpa using List.of_mem_filter hentry
  have hkept : l.toTell s <:+ l.kept := List.drop_suffix _ _
  have htold : ∀ entry ∈ l.kept, entry.1 ∈ l.told ++ (l.toTell s).map (·.1) := by
    intro entry hentry
    rw [List.mem_append]
    by_cases hin : entry.1 ∈ l.told
    · exact Or.inl hin
    · refine Or.inr (List.mem_map_of_mem ?_)
      rw [htell]
      exact List.mem_filter.mpr ⟨hentry, by simpa using hin⟩
  refine ⟨h.lines, h.sorted, h.kept_lt, ?_, ?_,
    ⟨l.kept, [], (List.append_nil _).symm, s.unreported_takeUnreported.symm, htold, by simp⟩⟩
  · intro number hnumber
    rcases List.mem_append.mp hnumber with hin | hin
    · exact h.told_lt number hin
    · obtain ⟨entry, hentry, rfl⟩ := List.mem_map.mp hin
      exact h.kept_lt entry (hkept.subset hentry)
  · have hnumbers : ((l.toTell s).map (·.1)).Nodup :=
      (h.sorted.sublist (hkept.sublist.map _)).imp fun hlt => hlt.ne
    refine List.nodup_append.mpr ⟨h.told_nodup, hnumbers, ?_⟩
    rintro number hin _ hnew rfl
    obtain ⟨entry, hentry, rfl⟩ := List.mem_map.mp hnew
    exact hfresh entry hentry hin

/-- After a rewind nothing was told. -/
theorem rewind (h : l.Tracks s) (hcounted : s.Counted) :
    (l.after s .rewind).Tracks (s.operate .rewind) where
  lines := h.lines
  sorted := h.sorted
  kept_lt := h.kept_lt
  told_lt := by simp [after]
  told_nodup := .nil
  split := by
    refine ⟨[], l.kept, rfl, ?_, by simp, by simp [after]⟩
    exact h.length_kept.trans (unreported_rewind hcounted).symm

/-- An entry that is taken back takes lines from the end, told ones only if no others are left. -/
theorem clearLast (h : l.Tracks s) (hcounted : s.Counted) (guard : Option Nat) :
    (l.after s (.clearLast guard)).Tracks (s.operate (.clearLast guard)) := by
  set cleared := (s.clearLast? guard).getD s with hcleared
  have hkept : (l.after s (.clearLast guard)).kept = l.kept.take cleared.lines.length := rfl
  have hprefix : cleared.lines <+: s.lines := s.lines_clearLast_prefix guard
  have hmem : ∀ entry ∈ l.kept.take cleared.lines.length, entry ∈ l.kept :=
    fun _ hentry => List.mem_of_mem_take hentry
  refine ⟨?_, h.sorted.sublist ((List.take_sublist _ _).map _),
    fun entry hentry => h.kept_lt entry (hmem entry hentry), h.told_lt, h.told_nodup, ?_⟩
  · rw [hkept, List.map_take, h.lines]
    exact (List.prefix_iff_eq_take.mp hprefix).symm
  · obtain ⟨old, fresh, hsplit, hlength, hold, hfresh⟩ := h.split
    have htotal : s.lines.length = old.length + fresh.length := by
      rw [← h.length_kept, hsplit, List.length_append]
    refine ⟨old.take cleared.lines.length, fresh.take (cleared.lines.length - old.length), ?_, ?_,
      fun entry hentry => hold entry (List.mem_of_mem_take hentry),
      fun entry hentry => hfresh entry (List.mem_of_mem_take hentry)⟩
    · rw [hkept, hsplit, List.take_append]
    · have hcount := unreported_clearLast hcounted guard
      have hle := hprefix.length_le
      rw [List.length_take]
      refine Eq.trans ?_ hcount.symm
      rw [← hlength, ← hcleared]
      omega

/-- **Every operation keeps the ledger that of the scrollback.** -/
theorem after (h : l.Tracks s) (hcounted : s.Counted) (horder : s.InOrder)
    (operation : Operation) : (l.after s operation).Tracks (s.operate operation) := by
  cases operation with
  | beginEntry => exact ⟨h.lines, h.sorted, h.kept_lt, h.told_lt, h.told_nodup, h.split⟩
  | push line => exact h.push hcounted horder line
  | takeUnreported => exact h.takeUnreported
  | rewind => exact h.rewind hcounted
  | clearLast guard => exact h.clearLast hcounted guard
  | clear =>
    exact ⟨rfl, .nil, by simp [Ledger.after], h.told_lt, h.told_nodup,
      ⟨[], [], rfl, rfl, by simp, by simp⟩⟩

/-- So does a run. -/
theorem afterRun (h : l.Tracks s) (hcounted : s.Counted) (horder : s.InOrder)
    (operations : List Operation) : (l.afterRun s operations).Tracks (s.run operations) := by
  induction operations generalizing l s with
  | nil => exact h
  | cons operation rest ih =>
    exact ih (h.after hcounted horder operation) (hcounted.operate operation)
      (horder.operate operation)

end Tracks

end Ledger

/-- **Each line is told once.** Whatever was done with a new scrollback, count the lines as they
come, and the numbers of those that were told since the last rewind. Then a report tells the lines
that are kept and were not told, in their order, and none but these; and no number was told
twice. -/
theorem takeUnreported_run_once (capacity : Nat) (operations : List Operation) :
    let s := (empty capacity).run operations
    let l := ({} : Ledger).afterRun (empty capacity) operations
    (l.kept.map (·.2) = s.lines ∧ (l.kept.map (·.1)).Nodup) ∧
      ((l.toTell s).map (·.2) = s.takeUnreported.1 ∧
        l.toTell s = l.kept.filter (fun entry => entry.1 ∉ l.told)) ∧
      l.told.Nodup := by
  intro s l
  have htracks : l.Tracks s :=
    (Ledger.Tracks.empty capacity).afterRun ⟨le_rfl, le_rfl⟩ (inOrder_empty capacity) operations
  exact ⟨⟨htracks.lines, htracks.sorted.imp fun hlt => hlt.ne⟩, htracks.toTell_eq,
    htracks.told_nodup⟩

end GlassTty.Scrollback
