import GlassTty.Proofs.History.Remembers
import Mathlib.Data.List.DropRight
import Mathlib.Data.List.Pairwise

/-!
# Entries are evicted whole

When there is no room for a line, lines go from the front until the rest fits, and with the first
line of an entry all of it goes. This file says what is left
(`GlassTty.Scrollback.run_evicts_whole_entries`): of all the places between two entries where the
lines could be cut, it is the first one behind which they fit. An entry that alone is too long is
gone altogether, with the line that has just come.

The loop compares neighbours only, so what it does is first said of neighbours
(`GlassTty.Scrollback.IsBoundary`, `GlassTty.Scrollback.exists_evicts`). That no entry is left in
part is another matter: it needs the entries to stand in their order
(`GlassTty.Scrollback.InOrder`), and they do although numbers are given again after the newest entry
was taken back, since its lines are all gone then.
-/

namespace GlassTty.Scrollback

/-! ### What is done with a scrollback -/

/-- Something that is done with a scrollback. -/
inductive Operation where
  | beginEntry
  /-- A line comes; it belongs to the newest entry, whatever it says of that itself. -/
  | push (line : ScrollbackLine)
  | takeUnreported
  | rewind
  | clearLast (guard : Option Nat)
  | clear

/-- The line as one of the newest entry. -/
def ofNewest (s : Scrollback) (line : ScrollbackLine) : ScrollbackLine :=
  { line with entryIndex := s.entryIndex }

/-- The scrollback after an operation. -/
def operate (s : Scrollback) : Operation → Scrollback
  | .beginEntry => s.beginEntry
  | .push line => s.push (s.ofNewest line)
  | .takeUnreported => s.takeUnreported.2
  | .rewind => s.rewind
  | .clearLast guard => (s.clearLast? guard).getD s
  | .clear => s.clear

/-- **The scrollback after a run.** -/
def run (s : Scrollback) (operations : List Operation) : Scrollback :=
  operations.foldl operate s

/-- **What a run keeps.** -/
theorem run_induction {P : Scrollback → Prop} (step : ∀ s operation, P s → P (s.operate operation))
    {s : Scrollback} (h : P s) (operations : List Operation) : P (s.run operations) := by
  induction operations generalizing s with
  | nil => exact h
  | cons operation rest ih => exact ih (step s operation h)

/-! ### Where lines may be cut -/

/-- **Between the two parts an entry ends**: the last line of the one and the first line of the
other do not belong together. Before the first line and behind the last one this is always so. -/
def IsBoundary (evicted kept : List ScrollbackLine) : Prop :=
  ∀ last ∈ evicted.getLast?, ∀ first ∈ kept.head?, last.entryIndex ≠ first.entryIndex

/-- **The longest end that fits**: of the lines, `kept` is what is left when they are cut at the
first boundary behind which there are no more than `capacity`. -/
structure Evicts (capacity : Nat) (lines evicted kept : List ScrollbackLine) : Prop where
  split : lines = evicted ++ kept
  boundary : IsBoundary evicted kept
  fits : kept.length ≤ capacity
  longest : ∀ evicted' kept', lines = evicted' ++ kept' → IsBoundary evicted' kept' →
    kept'.length ≤ capacity → kept' <:+ kept

/-- With its first line the rest of an entry goes, and no boundary is passed over. -/
theorem IsBoundary.dropWhile {first : ScrollbackLine} {evicted kept : List ScrollbackLine}
    (h : IsBoundary (first :: evicted) kept) :
    ∃ front, (evicted ++ kept).dropWhile (·.entryIndex = first.entryIndex) = front ++ kept ∧
      IsBoundary front kept := by
  induction evicted generalizing first with
  | nil =>
    refine ⟨[], ?_, by simp [IsBoundary]⟩
    cases kept with
    | nil => rfl
    | cons next kept =>
      have hnext : next.entryIndex ≠ first.entryIndex := (h first rfl next rfl).symm
      exact List.dropWhile_cons_of_neg (by simpa using hnext)
  | cons line evicted ih =>
    have hline : IsBoundary (line :: evicted) kept := h
    by_cases hsame : line.entryIndex = first.entryIndex
    · obtain ⟨front, hdrop, hfront⟩ := ih hline
      refine ⟨front, ?_, hfront⟩
      rw [List.cons_append, List.dropWhile_cons_of_pos (by simpa using hsame), ← hsame, hdrop]
    · exact ⟨line :: evicted, List.dropWhile_cons_of_neg (by simpa using hsame), hline⟩

/-- Behind all lines of an entry there is a boundary, and it stays one whatever else goes. -/
theorem IsBoundary.of_dropWhile {first : ScrollbackLine} {rest evicted kept : List ScrollbackLine}
    (hrest : rest.dropWhile (·.entryIndex = first.entryIndex) = evicted ++ kept)
    (h : IsBoundary evicted kept) :
    IsBoundary (first :: rest.takeWhile (·.entryIndex = first.entryIndex) ++ evicted) kept := by
  intro last hlast next hnext
  rw [List.getLast?_append] at hlast
  cases hevicted : evicted.getLast? with
  | some other =>
    rw [hevicted] at hlast
    exact h last (hevicted.trans hlast) next hnext
  | none =>
    rw [List.getLast?_eq_none_iff] at hevicted
    subst hevicted
    have hgone : last.entryIndex = first.entryIndex := by
      rcases List.mem_cons.mp (List.mem_of_getLast? hlast) with rfl | hmem
      · rfl
      · simpa using List.mem_takeWhile_imp hmem
    have hkept : next.entryIndex ≠ first.entryIndex := by
      have hnot := List.head?_dropWhile_not (·.entryIndex = first.entryIndex) rest
      rw [hrest, List.nil_append, hnext] at hnot
      simpa using hnot
    rw [hgone]
    exact hkept.symm

/-- **What eviction leaves** is the longest end that fits. -/
theorem exists_evicts (capacity : Nat) (lines : List ScrollbackLine) :
    ∃ evicted, Evicts capacity lines evicted (evict capacity lines) := by
  induction lines using evict.induct capacity with
  | case1 =>
    rw [evict_eq_self (Nat.zero_le capacity)]
    exact ⟨[], rfl, by simp [IsBoundary], Nat.zero_le _, fun _ _ hsplit _ _ => ⟨_, hsplit.symm⟩⟩
  | case2 first rest hfits =>
    rw [evict_eq_self (Nat.succ_le_of_lt hfits)]
    exact ⟨[], rfl, by simp [IsBoundary], Nat.succ_le_of_lt hfits,
      fun _ _ hsplit _ _ => ⟨_, hsplit.symm⟩⟩
  | case3 first rest hfull ih =>
    obtain ⟨evicted, h⟩ := ih
    rw [evict, if_neg hfull]
    refine ⟨first :: rest.takeWhile (·.entryIndex = first.entryIndex) ++ evicted, ?_,
      .of_dropWhile h.split h.boundary, h.fits, ?_⟩
    · rw [List.append_assoc, ← h.split, List.cons_append, List.takeWhile_append_dropWhile]
    · rintro (_ | ⟨line, evicted'⟩) kept' hsplit hboundary hfits
      · -- the whole of the lines does not fit
        rw [List.nil_append] at hsplit
        rw [← hsplit, List.length_cons] at hfits
        exact absurd (Nat.lt_of_succ_le hfits) hfull
      · obtain ⟨rfl, rfl⟩ := List.cons.inj hsplit
        obtain ⟨front, hdrop, hfront⟩ := hboundary.dropWhile
        exact h.longest front kept' hdrop hfront hfits

/-- **Between lines in their order** a boundary parts whole entries. -/
theorem IsBoundary.lt_of_sorted {evicted kept : List ScrollbackLine} (h : IsBoundary evicted kept)
    (hsorted : (evicted ++ kept).Pairwise (·.entryIndex ≤ ·.entryIndex))
    {gone line : ScrollbackLine} (hgone : gone ∈ evicted) (hline : line ∈ kept) :
    gone.entryIndex < line.entryIndex := by
  obtain ⟨hevicted, hkept, hacross⟩ := List.pairwise_append.mp hsorted
  obtain rfl | ⟨front, last, rfl⟩ := evicted.eq_nil_or_concat'
  · cases hgone
  obtain ⟨first, back, rfl⟩ := List.exists_cons_of_ne_nil (List.ne_nil_of_mem hline)
  have hlast : last ∈ front ++ [last] := List.mem_append_right _ List.mem_cons_self
  have hne : last.entryIndex ≠ first.entryIndex := h last (by simp) first rfl
  have hbefore : gone.entryIndex ≤ last.entryIndex := by
    rcases List.mem_append.mp hgone with hfront | hself
    · exact (List.pairwise_append.mp hevicted).2.2 gone hfront last List.mem_cons_self
    · rw [List.mem_singleton.mp hself]
  have hbehind : first.entryIndex ≤ line.entryIndex := by
    rcases List.mem_cons.mp hline with rfl | hback
    · exact le_rfl
    · exact List.rel_of_pairwise_cons hkept hback
  calc gone.entryIndex ≤ last.entryIndex := hbefore
    _ < first.entryIndex := lt_of_le_of_ne (hacross last hlast first List.mem_cons_self) hne
    _ ≤ line.entryIndex := hbehind

/-! ### Entries in their order -/

/-- **The entries stand in their order**, none of them is newer than the newest one, and there are
no more lines than there may be. -/
structure InOrder (s : Scrollback) : Prop where
  fits : s.lines.length ≤ s.capacity
  sorted : s.lines.Pairwise (·.entryIndex ≤ ·.entryIndex)
  le_newest : ∀ line ∈ s.lines, line.entryIndex ≤ s.entryIndex

theorem inOrder_empty (capacity : Nat) : (empty capacity).InOrder :=
  ⟨Nat.zero_le _, .nil, by simp [empty]⟩

/-- What is left when the newest entry is taken back stands before it. -/
theorem linesBeforeLast_prefix (s : Scrollback) : s.linesBeforeLast <+: s.lines :=
  List.rdropWhile_prefix _ _

theorem lines_clearLast_prefix (s : Scrollback) (guard : Option Nat) :
    ((s.clearLast? guard).getD s).lines <+: s.lines := by
  rw [clearLast?]
  split
  · exact s.linesBeforeLast_prefix
  · exact List.prefix_rfl

/-- A line that comes changes neither the capacity nor the newest entry. -/
theorem frame_push (s : Scrollback) (line : ScrollbackLine) :
    (s.push line).capacity = s.capacity ∧ (s.push line).entryIndex = s.entryIndex := by
  unfold push
  split <;> exact ⟨rfl, rfl⟩

namespace InOrder

variable {s : Scrollback}

/-- With a line of the newest entry behind them the lines are in their order still. -/
theorem sorted_append (h : s.InOrder) (line : ScrollbackLine) :
    (s.lines ++ [s.ofNewest line]).Pairwise (·.entryIndex ≤ ·.entryIndex) := by
  refine List.pairwise_append.mpr ⟨h.sorted, List.pairwise_singleton _ _, ?_⟩
  intro old hold new hnew
  rw [List.mem_singleton.mp hnew]
  exact h.le_newest old hold

/-- A line that comes leaves what eviction leaves. Without capacity that is nothing, as before. -/
theorem lines_push (h : s.InOrder) (line : ScrollbackLine) :
    (s.push line).lines = evict s.capacity (s.lines ++ [line]) := by
  rcases Nat.eq_zero_or_pos s.capacity with hnone | hroom
  · have hlines : s.lines = [] := List.length_eq_zero_iff.mp (Nat.le_zero.mp (hnone ▸ h.fits))
    rw [push, if_pos hnone, hlines, hnone, List.nil_append, evict, if_neg (Nat.not_lt_zero _),
      List.dropWhile_nil, evict]
  · rw [push, if_neg hroom.ne']

theorem push (h : s.InOrder) (line : ScrollbackLine) : (s.push (s.ofNewest line)).InOrder := by
  obtain ⟨hcapacity, hindex⟩ := s.frame_push (s.ofNewest line)
  obtain ⟨evicted, hevicts⟩ := exists_evicts s.capacity (s.lines ++ [s.ofNewest line])
  rw [← h.lines_push] at hevicts
  have hsorted := h.sorted_append line
  rw [hevicts.split] at hsorted
  refine ⟨hevicts.fits.trans hcapacity.ge, (List.pairwise_append.mp hsorted).2.1, ?_⟩
  intro kept hkept
  have hmem : kept ∈ s.lines ++ [s.ofNewest line] := by
    rw [hevicts.split]
    exact List.mem_append_right _ hkept
  rw [hindex]
  rcases List.mem_append.mp hmem with hold | hnew
  · exact h.le_newest kept hold
  · rw [List.mem_singleton.mp hnew]
    exact le_rfl

/-- **Behind an entry that is taken back nothing of it is left**: what stood before it is older. -/
theorem lt_of_mem_linesBeforeLast (h : s.InOrder) {line : ScrollbackLine}
    (hline : line ∈ s.linesBeforeLast) : line.entryIndex < s.entryIndex := by
  have hne := List.ne_nil_of_mem hline
  have hlast : ¬((s.linesBeforeLast.getLast hne).entryIndex = s.entryIndex) := fun hsame =>
    List.rdropWhile_last_not _ s.lines hne (decide_eq_true hsame)
  have hmem := s.linesBeforeLast_prefix.subset (List.getLast_mem hne)
  have hsorted := h.sorted.sublist s.linesBeforeLast_prefix.sublist
  have hle : line.entryIndex ≤ (s.linesBeforeLast.getLast hne).entryIndex :=
    hsorted.rel_getLast_of_rel_getLast_getLast hline le_rfl
  exact hle.trans_lt (lt_of_le_of_ne (h.le_newest _ hmem) hlast)

theorem clearLast (h : s.InOrder) (guard : Option Nat) :
    ((s.clearLast? guard).getD s).InOrder := by
  unfold clearLast?
  split
  · refine ⟨s.linesBeforeLast_prefix.length_le.trans h.fits,
      h.sorted.sublist s.linesBeforeLast_prefix.sublist, ?_⟩
    intro line hline
    exact Nat.le_sub_one_of_lt (h.lt_of_mem_linesBeforeLast hline)
  · exact h

/-- **Every operation leaves the entries in their order.** -/
theorem operate (h : s.InOrder) (operation : Operation) : (s.operate operation).InOrder := by
  cases operation with
  | beginEntry =>
    exact ⟨h.fits, h.sorted, fun line hline => (h.le_newest line hline).trans (Nat.le_succ _)⟩
  | push line => exact h.push line
  | takeUnreported => exact ⟨h.fits, h.sorted, h.le_newest⟩
  | rewind => exact ⟨h.fits, h.sorted, h.le_newest⟩
  | clearLast guard => exact h.clearLast guard
  | clear => exact inOrder_empty _

end InOrder

/-- The capacity is settled when a scrollback is made. -/
theorem capacity_operate (s : Scrollback) (operation : Operation) :
    (s.operate operation).capacity = s.capacity := by
  cases operation with
  | push line => exact (s.frame_push _).1
  | clearLast guard =>
    change ((s.clearLast? guard).getD s).capacity = s.capacity
    unfold clearLast?
    split <;> rfl
  | _ => rfl

/-- **Entries are evicted whole, and no more of them than need be.** Whatever was done with a new
scrollback, there are no more lines than it may keep, their entries are in order and none is newer
than the newest. A line that comes then leaves the longest end that fits, all lines being cut where
an entry ends: all of them or none may be left too. So no entry is both among the lines that are
evicted and among those that are kept. -/
theorem run_evicts_whole_entries (capacity : Nat) (operations : List Operation)
    (line : ScrollbackLine) :
    let s := (empty capacity).run operations
    let kept := (s.operate (.push line)).lines
    (s.lines.length ≤ capacity ∧ s.lines.Pairwise (·.entryIndex ≤ ·.entryIndex) ∧
        ∀ old ∈ s.lines, old.entryIndex ≤ s.entryIndex) ∧
      ∃ evicted, Evicts capacity (s.lines ++ [s.ofNewest line]) evicted kept ∧
        ∀ gone ∈ evicted, ∀ left ∈ kept, gone.entryIndex ≠ left.entryIndex := by
  intro s kept
  have horder : s.InOrder :=
    run_induction (fun _ operation h => h.operate operation) (inOrder_empty capacity) operations
  have hcapacity : s.capacity = capacity :=
    run_induction (P := fun s => s.capacity = capacity)
      (fun s operation h => (s.capacity_operate operation).trans h) rfl operations
  obtain ⟨evicted, hevicts⟩ := exists_evicts s.capacity (s.lines ++ [s.ofNewest line])
  rw [← horder.lines_push] at hevicts
  have hsorted := horder.sorted_append line
  rw [hevicts.split] at hsorted
  rw [hcapacity] at hevicts
  refine ⟨⟨horder.fits.trans hcapacity.le, horder.sorted, horder.le_newest⟩, evicted, hevicts, ?_⟩
  intro gone hgone left hleft
  exact (hevicts.boundary.lt_of_sorted hsorted hgone hleft).ne

/-- An entry that is too long for the room there is has made the one before it go, and goes with its
own last line. -/
example :
    let push : String → Operation := fun text => .push ⟨0, 0, "", none, text⟩
    let two := (empty 2).run [push "a", .beginEntry, push "b", push "c"]
    two.lines.map (·.line) = ["b", "c"] ∧ (two.operate (push "d")).lines = [] := by
  decide +kernel

end GlassTty.Scrollback
