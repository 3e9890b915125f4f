import GlassTty.Proofs.History.Eviction
import GlassTty.Proofs.Report.Viewer
import Mathlib.Data.List.Chain

/-!
# Command lines lead their entries

A row that goes into the scrollback opens an entry if it is a command line, and joins the newest one
if it is not. The line has its entry's number with it, and nothing else says where an entry begins:
the newest entry is taken back by looking for the last line with another number. So what is read off
the lines has to agree with what the rows were.

This file shows that it does (`GlassTty.Reporter.lines_led_followAll`). From a line to the next one
the number stays or goes up by one, and it goes up just where there is a command line
(`GlassTty.Scrollback.Follows`). The numbers do go back when an entry is taken back, but only to
that of the line which is then the last: this is the part of the invariant that carries it
(`GlassTty.Scrollback.Led.newest`), and it does not hold between the moment an entry is begun and
the moment its first line comes. What holds there too is said apart
(`GlassTty.Scrollback.Grouped`).

Without a line before it, the first one may be any: the command line that led it may be evicted.
-/

namespace GlassTty

namespace Scrollback

/-- **How a line follows another**: in the same entry, or as the command line of the next one. -/
structure Follows (before line : ScrollbackLine) : Prop where
  next : line.entryIndex = before.entryIndex ∨ line.entryIndex = before.entryIndex + 1
  leads : line.markup.isSome = true ↔ before.entryIndex < line.entryIndex

/-- **The lines stand in groups**, each led by its command line, and those alone have markup. -/
structure Grouped (s : Scrollback) : Prop where
  fits : s.lines.length ≤ s.capacity
  chain : s.lines.IsChain Follows
  marked : ∀ line ∈ s.lines, line.markup.isSome = true ↔ 0 < line.promptOffset

/-- **The lines stand in groups, and the last of these is the newest entry.** -/
structure Led (s : Scrollback) : Prop extends s.Grouped where
  newest : ∀ line ∈ s.lines.getLast?, line.entryIndex = s.entryIndex

theorem led_empty (capacity : Nat) : (empty capacity).Led where
  fits := Nat.zero_le _
  chain := .nil
  marked := by simp [empty]
  newest := by simp [empty]

/-- A line that comes is the last one, or nothing is left, and there are never too many. -/
theorem lines_push_suffix {s : Scrollback} (hfits : s.lines.length ≤ s.capacity)
    (line : ScrollbackLine) :
    (s.push line).lines <:+ s.lines ++ [line] ∧ (s.push line).lines.length ≤ s.capacity := by
  rcases Nat.eq_zero_or_pos s.capacity with hnone | hroom
  · have hlines : s.lines = [] := List.length_eq_zero_iff.mp (Nat.le_zero.mp (hnone ▸ hfits))
    rw [push, if_pos hnone, hlines]
    exact ⟨List.nil_suffix, Nat.zero_le _⟩
  · obtain ⟨evicted, hevicts⟩ := exists_evicts s.capacity (s.lines ++ [line])
    rw [push, if_neg hroom.ne']
    exact ⟨⟨evicted, hevicts.split.symm⟩, hevicts.fits⟩

/-- **A line that comes** belongs to the newest entry, and follows what was there. -/
theorem Grouped.push {s : Scrollback} (h : s.Grouped) {line : ScrollbackLine}
    (hindex : line.entryIndex = s.entryIndex)
    (hmarked : line.markup.isSome = true ↔ 0 < line.promptOffset)
    (hfollows : ∀ before ∈ s.lines.getLast?, Follows before line) : (s.push line).Led := by
  obtain ⟨hcapacity, hnewest⟩ := s.frame_push line
  obtain ⟨hsuffix, hfits⟩ := lines_push_suffix h.fits line
  have hchain : (s.lines ++ [line]).IsChain Follows := by
    refine h.chain.append (.singleton line) ?_
    intro before hbefore first hfirst
    obtain rfl : line = first := by simpa using hfirst
    exact hfollows before hbefore
  refine ⟨⟨hfits.trans hcapacity.ge, hchain.suffix hsuffix, ?_⟩, ?_⟩
  · intro kept hkept
    rcases List.mem_append.mp (hsuffix.subset hkept) with hold | hnew
    · exact h.marked kept hold
    · rw [List.mem_singleton.mp hnew]
      exact hmarked
  · intro last hlast
    have hne : (s.push line).lines ≠ [] := by
      rintro hnil
      rw [hnil] at hlast
      cases hlast
    obtain rfl : line = last := by
      have hsame := hsuffix.getLast hne
      rw [List.getLast_append_singleton] at hsame
      rw [List.getLast?_eq_some_getLast hne] at hlast
      exact hsame.symm.trans (Option.some.inj hlast)
    exact hindex.trans hnewest.symm

namespace Led

variable {s : Scrollback}

/-- **A command line** follows as the first line of its entry. -/
theorem push_beginEntry (h : s.Led) {line : ScrollbackLine}
    (hindex : line.entryIndex = s.entryIndex + 1) (hmarkup : line.markup.isSome = true)
    (hoffset : 0 < line.promptOffset) : (s.beginEntry.push line).Led := by
  have hbegun : s.beginEntry.Grouped := ⟨h.fits, h.chain, h.marked⟩
  refine hbegun.push hindex ⟨fun _ => hoffset, fun _ => hmarkup⟩ ?_
  intro before hbefore
  have hbefore : before.entryIndex = s.entryIndex := h.newest before hbefore
  exact ⟨Or.inr (by omega), fun _ => by omega, fun _ => hmarkup⟩

/-- **Any other line** follows in the entry that is there. -/
theorem push_output (h : s.Led) {line : ScrollbackLine}
    (hindex : line.entryIndex = s.entryIndex) (hmarkup : line.markup = none)
    (hoffset : line.promptOffset = 0) : (s.push line).Led := by
  refine h.toGrouped.push hindex (by simp [hmarkup, hoffset]) ?_
  intro before hbefore
  have hbefore : before.entryIndex = s.entryIndex := h.newest before hbefore
  exact ⟨Or.inl (hindex.trans hbefore.symm), by simp [hmarkup, hindex, hbefore]⟩

/-- **What is the last line when the newest entry is taken back** belongs to the entry before. -/
theorem newest_linesBeforeLast (h : s.Led) {line : ScrollbackLine}
    (hline : line ∈ s.linesBeforeLast.getLast?) : line.entryIndex + 1 = s.entryIndex := by
  set ofLast : ScrollbackLine → Bool := (·.entryIndex = s.entryIndex) with hofLast
  have hsplit : s.linesBeforeLast ++ s.lines.rtakeWhile ofLast = s.lines :=
    List.rdropWhile_append_rtakeWhile
  have hother : line.entryIndex ≠ s.entryIndex := by
    have hne : s.linesBeforeLast ≠ [] := List.ne_nil_of_mem (List.mem_of_getLast? hline)
    have hnot := List.rdropWhile_last_not ofLast s.lines hne
    rw [List.getLast?_eq_some_getLast hne] at hline
    have hsame : s.linesBeforeLast.getLast hne = line := Option.some.inj hline
    change ¬ofLast (s.linesBeforeLast.getLast hne) = true at hnot
    rw [hsame] at hnot
    simpa [hofLast] using hnot
  cases hgone : s.lines.rtakeWhile ofLast with
  | nil =>
    -- then it is the last of all lines, and those end with the newest entry
    rw [hgone, List.append_nil] at hsplit
    exact absurd (h.newest line (hsplit ▸ hline)) hother
  | cons first rest =>
    have hfirst : first.entryIndex = s.entryIndex := by
      have hmem : first ∈ s.lines.rtakeWhile ofLast := hgone ▸ List.mem_cons_self
      simpa [hofLast] using List.mem_rtakeWhile_imp hmem
    have hchain := h.chain
    rw [← hsplit, hgone] at hchain
    have hfollows : Follows line first :=
      (List.isChain_append.mp hchain).2.2 line hline first rfl
    rcases hfollows.next with hsame | hnext
    · exact absurd (hsame.symm.trans hfirst) hother
    · exact hnext.symm.trans hfirst

theorem clearLast (h : s.Led) (guard : Option Nat) : ((s.clearLast? guard).getD s).Led := by
  unfold clearLast?
  split
  · have hkept := s.linesBeforeLast_prefix
    refine ⟨⟨hkept.length_le.trans h.fits, h.chain.prefix hkept,
      fun line hline => h.marked line (hkept.subset hline)⟩, ?_⟩
    intro line hline
    exact Nat.eq_sub_of_add_eq (h.newest_linesBeforeLast hline)
  · exact h

end Led

end Scrollback

namespace Reporter

open Scrollback (Follows Led)

/-- **A row that leaves the screen** leads an entry or belongs to the newest one, as it is a command
line or not. -/
theorem led_scrollOff {r : Reporter} (h : r.scrollback.Led) (line : String)
    (mark : Option PromptMark) : (r.scrollOff line mark).scrollback.Led := by
  unfold scrollOff
  dsimp only
  split
  · next hoffset => exact h.push_beginEntry rfl rfl hoffset
  · exact h.push_output rfl rfl rfl

/-- **Every change leaves the entries led by their command lines.** -/
theorem led_follow {r : Reporter} (h : r.scrollback.Led) (v : Viewer) (change : Change) :
    (r.follow v change).1.scrollback.Led := by
  cases change with
  | update view => exact ⟨⟨h.fits, h.chain, h.marked⟩, h.newest⟩
  | scrollOff line mark => exact led_scrollOff h line mark
  | reconnect => exact ⟨⟨h.fits, h.chain, h.marked⟩, h.newest⟩
  | forceFullUpdate => exact h
  | clearLast guard =>
    have hcleared := h.clearLast guard
    change ((r.clearLast? guard).getD r).scrollback.Led
    unfold clearLast?
    cases hclear : r.scrollback.clearLast? guard with
    | none => exact h
    | some cleared =>
      rw [hclear] at hcleared
      exact hcleared
  | clearScrollback => exact Scrollback.led_empty _

theorem led_followAll {r : Reporter} (h : r.scrollback.Led) (v : Viewer) (changes : List Change) :
    (r.followAll v changes).1.scrollback.Led := by
  induction changes generalizing r v with
  | nil => exact h
  | cons change rest ih => exact ih (led_follow h v change) _

/-- **Command lines lead their entries.** Whatever was done with a new reporter, the lines that its
scrollback keeps have numbers without gaps, up to that of the newest entry. A line has markup if a
command begins in it, and one that has another before it has markup just if its entry is not that
of the other. -/
theorem lines_led_followAll (prompt : Option PromptFormat) (capacity : Nat) (v : Viewer)
    (changes : List Change) :
    let s := ((start prompt capacity).followAll v changes).1.scrollback
    s.lines.IsChain Follows ∧
      (∀ line ∈ s.lines.getLast?, line.entryIndex = s.entryIndex) ∧
      ∀ line ∈ s.lines, line.markup.isSome = true ↔ 0 < line.promptOffset := by
  intro s
  have hled : s.Led := led_followAll (Scrollback.led_empty capacity) v changes
  exact ⟨hled.chain, hled.newest, hled.marked⟩

/-- An entry loses its command line to eviction while lines still come to it, and its number is
given again once the entry is taken back. -/
example :
    let r := start (some ⟨"", "", "$"⟩) 2
    let command : Change := .scrollOff "$ ls" (some (.prompt "/"))
    let output : Change := .scrollOff "a" none
    let run := fun changes => ((r.followAll .empty changes).1.scrollback.lines.map fun line =>
      (line.entryIndex, line.markup.isSome))
    run [command, output, output, output] = [(1, false)] ∧
      run [command, output, output, output, .clearLast none, output, command] =
        [(0, false), (1, true)] := by
  decide +kernel

end Reporter

end GlassTty
