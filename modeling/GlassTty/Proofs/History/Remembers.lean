import GlassTty.Report.Reporter

/-!
# Lines that are remembered

As long as the lines that have come to the scrollback are no more than it keeps, they are all there,
in their order (`GlassTty.Scrollback.Remembers`). Whether a line opens an entry makes no difference
to that, and neither does telling the lines to a viewer. If there are more, those that are left are
the last ones, still in their order (`GlassTty.Reporter.suffix_foldl_scrollOff`).
-/

namespace GlassTty

namespace Scrollback

/-- **The scrollback remembers texts**: those of all lines that have come to it, unless they are
more than it keeps. -/
structure Remembers (s : Scrollback) (capacity : Nat) (texts : List String) : Prop where
  capacity_eq : s.capacity = capacity
  lines_eq : texts.length ≤ capacity → s.lines.map (·.line) = texts

/-- Nothing is evicted as long as the lines fit. -/
theorem evict_eq_self {capacity : Nat} {lines : List ScrollbackLine}
    (h : lines.length ≤ capacity) : evict capacity lines = lines := by
  cases lines with
  | nil => rw [evict]
  | cons first rest => rw [evict, if_pos (Nat.lt_of_succ_le h)]

/-- As long as there is room, a line that comes is put behind the others. -/
theorem lines_push_of_room {s : Scrollback} (hroom : s.lines.length + 1 ≤ s.capacity)
    (line : ScrollbackLine) : (s.push line).lines = s.lines ++ [line] := by
  rw [push, if_neg (by omega)]
  exact evict_eq_self (by simpa using hroom)

/-- What is evicted has stood in front of all that is kept. -/
theorem evict_suffix (capacity : Nat) (lines : List ScrollbackLine) :
    evict capacity lines <:+ lines := by
  induction lines using evict.induct capacity with
  | case1 => exact ⟨[], evict_eq_self (Nat.zero_le capacity)⟩
  | case2 first rest hfits => exact ⟨[], evict_eq_self (Nat.succ_le_of_lt hfits)⟩
  | case3 first rest hfull ih =>
    rw [evict, if_neg hfull]
    exact (ih.trans (List.dropWhile_suffix _)).trans (List.suffix_cons first rest)

/-- So a line that comes is the last one, or nothing is left. -/
theorem push_suffix {s : Scrollback} (h : s.capacity ≠ 0) (line : ScrollbackLine) :
    (s.push line).lines <:+ s.lines ++ [line] ∧ (s.push line).capacity = s.capacity := by
  rw [push, if_neg h]
  exact ⟨evict_suffix _ _, rfl⟩

variable {s : Scrollback} {capacity : Nat} {texts : List String}

theorem remembers_empty (capacity : Nat) : (empty capacity).Remembers capacity [] :=
  ⟨rfl, fun _ => rfl⟩

theorem Remembers.beginEntry (h : s.Remembers capacity texts) :
    s.beginEntry.Remembers capacity texts :=
  ⟨h.capacity_eq, h.lines_eq⟩

/-- A line that comes is remembered after the others. -/
theorem Remembers.push (h : s.Remembers capacity texts) (line : ScrollbackLine) :
    (s.push line).Remembers capacity (texts ++ [line.line]) := by
  have hcapacity := h.capacity_eq
  unfold Scrollback.push
  constructor
  · split
    · exact hcapacity
    · exact hcapacity
  · intro hfits
    rw [List.length_append, List.length_singleton] at hfits
    have hlines := h.lines_eq (by omega)
    have hlength : s.lines.length = texts.length := by rw [← hlines, List.length_map]
    have hkept : evict s.capacity (s.lines ++ [line]) = s.lines ++ [line] :=
      evict_eq_self (by rw [List.length_append, List.length_singleton]; omega)
    rw [if_neg (by omega)]
    dsimp only
    rw [hkept, List.map_append, hlines]
    rfl

/-- The lines that have not been told and are still there are the last ones. -/
theorem takeUnreported_eq_drop (s : Scrollback) :
    s.takeUnreported.1 = s.lines.drop (s.lines.length - (s.total - s.reported)) := by
  change s.lines.drop (s.lines.length - min (s.total - s.reported) s.lines.length) = _
  congr 1
  omega

theorem Remembers.takeUnreported (h : s.Remembers capacity texts) :
    s.takeUnreported.2.Remembers capacity texts :=
  ⟨h.capacity_eq, h.lines_eq⟩

end Scrollback

namespace Reporter

variable {r : Reporter} {capacity : Nat} {texts : List String}

/-- A row that is moved into the scrollback is remembered, a command line and any other. -/
theorem remembers_scrollOff (h : r.scrollback.Remembers capacity texts) (line : String)
    (mark : Option PromptMark) :
    (r.scrollOff line mark).scrollback.Remembers capacity (texts ++ [line]) := by
  unfold scrollOff
  dsimp only
  split
  · exact h.beginEntry.push _
  · exact h.push _

/-- So are rows that are moved there one after the other. -/
theorem remembers_foldl_scrollOff (rows : List Nat) (h : r.scrollback.Remembers capacity texts)
    (line : Nat → String) (mark : Nat → Option PromptMark) :
    (rows.foldl (fun r row => r.scrollOff (line row) (mark row)) r).scrollback.Remembers capacity
      (texts ++ rows.map line) := by
  induction rows generalizing r texts with
  | nil => simpa using h
  | cons row rows ih =>
    rw [List.map_cons, List.append_cons]
    exact ih (remembers_scrollOff h (line row) (mark row))

/-- If all of them fit, none of the lines before is lost. -/
theorem lines_foldl_scrollOff (r : Reporter) (rows : List Nat)
    (hfits : r.scrollback.lines.length + rows.length ≤ r.scrollback.capacity)
    (line : Nat → String) (mark : Nat → Option PromptMark) :
    ((rows.foldl (fun r row => r.scrollOff (line row) (mark row)) r).scrollback.lines.map (·.line))
      = r.scrollback.lines.map (·.line) ++ rows.map line := by
  have hstart : r.scrollback.Remembers r.scrollback.capacity (r.scrollback.lines.map (·.line)) :=
    ⟨rfl, fun _ => rfl⟩
  refine (remembers_foldl_scrollOff rows hstart line mark).lines_eq ?_
  rw [List.length_append, List.length_map, List.length_map]
  exact hfits

/-- **Rows that are moved into the scrollback stand at its end**, in their order, behind what is
left of the lines before. -/
theorem suffix_foldl_scrollOff (rows : List Nat) (hroom : r.scrollback.capacity ≠ 0)
    (line : Nat → String) (mark : Nat → Option PromptMark) :
    ((rows.foldl (fun r row => r.scrollOff (line row) (mark row)) r).scrollback.lines.map (·.line))
      <:+ r.scrollback.lines.map (·.line) ++ rows.map line := by
  induction rows generalizing r with
  | nil => simp
  | cons row rows ih =>
    have hfirst : (r.scrollOff (line row) (mark row)).scrollback.lines.map (·.line) <:+
        r.scrollback.lines.map (·.line) ++ [line row] ∧
          (r.scrollOff (line row) (mark row)).scrollback.capacity ≠ 0 := by
      have hpush : ∀ (s : Scrollback) (new : ScrollbackLine), s.capacity ≠ 0 →
          (s.push new).lines.map (·.line) <:+ s.lines.map (·.line) ++ [new.line] ∧
            (s.push new).capacity ≠ 0 := by
        intro s new hs
        obtain ⟨hsuffix, hcapacity⟩ := Scrollback.push_suffix hs new
        exact ⟨by simpa using hsuffix.map (·.line), hcapacity ▸ hs⟩
      unfold scrollOff
      dsimp only
      split
      · exact hpush r.scrollback.beginEntry _ hroom
      · exact hpush r.scrollback _ hroom
    obtain ⟨⟨evicted, hsuffix⟩, hcapacity⟩ := hfirst
    refine (ih hcapacity).trans ⟨evicted, ?_⟩
    rw [List.map_cons, List.append_cons, ← hsuffix, List.append_assoc]

end Reporter

end GlassTty
