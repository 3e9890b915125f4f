import GlassTty.Proofs.History.Eviction
import GlassTty.Proofs.Text.Parts

/-!
# The rows of a command line

A command line that is longer than a row takes up several. The row of the prompt is marked, and each
row that it is continued on is marked as one that continues another
(`GlassTty.Row.IsCommandLine`). When rows go into the scrollback one after the other, what becomes
of these is one entry at most (`GlassTty.Reporter.oneEntry_scrollOffAll`): the first row opens it if
the prompt's mark stands on it, and all of them belong to it. Where the prompt has no lead, a row
that continues another opens none whatever stands on it.
-/

namespace GlassTty

/-! ### Where the mark of a prompt stands -/

namespace PromptFormat

/-- **The mark of the prompt stands on a line**, and there is one. -/
def StandsOn (p : PromptFormat) (line : String) : Prop :=
  p.mark ≠ "" ∧ p.mark.toList <:+: line.toList

end PromptFormat

/-- **On the row of a prompt** a command begins if the prompt's mark stands there. -/
theorem promptOffset_pos_iff {p : PromptFormat} {line : String} {mark : PromptMark}
    (hown : mark.isContinuation = false) :
    0 < promptOffset line (some p) (some mark) ↔ p.StandsOn line := by
  have hrecognised : p.recognises line.toList (some mark) = true := by
    simp [PromptFormat.recognises, hown]
  unfold promptOffset PromptFormat.StandsOn
  dsimp only
  rw [if_pos hrecognised, ← Text.isSome_cut?_iff]
  by_cases hempty : p.mark = ""
  · have hcut : ∀ text, Text.cut? [] text = some ([], text) := by
      rintro (_ | ⟨c, rest⟩) <;> rfl
    simp [hempty, hcut]
  · have hlength : p.mark.length ≠ 0 := by simpa [← String.length_toList] using hempty
    cases hcut : Text.cut? p.mark.toList line.toList with
    | none => simp
    | some parts =>
      simp only [Option.isSome_some, and_true, ne_eq, hempty, not_false_eq_true, iff_true]
      omega

/-- **On a row that continues another** no command begins, unless the prompt has a lead. -/
theorem promptOffset_of_continuation {p : PromptFormat} (hlead : p.lead = "") (line : String)
    {mark : PromptMark} (hcontinues : mark.isContinuation = true) :
    promptOffset line (some p) (some mark) = 0 := by
  have hunknown : p.recognises line.toList (some mark) = false := by
    simp [PromptFormat.recognises, hcontinues, hlead]
  unfold promptOffset
  dsimp only
  rw [if_neg (by rw [hunknown]; exact Bool.false_ne_true)]

/-! ### Rows that go into the scrollback -/

namespace Reporter

/-- **Lines have come** behind those of before, and nothing else has changed that matters to the
next ones. -/
structure Gains (r r' : Reporter) (new : List ScrollbackLine) : Prop where
  lines : r'.scrollback.lines = r.scrollback.lines ++ new
  capacity : r'.scrollback.capacity = r.scrollback.capacity
  prompt : r'.prompt = r.prompt

theorem Gains.trans {r r' r'' : Reporter} {new more : List ScrollbackLine} (h : r.Gains r' new)
    (h' : r'.Gains r'' more) : r.Gains r'' (new ++ more) where
  lines := by rw [h'.lines, h.lines, List.append_assoc]
  capacity := h'.capacity.trans h.capacity
  prompt := h'.prompt.trans h.prompt

/-- The room that is left. -/
theorem Gains.room {r r' : Reporter} {new : List ScrollbackLine} (h : r.Gains r' new) {count : Nat}
    (hroom : r.scrollback.lines.length + (new.length + count) ≤ r.scrollback.capacity) :
    r'.scrollback.lines.length + count ≤ r'.scrollback.capacity := by
  rw [h.lines, h.capacity, List.length_append]
  omega

variable {r : Reporter}

/-- **A row that finds room** becomes a line of the newest entry. If a command begins on it the
entry is its own, and it has markup. -/
theorem gains_scrollOff (hroom : r.scrollback.lines.length + 1 ≤ r.scrollback.capacity)
    (line : String) (mark : Option PromptMark) :
    ∃ new : ScrollbackLine, r.Gains (r.scrollOff line mark) [new] ∧ new.line = line ∧
      new.entryIndex = (r.scrollOff line mark).scrollback.entryIndex ∧
      new.promptOffset = r.promptOffset line mark ∧
      (new.markup.isSome = true ↔ 0 < r.promptOffset line mark) := by
  unfold scrollOff
  dsimp only
  split
  · next hcommand =>
    have hbegun : r.scrollback.beginEntry.lines.length + 1 ≤ r.scrollback.beginEntry.capacity :=
      hroom
    refine ⟨_, ⟨Scrollback.lines_push_of_room hbegun _, (Scrollback.frame_push _ _).1, rfl⟩, rfl,
      (Scrollback.frame_push _ _).2.symm, rfl, ?_⟩
    exact iff_of_true rfl hcommand
  · next houtput =>
    refine ⟨_, ⟨Scrollback.lines_push_of_room hroom _, (Scrollback.frame_push _ _).1, rfl⟩, rfl,
      (Scrollback.frame_push _ _).2.symm, ?_, ?_⟩
    · exact (Nat.eq_zero_of_not_pos houtput).symm
    · exact iff_of_false Bool.false_ne_true houtput

/-- No entry is begun for a row without a command. -/
theorem entryIndex_scrollOff {line : String} {mark : Option PromptMark}
    (hoffset : r.promptOffset line mark = 0) :
    (r.scrollOff line mark).scrollback.entryIndex = r.scrollback.entryIndex := by
  unfold scrollOff
  dsimp only
  rw [if_neg (by omega)]
  exact (Scrollback.frame_push _ _).2

/-- **Rows go into the scrollback**, one after the other. -/
def scrollOffAll (r : Reporter) (rows : List Row) : Reporter :=
  rows.foldl (fun r row => r.scrollOff row.text row.mark) r

theorem scrollOffAll_append (r : Reporter) (rows more : List Row) :
    r.scrollOffAll (rows ++ more) = (r.scrollOffAll rows).scrollOffAll more :=
  List.foldl_append

/-- **Rows that find room** become lines with their texts. -/
theorem gains_scrollOffAll {rows : List Row}
    (hroom : r.scrollback.lines.length + rows.length ≤ r.scrollback.capacity) :
    ∃ new, r.Gains (r.scrollOffAll rows) new ∧ new.map (·.line) = rows.map Row.text := by
  induction rows generalizing r with
  | nil => exact ⟨[], ⟨(List.append_nil _).symm, rfl, rfl⟩, rfl⟩
  | cons row rest ih =>
    rw [List.length_cons, Nat.add_comm rest.length] at hroom
    obtain ⟨line, hfirst, htext, -⟩ := gains_scrollOff (r := r) (by omega) row.text row.mark
    obtain ⟨lines, hrest, htexts⟩ := ih (hfirst.room hroom)
    refine ⟨line :: lines, hfirst.trans hrest, ?_⟩
    rw [List.map_cons, List.map_cons, htext, htexts]

/-! ### The rows of a command line -/

end Reporter

/-- **The rows of one command line**: the first is that of the prompt, and the others continue
it. -/
structure Row.IsCommandLine (directory : String) (rows : List Row) : Prop where
  head : ∀ row ∈ rows.head?, row.mark = some (.prompt directory)
  tail : ∀ row ∈ rows.tail, ∃ mark, row.mark = some mark ∧ mark.isContinuation = true

namespace Row.IsCommandLine

variable {directory : String} {rows front : List Row} {last row : Row}

/-- Only the marks matter. -/
theorem of_last (h : IsCommandLine directory (front ++ [last])) (hmark : row.mark = last.mark) :
    IsCommandLine directory (front ++ [row]) := by
  cases front with
  | nil =>
    refine ⟨fun first hfirst => ?_, by simp⟩
    obtain rfl : row = first := by simpa using hfirst
    exact hmark.trans (h.head last rfl)
  | cons first rest =>
    refine ⟨h.head, ?_⟩
    intro other hother
    rcases List.mem_append.mp hother with hin | hin
    · exact h.tail other (List.mem_append_left _ hin)
    · obtain rfl := List.mem_singleton.mp hin
      rw [hmark]
      exact h.tail last (List.mem_append_right _ List.mem_cons_self)

/-- Each row has a mark. -/
theorem exists_mark (h : IsCommandLine directory rows) (hrow : row ∈ rows) :
    ∃ mark, row.mark = some mark := by
  cases rows with
  | nil => cases hrow
  | cons first rest =>
    rcases List.mem_cons.mp hrow with rfl | hin
    · exact ⟨_, h.head _ rfl⟩
    · obtain ⟨mark, hmark, -⟩ := h.tail row hin
      exact ⟨mark, hmark⟩

/-- The line goes on. -/
theorem append (h : IsCommandLine directory (front ++ [last])) {mark : PromptMark}
    (hrow : row.mark = some mark.continued) :
    IsCommandLine directory (front ++ [last] ++ [row]) := by
  have hcontinues : mark.continued.isContinuation = true := by
    refine decide_eq_true ?_
    rw [PromptMark.continued]
    dsimp only
    omega
  refine ⟨fun first hfirst => h.head first ?_, ?_⟩
  · rwa [List.head?_append_of_ne_nil _ (by simp)] at hfirst
  · rw [List.tail_append_of_ne_nil (by simp)]
    intro other hother
    rcases List.mem_append.mp hother with hin | hin
    · exact h.tail other hin
    · obtain rfl := List.mem_singleton.mp hin
      exact ⟨_, hrow, hcontinues⟩

end Row.IsCommandLine

/-- **The lines of one command**, in the entry with the given number: only the first may have
markup, and it has if the prompt's mark stands on it. -/
structure ScrollbackLine.OneEntry (p : PromptFormat) (index : Nat) (lines : List ScrollbackLine) :
    Prop where
  index : ∀ line ∈ lines, line.entryIndex = index
  head : ∀ line ∈ lines.head?, (line.markup.isSome = true ↔ p.StandsOn line.line) ∧
    (0 < line.promptOffset ↔ p.StandsOn line.line)
  tail : ∀ line ∈ lines.tail, line.markup = none ∧ line.promptOffset = 0

namespace Reporter

variable {r : Reporter} {p : PromptFormat}

/-- **Rows that continue another** join the newest entry, and have no markup. -/
theorem gains_scrollOffAll_continued (hprompt : r.prompt = some p) (hlead : p.lead = "")
    {rows : List Row}
    (hrows : ∀ row ∈ rows, ∃ mark, row.mark = some mark ∧ mark.isContinuation = true)
    (hroom : r.scrollback.lines.length + rows.length ≤ r.scrollback.capacity) :
    ∃ new, r.Gains (r.scrollOffAll rows) new ∧ new.map (·.line) = rows.map Row.text ∧
      (r.scrollOffAll rows).scrollback.entryIndex = r.scrollback.entryIndex ∧
      ∀ line ∈ new, line.entryIndex = r.scrollback.entryIndex ∧ line.markup = none ∧
        line.promptOffset = 0 := by
  induction rows generalizing r with
  | nil => exact ⟨[], ⟨(List.append_nil _).symm, rfl, rfl⟩, rfl, rfl, by simp⟩
  | cons row rest ih =>
    rw [List.length_cons, Nat.add_comm rest.length] at hroom
    obtain ⟨mark, hmark, hcontinues⟩ := hrows row List.mem_cons_self
    have hoffset : r.promptOffset row.text row.mark = 0 := by
      rw [Reporter.promptOffset, hprompt, hmark]
      exact promptOffset_of_continuation hlead row.text hcontinues
    obtain ⟨line, hfirst, htext, hindex, hcolumn, hmarkup⟩ :=
      gains_scrollOff (r := r) (by omega) row.text row.mark
    rw [entryIndex_scrollOff hoffset] at hindex
    rw [hoffset] at hcolumn hmarkup
    obtain ⟨lines, hrest, htexts, hsame, hlines⟩ :=
      ih (hfirst.prompt.trans hprompt)
        (fun other hother => hrows other (List.mem_cons_of_mem _ hother)) (hfirst.room hroom)
    rw [entryIndex_scrollOff hoffset] at hsame hlines
    refine ⟨line :: lines, hfirst.trans hrest, ?_, hsame, ?_⟩
    · rw [List.map_cons, List.map_cons, htext, htexts]
    · refine List.forall_mem_cons.mpr ⟨⟨hindex, ?_, hcolumn⟩, hlines⟩
      simpa using hmarkup

/-- **A command line comes to one entry**, the first row being the only one that may open it. -/
theorem oneEntry_scrollOffAll (hprompt : r.prompt = some p) (hlead : p.lead = "")
    {directory : String} {rows : List Row} (hrows : Row.IsCommandLine directory rows)
    (hroom : r.scrollback.lines.length + rows.length ≤ r.scrollback.capacity) :
    ∃ new, r.Gains (r.scrollOffAll rows) new ∧ new.map (·.line) = rows.map Row.text ∧
      ScrollbackLine.OneEntry p (r.scrollOffAll rows).scrollback.entryIndex new := by
  cases rows with
  | nil =>
    exact ⟨[], ⟨(List.append_nil _).symm, rfl, rfl⟩, rfl, by simp, by simp, by simp⟩
  | cons row rest =>
    rw [List.length_cons, Nat.add_comm rest.length] at hroom
    have hmark : row.mark = some (.prompt directory) := hrows.head row rfl
    have hcontinued : ∀ other ∈ rest, ∃ mark,
        other.mark = some mark ∧ mark.isContinuation = true := hrows.tail
    obtain ⟨line, hfirst, htext, hindex, hcolumn, hmarkup⟩ :=
      gains_scrollOff (r := r) (by omega) row.text row.mark
    have hopens : 0 < r.promptOffset row.text row.mark ↔ p.StandsOn line.line := by
      rw [Reporter.promptOffset, hprompt, hmark, htext]
      exact promptOffset_pos_iff rfl
    obtain ⟨lines, hrest, htexts, hsame, hlines⟩ :=
      gains_scrollOffAll_continued (hfirst.prompt.trans hprompt) hlead hcontinued
        (hfirst.room hroom)
    refine ⟨line :: lines, hfirst.trans hrest, ?_, ?_, ?_, ?_⟩
    · rw [List.map_cons, List.map_cons, htext, htexts]
    · refine List.forall_mem_cons.mpr ⟨hindex.trans hsame.symm, fun other hother => ?_⟩
      exact (hlines other hother).1.trans hsame.symm
    · intro first hhead
      obtain rfl : line = first := Option.some.inj hhead
      exact ⟨hmarkup.trans hopens, by rw [hcolumn]; exact hopens⟩
    · exact fun other hother => (hlines other hother).2

/-- The same with other rows before it. -/
theorem oneEntry_scrollOffAll_append (hprompt : r.prompt = some p) (hlead : p.lead = "")
    {directory : String} {above rows : List Row} (hrows : Row.IsCommandLine directory rows)
    (hroom : r.scrollback.lines.length + (above.length + rows.length) ≤ r.scrollback.capacity) :
    ∃ before command, r.Gains (r.scrollOffAll (above ++ rows)) (before ++ command) ∧
      before.map (·.line) = above.map Row.text ∧ command.map (·.line) = rows.map Row.text ∧
      ScrollbackLine.OneEntry p (r.scrollOffAll (above ++ rows)).scrollback.entryIndex command := by
  have habove : r.scrollback.lines.length + above.length ≤ r.scrollback.capacity := by omega
  obtain ⟨before, hbefore, htexts⟩ := gains_scrollOffAll habove
  have hlength : before.length = above.length := by
    simpa using congrArg List.length htexts
  obtain ⟨command, hcommand, hlines, hentry⟩ :=
    oneEntry_scrollOffAll (hbefore.prompt.trans hprompt) hlead hrows
      (hbefore.room (hlength.symm ▸ hroom))
  rw [scrollOffAll_append]
  exact ⟨before, command, hbefore.trans hcommand, htexts, hlines, hentry⟩

end Reporter

end GlassTty
