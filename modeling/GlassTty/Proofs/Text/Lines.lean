import GlassTty.Text.Blank
import Mathlib.Data.List.TakeWhile
import Mathlib.Tactic.SplitIfs

/-!
# Trimming and lines, by concatenation

What trimming does to a text that is put together, and into which lines it is split. A text with no
blank at either end is left as it is (`GlassTty.Text.Tight`); behind a character that is no blank
only the rest is trimmed. A line with its line end, of either kind, comes first among the lines
(`GlassTty.Text.lines_append`).
-/

namespace GlassTty.Text

/-! ### Trimming -/

/-- A text has no blank at either end. -/
structure Tight (text : List Char) : Prop where
  head : ∀ c ∈ text.head?, isBlank c = false
  last : ∀ c ∈ text.getLast?, isBlank c = false

instance (text : List Char) : Decidable (Tight text) :=
  decidable_of_iff (text.head?.all (!isBlank ·) = true ∧ text.getLast?.all (!isBlank ·) = true)
    ⟨fun h => ⟨by simpa [Option.all_eq_true] using h.1, by simpa [Option.all_eq_true] using h.2⟩,
      fun h => ⟨by simpa [Option.all_eq_true] using h.head,
        by simpa [Option.all_eq_true] using h.last⟩⟩

theorem trimStart_eq_self {text : List Char} (h : ∀ c ∈ text.head?, isBlank c = false) :
    trimStart text = text := by
  cases text with
  | nil => rfl
  | cons c text => rw [trimStart, List.dropWhile_cons_of_neg (by simp [h c rfl])]

theorem trimEnd_eq_self {text : List Char} (h : ∀ c ∈ text.getLast?, isBlank c = false) :
    trimEnd text = text := by
  have hreverse : trimStart text.reverse = text.reverse :=
    trimStart_eq_self (by rwa [List.head?_reverse])
  rw [trimEnd, ← trimStart, hreverse, List.reverse_reverse]

theorem mem_of_mem_trimEnd {text : List Char} {c : Char} (h : c ∈ trimEnd text) : c ∈ text :=
  List.mem_reverse.mp ((List.dropWhile_suffix _).subset (List.mem_reverse.mp h))

theorem Tight.trim_eq_self {text : List Char} (h : Tight text) : trim text = text := by
  rw [trim, trimStart_eq_self h.head, trimEnd_eq_self h.last]

theorem trim_cons_of_blank {c : Char} (h : isBlank c = true) (text : List Char) :
    trim (c :: text) = trim text := by
  rw [trim, trimStart, List.dropWhile_cons_of_pos h]
  rfl

/-- The end is trimmed no further than to a character that is no blank. -/
theorem trimEnd_cons {c : Char} (h : isBlank c = false) (text : List Char) :
    trimEnd (c :: text) = c :: trimEnd text := by
  have hstop : [c].dropWhile isBlank = [c] := trimStart_eq_self (by simpa using h)
  rw [trimEnd, trimEnd, List.reverse_cons, List.dropWhile_append, hstop]
  split_ifs with hempty
  · rw [List.isEmpty_iff.mp hempty]
    rfl
  · rw [List.reverse_append]
    rfl

/-- Only what is behind is trimmed, unless all of it is blank. -/
theorem trimEnd_append {right : List Char} (h : ∃ c ∈ right, isBlank c = false)
    (left : List Char) : trimEnd (left ++ right) = left ++ trimEnd right := by
  have hrest : (right.reverse.dropWhile isBlank).isEmpty = false := by
    rw [List.isEmpty_eq_false_iff, Ne, List.dropWhile_eq_nil_iff]
    obtain ⟨c, hmem, hc⟩ := h
    intro hblank
    simpa [hc] using hblank c (List.mem_reverse.mpr hmem)
  rw [trimEnd, trimEnd, List.reverse_append, List.dropWhile_append, hrest]
  simp

/-! ### Lines -/

section Split

variable {stop : Char → Bool} {part : List Char}

theorem splitAt_ne_nil (text : List Char) : splitAt stop text ≠ [] := by
  cases text with
  | nil => exact List.cons_ne_nil _ _
  | cons c rest =>
    rw [splitAt]
    split_ifs
    · exact List.cons_ne_nil _ _
    · split <;> exact List.cons_ne_nil _ _

theorem splitAt_eq_singleton (h : ∀ c ∈ part, stop c = false) : splitAt stop part = [part] := by
  induction part with
  | nil => rfl
  | cons c part ih =>
    obtain ⟨hc, hpart⟩ := List.forall_mem_cons.mp h
    rw [splitAt, if_neg (by simp [hc]), ih hpart]

/-- A part is over where a character stops it. -/
theorem splitAt_append (h : ∀ c ∈ part, stop c = false) {d : Char} (hd : stop d = true)
    (rest : List Char) : splitAt stop (part ++ d :: rest) = part :: splitAt stop rest := by
  induction part with
  | nil => rw [List.nil_append, splitAt, if_pos hd]
  | cons c part ih =>
    obtain ⟨hc, hpart⟩ := List.forall_mem_cons.mp h
    rw [List.cons_append, splitAt, if_neg (by simp [hc]), ih hpart]

/-- Splitting takes nothing away but the characters that stop a part. -/
theorem flatten_splitAt (text : List Char) :
    (splitAt stop text).flatten = text.filter (!stop ·) := by
  induction text with
  | nil => rfl
  | cons c rest ih =>
    rw [splitAt, List.filter_cons]
    by_cases hc : stop c = true
    · simpa [hc] using ih
    · obtain ⟨part, parts, hparts⟩ := List.exists_cons_of_ne_nil (@splitAt_ne_nil stop rest)
      rw [hparts] at ih
      simpa [hc, hparts] using ih

end Split

/-- The words of a text are what it says but for the blanks. -/
theorem flatten_words (text : List Char) : (words text).flatten = text.filter (!isBlank ·) := by
  rw [words, List.flatten_filter_not_isEmpty, flatten_splitAt]

/-- The two ways to end a line. -/
def IsLineEnd (text : List Char) : Prop :=
  text = ['\n'] ∨ text = ['\r', '\n']

variable {line : List Char}

/-- A text with no line feed is one line, if it is a text at all. -/
theorem lines_eq_singleton (h : '\n' ∉ line) (hne : line ≠ []) : lines line = [line] := by
  have hsplit : splitAt (· == '\n') line = [line] :=
    splitAt_eq_singleton fun c hc => beq_eq_false_iff_ne.mpr (ne_of_mem_of_not_mem hc h)
  simp [lines, hsplit, hne]

theorem lines_append_lineFeed (h : '\n' ∉ line) (text : List Char) :
    lines (line ++ '\n' :: text) =
      (if line.getLast? = some '\r' then line.dropLast else line) :: lines text := by
  have hsplit : splitAt (· == '\n') (line ++ '\n' :: text) = line :: splitAt (· == '\n') text :=
    splitAt_append (fun c hc => beq_eq_false_iff_ne.mpr (ne_of_mem_of_not_mem hc h)) rfl text
  obtain ⟨part, parts, hparts⟩ :=
    List.exists_cons_of_ne_nil (@splitAt_ne_nil (· == '\n') text)
  simp only [lines, hsplit, hparts, List.getLast?_cons_cons, List.dropLast_cons_cons, List.map_cons]
  split_ifs <;> rfl

/-- **A line with its line end** comes first among the lines, and then those behind it. -/
theorem lines_append {lineEnd : List Char} (hend : IsLineEnd lineEnd) (hfeed : '\n' ∉ line)
    (hreturn : '\r' ∉ line) (text : List Char) :
    lines (line ++ (lineEnd ++ text)) = line :: lines text := by
  rcases hend with rfl | rfl
  · have hlast : line.getLast? ≠ some '\r' := fun hlast => hreturn (List.mem_of_getLast? hlast)
    rw [List.singleton_append, lines_append_lineFeed hfeed, if_neg hlast]
  · have hfeed' : '\n' ∉ line ++ ['\r'] := by simp [hfeed]
    have happend : line ++ (['\r', '\n'] ++ text) = line ++ ['\r'] ++ '\n' :: text := by simp
    rw [happend, lines_append_lineFeed hfeed', if_pos List.getLast?_concat, List.dropLast_concat]

end GlassTty.Text
