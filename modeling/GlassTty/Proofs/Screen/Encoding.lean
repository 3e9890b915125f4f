import GlassTty.Screen.Cell
import Mathlib.Data.List.Chain
import Mathlib.Data.List.DropRight

/-!
# What a viewer gets of a row

A row is told as plain text, or as runs of characters with the same tags. Nothing of it is lost but
the blanks at its end: written out character by character, what is told is the tags and the
character of each cell up to the last that is not blank (`GlassTty.encodeRow_tells`). So there is
one character a cell, and the places in the text are columns.

The runs are found in one scan, where a cell joins the last run or begins another. What holds after
every cell (`GlassTty.RunsOf`) is that the runs so far are not empty, that neighbours differ in
their tags, and that they are the cells so far.
-/

namespace GlassTty

/-- What is told of a cell: its tags and the character drawn for it. -/
def Cell.told (cell : Cell) : Tags × Char :=
  (cell.style.tags, cell.shown)

/-- The characters of a run, each with its tags. -/
def Span.chars (span : Span) : List (Tags × Char) :=
  span.text.toList.map (span.tags, ·)

/-- A run of one cell. -/
theorem Span.chars_singleton (cell : Cell) :
    chars ⟨cell.style.tags, String.singleton cell.shown⟩ = [cell.told] := by
  rw [chars, String.toList_singleton]
  rfl

namespace RowText

/-- **The characters of a row as a viewer gets it**, each with its tags: those of a plain text have
none. -/
def chars : RowText → List (Tags × Char)
  | .plain text => text.toList.map (.plain, ·)
  | .styled spans => spans.flatMap Span.chars

/-- The runs of a row as a viewer gets it. A plain text is not told in runs. -/
def spans : RowText → List Span
  | .plain _ => []
  | .styled spans => spans

/-- Whether a row is told as plain text. -/
def isPlain : RowText → Bool
  | .plain _ => true
  | .styled _ => false

/-- The text is made of the characters, whatever their tags. -/
theorem map_snd_chars (row : RowText) : row.chars.map Prod.snd = row.text.toList := by
  cases row with
  | plain text => simp [chars, RowText.text, Function.comp_def]
  | styled spans => simp [chars, RowText.text, Span.chars, List.map_flatMap, Function.comp_def]

end RowText

/-! ### The cells that are told -/

/-- **What is left out of a row** is blank, and what is left does not end with a blank. -/
theorem exists_eq_trimBlank_append (cells : List Cell) :
    ∃ blanks, cells = trimBlank cells ++ blanks ∧ (∀ cell ∈ blanks, cell.isBlank = true) ∧
      ∀ last ∈ (trimBlank cells).getLast?, last.isBlank = false := by
  refine ⟨cells.rtakeWhile Cell.isBlank, List.rdropWhile_append_rtakeWhile.symm,
    fun cell hcell => List.mem_rtakeWhile_imp hcell, fun last hlast => ?_⟩
  obtain ⟨hne, rfl⟩ := List.mem_getLast?_eq_getLast hlast
  exact Bool.eq_false_iff.mpr (List.rdropWhile_last_not Cell.isBlank cells hne)

/-! ### The scan -/

/-- **The runs of cells**, the last one first. -/
structure RunsOf (cells : List Cell) (runs : List Span) : Prop where
  chars_eq : runs.reverse.flatMap Span.chars = cells.map Cell.told
  text_ne : ∀ run ∈ runs, run.text ≠ ""
  chain : runs.IsChain (·.tags ≠ ·.tags)

namespace RunsOf

variable {cells : List Cell} {runs : List Span}

theorem nil : RunsOf [] [] :=
  ⟨rfl, nofun, .nil⟩

/-- **A cell more** joins the last run or begins another one. -/
theorem addToRuns (h : RunsOf cells runs) (cell : Cell) :
    RunsOf (cells ++ [cell]) (addToRuns runs cell) := by
  cases runs with
  | nil =>
    refine ⟨?_, ?_, .singleton _⟩
    · rw [List.map_append, ← h.chars_eq, List.map_singleton, ← Span.chars_singleton]
      simp [GlassTty.addToRuns]
    · simp [GlassTty.addToRuns, ← String.toList_eq_nil_iff]
  | cons last before =>
    have hchars := h.chars_eq
    rw [List.reverse_cons, List.flatMap_append, List.flatMap_singleton] at hchars
    by_cases htags : last.tags = cell.style.tags
    · rw [GlassTty.addToRuns, if_pos htags]
      refine ⟨?_, ?_, ?_⟩
      · have hgrown : Span.chars { last with text := last.text.push cell.shown } =
            last.chars ++ [cell.told] := by
          simp [Span.chars, Cell.told, htags]
        rw [List.reverse_cons, List.flatMap_append, List.flatMap_singleton, hgrown,
          ← List.append_assoc, hchars, List.map_append, List.map_singleton]
      · refine List.forall_mem_cons.mpr ⟨?_, (List.forall_mem_cons.mp h.text_ne).2⟩
        simp [← String.toList_eq_nil_iff]
      · -- the tags of the last run are what they were
        cases before with
        | nil => exact .singleton _
        | cons next rest => exact List.isChain_cons_cons.mpr (List.isChain_cons_cons.mp h.chain)
    · rw [GlassTty.addToRuns, if_neg htags]
      refine ⟨?_, ?_, List.isChain_cons_cons.mpr ⟨Ne.symm htags, h.chain⟩⟩
      · rw [List.reverse_cons, List.flatMap_append, List.flatMap_singleton, h.chars_eq,
          Span.chars_singleton, List.map_append, List.map_singleton]
      · refine List.forall_mem_cons.mpr ⟨?_, h.text_ne⟩
        simp [← String.toList_eq_nil_iff]

/-- The runs of more cells, one after the other. -/
theorem foldl (h : RunsOf cells runs) (more : List Cell) :
    RunsOf (cells ++ more) (more.foldl GlassTty.addToRuns runs) := by
  induction more generalizing cells runs with
  | nil => rwa [List.append_nil]
  | cons cell rest ih =>
    have hadd := ih (h.addToRuns cell)
    rwa [List.append_assoc] at hadd

end RunsOf

/-- **The runs of a row.** -/
theorem runsOf_tagRuns (cells : List Cell) : RunsOf cells (tagRuns cells).reverse := by
  rw [tagRuns, List.reverse_reverse]
  exact RunsOf.nil.foldl cells

section

variable (cells : List Cell)

theorem flatMap_chars_tagRuns : (tagRuns cells).flatMap Span.chars = cells.map Cell.told := by
  simpa using (runsOf_tagRuns cells).chars_eq

theorem text_ne_of_mem_tagRuns : ∀ run ∈ tagRuns cells, run.text ≠ "" := by
  simpa using (runsOf_tagRuns cells).text_ne

theorem isChain_tagRuns : (tagRuns cells).IsChain (·.tags ≠ ·.tags) := by
  have hchain := List.isChain_reverse.mp (runsOf_tagRuns cells).chain
  exact hchain.imp fun _ _ hne => hne.symm

/-- The tags of a run are those of some cell. -/
theorem exists_cell_of_mem_tagRuns {run : Span} (h : run ∈ tagRuns cells) :
    ∃ cell ∈ cells, cell.style.tags = run.tags := by
  obtain ⟨c, hc⟩ := List.exists_mem_of_ne_nil run.text.toList
    (mt String.toList_eq_nil_iff.mp (text_ne_of_mem_tagRuns cells run h))
  have hmem : (run.tags, c) ∈ (tagRuns cells).flatMap Span.chars :=
    List.mem_flatMap_of_mem h (List.mem_map_of_mem hc)
  rw [flatMap_chars_tagRuns] at hmem
  obtain ⟨cell, hcell, htold⟩ := List.mem_map.mp hmem
  exact ⟨cell, hcell, congrArg Prod.fst htold⟩

end

/-! ### The row -/

/-- **How a row is told**: as plain text if all of its runs have no tag, and in its runs if not. -/
theorem encodeRow_cases (cells : List Cell) :
    (∃ text, encodeRow cells = .plain text ∧
        (tagRuns (trimBlank cells)).flatMap Span.chars = text.toList.map (.plain, ·)) ∨
      (encodeRow cells = .styled (tagRuns (trimBlank cells)) ∧
        ∃ run ∈ tagRuns (trimBlank cells), run.tags ≠ .plain) := by
  have hchain := isChain_tagRuns (trimBlank cells)
  rw [encodeRow]
  generalize tagRuns (trimBlank cells) = runs at hchain
  match runs with
  | [] => exact .inl ⟨"", rfl, rfl⟩
  | [only] =>
    by_cases htags : only.tags = .plain
    · refine .inl ⟨only.text, if_pos htags, ?_⟩
      rw [List.flatMap_singleton, Span.chars, htags]
    · exact .inr ⟨if_neg htags, only, List.mem_singleton_self only, htags⟩
  | first :: second :: rest =>
    -- the first two differ, so they are not both without a tag
    have hne := (List.isChain_cons_cons.mp hchain).1
    refine .inr ⟨rfl, ?_⟩
    by_cases htags : first.tags = .plain
    · exact ⟨second, by simp, fun hsecond => hne (htags.trans hsecond.symm)⟩
    · exact ⟨first, by simp, htags⟩

theorem chars_encodeRow (cells : List Cell) :
    (encodeRow cells).chars = (trimBlank cells).map Cell.told := by
  rw [← flatMap_chars_tagRuns]
  obtain ⟨text, hrow, hchars⟩ | ⟨hrow, -⟩ := encodeRow_cases cells
  · rw [hrow, hchars]
    rfl
  · rw [hrow]
    rfl

theorem isPlain_encodeRow (cells : List Cell) :
    (encodeRow cells).isPlain = true ↔ ∀ cell ∈ trimBlank cells, cell.style.tags = .plain := by
  obtain ⟨text, hrow, -⟩ | ⟨hrow, run, hrun, htags⟩ := encodeRow_cases cells
  · refine iff_of_true (by rw [hrow]; rfl) fun cell hcell => ?_
    have hmem : cell.told ∈ (encodeRow cells).chars := by
      rw [chars_encodeRow]
      exact List.mem_map_of_mem hcell
    rw [hrow] at hmem
    obtain ⟨c, -, htold⟩ := List.mem_map.mp hmem
    exact (congrArg Prod.fst htold).symm
  · refine iff_of_false (by rw [hrow]; exact Bool.false_ne_true) fun hcells => htags ?_
    obtain ⟨cell, hcell, hcellTags⟩ := exists_cell_of_mem_tagRuns (trimBlank cells) hrun
    rw [← hcellTags, hcells cell hcell]

/-- **A row is told exactly.** It is cut into what is kept, which does not end with a blank, and
blanks.

* What is told is the tags and the character of every cell that is kept.
* The text is that of the row, with one character for each of these cells.
* No run is empty, and neighbouring runs have different tags.
* It is plain text just if none of these cells has a tag. -/
theorem encodeRow_tells (cells : List Cell) :
    ∃ kept blanks, cells = kept ++ blanks ∧ (∀ cell ∈ blanks, cell.isBlank = true) ∧
      (∀ last ∈ kept.getLast?, last.isBlank = false) ∧
      (encodeRow cells).chars = kept.map (fun cell => (cell.style.tags, cell.shown)) ∧
      ((encodeRow cells).text = rowText cells ∧ (rowText cells).toList = kept.map Cell.shown) ∧
      ((∀ span ∈ (encodeRow cells).spans, span.text ≠ "") ∧
        (encodeRow cells).spans.IsChain (·.tags ≠ ·.tags)) ∧
      ((encodeRow cells).isPlain = true ↔ ∀ cell ∈ kept, cell.style.tags = .plain) := by
  obtain ⟨blanks, hcells, hblanks, hlast⟩ := exists_eq_trimBlank_append cells
  have htext : (rowText cells).toList = (trimBlank cells).map Cell.shown := String.toList_ofList
  refine ⟨trimBlank cells, blanks, hcells, hblanks, hlast, chars_encodeRow cells,
    ⟨String.ext ?_, htext⟩, ?_, isPlain_encodeRow cells⟩
  · rw [htext, ← RowText.map_snd_chars, chars_encodeRow, List.map_map]
    rfl
  · obtain ⟨text, hrow, -⟩ | ⟨hrow, -⟩ := encodeRow_cases cells
    · rw [hrow]
      exact ⟨nofun, .nil⟩
    · rw [hrow]
      exact ⟨text_ne_of_mem_tagRuns _, isChain_tagRuns _⟩

/-- A blank inside the row is told as a space, and two backgrounds are told alike. -/
example :
    encodeRow [.blank, ⟨'a', .normal⟩, ⟨'b', ⟨7, false, 2⟩⟩, ⟨'c', ⟨7, false, 3⟩⟩, .blank] =
      .styled [⟨.plain, " a"⟩, ⟨⟨false, true⟩, "bc"⟩] := by
  decide

end GlassTty
