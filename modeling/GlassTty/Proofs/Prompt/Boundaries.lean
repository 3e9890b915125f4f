import GlassTty.Proofs.Prompt.Cutting

/-!
# Where a command line is cut

Between two pieces of a command line no quoting is open: the text up to there is closed. The cuts
that the machine makes while it reads are of this kind, as a piece begins outside of quotes only.
The last cut is another matter. It is made when everything has been read, before an ampersand at the
end of the line, and it looks at that one character and not at what stands before it.

* Between quotes an ampersand cannot be the last character of a line that has pieces, as the section
  has not ended there.
* Behind a backslash it can (`GlassTty.Words.EndsEscaped`), and then the backslash and the ampersand
  are cut apart.

So all cuts but this one are outside of quotes (`GlassTty.Words.split?_cuts_outside_quotes`).
-/

namespace GlassTty.Words

/-- **The line ends with an escaped ampersand**: the backslash before it is not quoted itself. -/
def EndsEscaped (line : List Char) : Prop :=
  ∃ before, Closed before ∧ line = before ++ ['\\', '&']

/-! ### What stands before an ampersand -/

/-- An ampersand that ends a closed text stands outside of quotes, or a backslash takes it along. -/
theorem closed_or_escaped {text : List Char} (h : Closed (text ++ ['&'])) :
    Closed text ∨ EndsEscaped (text ++ ['&']) := by
  have hread : (Quoting.bare.read text).next '&' = .bare := by
    have hbare := h.read
    rwa [read_append] at hbare
  rcases closed_or_unfinished text with hclosed | hunfinished
  · exact .inl hclosed
  -- inside a section the ampersand does not end it
  have hsingle : Quoting.bare.next '\'' = .single := by decide
  have hdouble : Quoting.bare.next '"' = .double := by decide
  have hescape : Quoting.double.next '\\' = .doubleEscaped := by decide
  cases hunfinished with
  | @escape before hbefore => exact .inr ⟨before, hbefore, by simp⟩
  | single hbefore hbody =>
    rw [read_append, hbefore.read, read_cons, hsingle, read_single hbody] at hread
    exact absurd hread (by decide)
  | double hbefore hbody =>
    rw [read_append, hbefore.read, read_cons, hdouble, read_double hbody] at hread
    exact absurd hread (by decide)
  | doubleEscape hbefore hbody =>
    rw [read_append, hbefore.read, read_cons, hdouble, read_append, read_double hbody, read_cons,
      hescape] at hread
    exact absurd hread (by decide)

/-- Before an escaped ampersand the text is unfinished. -/
theorem EndsEscaped.unfinished {text : List Char} (h : EndsEscaped (text ++ ['&'])) :
    Unfinished text := by
  obtain ⟨before, hbefore, heq⟩ := h
  have hsplit : text ++ ['&'] = (before ++ ['\\']) ++ ['&'] := by simpa using heq
  rw [(List.append_inj' hsplit rfl).1]
  exact .escape hbefore

theorem Unfinished.not_closed {text : List Char} (h : Unfinished text) : ¬Closed text :=
  fun hclosed => h.read_ne hclosed.read

/-! ### The ampersand stands alone -/

theorem cutAmpersand_append {word : List Char} (h : word ≠ []) :
    cutAmpersand (word ++ ['&']) = [word, ['&']] := by
  have hlength : 0 < word.length := List.length_pos_iff.mpr h
  rw [cutAmpersand, if_pos ⟨by simpa using hlength, by simp⟩, List.dropLast_concat]

/-- **An ampersand at the end of a line** is a piece of its own. -/
theorem last_eq_ampersand {text : List Char} {parts : List (List Char)}
    (h : split? (text ++ ['&']) = some parts) : ∃ before, parts = before ++ [['&']] := by
  obtain ⟨kind, whole, hpieces, hflatten, hwhole⟩ :=
    pieces_eq (List.append_ne_nil_of_right_ne_nil text (List.cons_ne_nil '&' []))
  have hparts : mapLast cutAmpersand whole = parts := by
    simp only [split?, hpieces] at h
    split at h
    · exact Option.some.inj h
    · cases h
  rcases List.eq_nil_or_concat whole with rfl | ⟨before, last, rfl⟩
  · cases hwhole
  rw [List.concat_eq_append] at hwhole hflatten hparts
  rw [mapLast_append_singleton] at hparts
  obtain ⟨_, hlast⟩ := hwhole.stands .nil (by simp) rfl
  obtain ⟨word, c, rfl⟩ := (List.eq_nil_or_concat' last).resolve_left hlast.ne
  obtain rfl : c = '&' := by
    have hsplit : (before.flatten ++ word) ++ [c] = text ++ ['&'] := by simpa using hflatten
    exact List.head_eq_of_cons_eq (List.append_inj' hsplit rfl).2
  by_cases hword : word = []
  · subst hword
    exact ⟨before, hparts.symm⟩
  · rw [cutAmpersand_append hword] at hparts
    exact ⟨before ++ [word], by rw [← hparts, List.append_assoc]; rfl⟩

/-! ### The cuts -/

theorem closed_of_split? {line : List Char} {parts : List (List Char)}
    (h : split? line = some parts) : Closed line := by
  rcases closed_or_unfinished line with hclosed | hunfinished
  · exact hclosed
  · cases (split?_eq_none_iff.mpr hunfinished).symm.trans h

/-- **A cut is outside of quotes**, unless it is the one before an escaped ampersand. -/
theorem closed_of_cut {line : List Char} {before behind : List (List Char)}
    (h : split? line = some (before ++ behind)) :
    Closed before.flatten ∨ EndsEscaped line ∧ behind = [['&']] := by
  have hline : (before ++ behind).flatten = line := flatten_of_split? h
  cases behind with
  | nil =>
    rw [List.append_nil] at hline
    exact .inl (hline ▸ closed_of_split? h)
  | cons piece behind =>
    rcases stands_of_split? h with ⟨kind, hpiece⟩ | ⟨-, -, kind, hpiece⟩ | ⟨rfl, rfl⟩
    · exact .inl hpiece.closed
    · exact .inl hpiece.closed
    · have happend : before.flatten ++ ['&'] = line := by simpa using hline
      subst happend
      exact (closed_or_escaped (closed_of_split? h)).imp_right fun hescaped => ⟨hescaped, rfl⟩

theorem exists_cut_of_endsEscaped {line : List Char} {parts : List (List Char)}
    (h : split? line = some parts) (hescaped : EndsEscaped line) :
    ∃ before, parts = before ++ [['&']] := by
  obtain ⟨text, -, rfl⟩ := hescaped
  have hline : text ++ ['\\', '&'] = (text ++ ['\\']) ++ ['&'] := by simp
  rw [hline] at h
  exact last_eq_ampersand h

/-- The cut before an escaped ampersand is behind its backslash. -/
theorem not_closed_of_cut {line : List Char} {before : List (List Char)}
    (h : split? line = some (before ++ [['&']])) (hescaped : EndsEscaped line) :
    ¬Closed before.flatten := by
  have hline : before.flatten ++ ['&'] = line := by simpa using flatten_of_split? h
  subst hline
  exact hescaped.unfinished.not_closed

/-- **A command line is cut outside of quotes.** Between two pieces no section between quotes is
open, and a backslash is on the same side as the character behind it, with one exception: an
ampersand that a backslash takes along at the end of the line is cut off all the same. So all
quoting that begins in a piece also ends in it, just if the line does not end like that. -/
theorem split?_cuts_outside_quotes {line : List Char} {parts : List (List Char)}
    (h : split? line = some parts) :
    (∀ before behind, parts = before ++ behind →
      (Closed before.flatten ↔ ¬(EndsEscaped line ∧ behind = [['&']]))) ∧
    ((∀ piece ∈ parts, Closed piece) ↔ ¬EndsEscaped line) := by
  refine ⟨?_, fun hpieces hescaped => ?_, fun hplain piece hmem => ?_⟩
  · rintro before behind rfl
    refine ⟨?_, fun hplain => (closed_of_cut h).resolve_right hplain⟩
    rintro hclosed ⟨hescaped, rfl⟩
    exact not_closed_of_cut h hescaped hclosed
  · obtain ⟨before, rfl⟩ := exists_cut_of_endsEscaped h hescaped
    exact not_closed_of_cut h hescaped
      (closed_flatten fun piece hmem => hpieces piece (List.mem_append_left _ hmem))
  · obtain ⟨before, behind, rfl⟩ := List.append_of_mem hmem
    have hbefore : Closed before.flatten :=
      (closed_of_cut h).resolve_right fun hescaped => hplain hescaped.1
    have hthrough : Closed (before ++ [piece]).flatten := by
      have hsplit : split? line = some ((before ++ [piece]) ++ behind) := by simpa using h
      exact (closed_of_cut hsplit).resolve_right fun hescaped => hplain hescaped.1
    rw [List.flatten_append, List.flatten_singleton] at hthrough
    exact hbefore.of_append hthrough

/-- A delimiter between quotes, a blank behind a backslash, and in the end an ampersand behind a
backslash that is escaped itself, so that the ampersand is not: nothing quoted is cut. -/
theorem split?_cuts_outside_quotes_ampersand :
    let line := "'x;y' a\\ b\\\\&".toList
    let parts := ["'x;y'", " ", "a\\ b\\\\", "&"].map String.toList
    split? line = some parts ∧ Closed (parts.take 3).flatten ∧ ∀ piece ∈ parts, Closed piece := by
  intro line parts
  have hsplit : split? line = some parts := by decide
  have hplain : ¬EndsEscaped line := by
    rintro ⟨before, hbefore, heq⟩
    have hline : line = "'x;y' a\\ b\\".toList ++ ['\\', '&'] := rfl
    obtain ⟨rfl, -⟩ := List.append_inj' (heq.symm.trans hline) rfl
    exact absurd hbefore.read (by decide)
  obtain ⟨hcuts, hpieces⟩ := split?_cuts_outside_quotes hsplit
  exact ⟨hsplit, (hcuts (parts.take 3) (parts.drop 3) rfl).mpr fun h => hplain h.1,
    hpieces.mpr hplain⟩

/-- **An escaped ampersand is cut off**: the backslash is in one piece and the ampersand that it
takes along in the next one, and the text up to there is unfinished. -/
theorem escaped_ampersand_cut :
    let line := "echo \\&".toList
    let parts := ["echo", " ", "\\", "&"].map String.toList
    split? line = some parts ∧ Unfinished (parts.take 3).flatten ∧ Unfinished "\\".toList := by
  intro line parts
  refine ⟨by decide, ?_, .escape .nil⟩
  rw [← read_ne_bare_iff]
  decide

end GlassTty.Words
