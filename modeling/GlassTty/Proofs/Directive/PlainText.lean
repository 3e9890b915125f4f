import GlassTty.Directive.PlainText
import GlassTty.Proofs.Text.References

/-!
# What plain text is left of markup

Markup is reduced to plain text in two steps, and each is said here without the loop that does it.

* The tags are dropped. What stands outside of them is a relation between markup and text
  (`GlassTty.PlainText.Outside`); no text is left just if a tag begins outside of the others and
  does not end (`GlassTty.PlainText.EndsInTag`).
* The references to six characters are decoded, all in one pass from left to right
  (`GlassTty.Html.Decodes`), although they are replaced in six passes. The ampersand comes last
  there: it is the only one of the six that a reference has in it.

So a text whose special characters are written by references is read as it was
(`GlassTty.PlainText.strip?_reads_once`).
-/

namespace GlassTty.PlainText

open Html (Decodes Writes namedIn reference)

/-! ### Tags -/

/-- **The text outside of tags.** A tag goes from a `<` to the next `>`. -/
inductive Outside : List Char → List Char → Prop where
  | nil : Outside [] []
  | char {c : Char} {html text : List Char} (h : c ≠ '<') (rest : Outside html text) :
    Outside (c :: html) (c :: text)
  | tag {inside html text : List Char} (h : '>' ∉ inside) (rest : Outside html text) :
    Outside ('<' :: inside ++ '>' :: html) text

/-- **A tag does not end**: there is a `<` outside of the others that no `>` follows. -/
def EndsInTag (html : List Char) : Prop :=
  ∃ before text inside, html = before ++ '<' :: inside ∧ Outside before text ∧ '>' ∉ inside

theorem Outside.append {html html' text text' : List Char} (h : Outside html text)
    (h' : Outside html' text') : Outside (html ++ html') (text ++ text') := by
  induction h with
  | nil => exact h'
  | char hc _ ih => exact .char hc ih
  | tag hinside _ ih => simpa using Outside.tag hinside ih

/-- A text without tags is its own text. -/
theorem outside_of_not_mem {text : List Char} (h : '<' ∉ text) : Outside text text := by
  induction text with
  | nil => exact .nil
  | cons c text ih =>
    obtain ⟨hc, htext⟩ := List.ne_and_not_mem_of_not_mem_cons h
    exact .char hc.symm (ih htext)

theorem EndsInTag.append {before html text : List Char} (hbefore : Outside before text)
    (h : EndsInTag html) : EndsInTag (before ++ html) := by
  obtain ⟨left, text', inside, rfl, hleft, hinside⟩ := h
  exact ⟨before ++ left, text ++ text', inside, by simp, hbefore.append hleft, hinside⟩

/-- **All tags end, or one does not.** -/
theorem outside_or_endsInTag (html : List Char) :
    (∃ text, Outside html text) ∨ EndsInTag html := by
  induction hlength : html.length using Nat.strongRecOn generalizing html with
  | ind n ih =>
    cases html with
    | nil => exact .inl ⟨[], .nil⟩
    | cons c html =>
      by_cases hc : c = '<'
      · subst hc
        by_cases hends : '>' ∈ html
        · obtain ⟨inside, rest, rfl, hinside⟩ := List.eq_append_cons_of_mem hends
          have htag : Outside ('<' :: inside ++ '>' :: []) [] := .tag hinside .nil
          have hshorter : rest.length < n := by
            simp only [List.length_cons, List.length_append] at hlength
            omega
          rcases ih _ hshorter rest rfl with ⟨text, h⟩ | h
          · exact .inl ⟨text, .tag hinside h⟩
          · exact .inr (by simpa using h.append htag)
        · exact .inr ⟨[], [], html, rfl, .nil, hends⟩
      · have hchar : Outside [c] [c] := .char hc .nil
        have hshorter : html.length < n := by
          rw [← hlength]
          exact Nat.lt_succ_self _
        rcases ih _ hshorter html rfl with ⟨text, h⟩ | h
        · exact .inl ⟨c :: text, .char hc h⟩
        · exact .inr (h.append hchar)

/-- A tag is left where it ends. -/
theorem dropTags_inside {inside : List Char} (h : '>' ∉ inside) (rest : List Char) :
    dropTags true (inside ++ rest) = dropTags true rest := by
  induction inside with
  | nil => rfl
  | cons c inside ih =>
    obtain ⟨hc, hinside⟩ := List.ne_and_not_mem_of_not_mem_cons h
    rw [List.cons_append, dropTags, decide_eq_true hc.symm, ih hinside]

theorem Outside.dropTags {html text : List Char} (h : Outside html text) (rest : List Char) :
    dropTags false (html ++ rest) = (dropTags false rest).map (text ++ ·) := by
  induction h with
  | nil => simp
  | char hc _ ih =>
    rw [List.cons_append, PlainText.dropTags, if_neg hc, ih, Option.map_map]
    rfl
  | @tag inside html text hinside _ ih =>
    have hends : PlainText.dropTags true ('>' :: (html ++ rest)) =
        PlainText.dropTags false (html ++ rest) := rfl
    rw [List.append_assoc, List.cons_append, PlainText.dropTags, if_pos rfl,
      dropTags_inside hinside, List.cons_append, hends, ih]

theorem EndsInTag.dropTags {html : List Char} (h : EndsInTag html) : dropTags false html = none := by
  obtain ⟨before, text, inside, rfl, hbefore, hinside⟩ := h
  have hopen : PlainText.dropTags false ('<' :: inside) = PlainText.dropTags true (inside ++ []) := by
    rw [List.append_nil]
    rfl
  rw [hbefore.dropTags, hopen, dropTags_inside hinside]
  rfl

theorem dropTags_eq_some_iff {html text : List Char} :
    dropTags false html = some text ↔ Outside html text := by
  have hsome : ∀ {text}, Outside html text → dropTags false html = some text := fun h => by
    simpa [PlainText.dropTags] using h.dropTags []
  refine ⟨fun h => ?_, hsome⟩
  rcases outside_or_endsInTag html with ⟨text', h'⟩ | h'
  · cases (hsome h').symm.trans h
    exact h'
  · cases h'.dropTags.symm.trans h

theorem dropTags_eq_none_iff {html : List Char} : dropTags false html = none ↔ EndsInTag html := by
  refine ⟨fun h => ?_, EndsInTag.dropTags⟩
  rcases outside_or_endsInTag html with ⟨text, h'⟩ | h'
  · cases (dropTags_eq_some_iff.mpr h').symm.trans h
  · exact h'

/-! ### References -/

/-- The names of the six characters. -/
def known : List (List Char × Char) :=
  [("lt".toList, '<'), ("gt".toList, '>'), ("quot".toList, '"'), ("#39".toList, '\''),
    ("nbsp".toList, ' '), ("amp".toList, '&')]

/-- **Six passes are one.** -/
theorem decodes_decodeEntities (text : List Char) :
    Decodes (namedIn known) text (decodeEntities text) := by
  have hentities : entities = known.map fun entry => (reference entry.1, [entry.2]) := rfl
  have htable : Html.Replaceable ([] ++ known) := by decide
  have h := Html.decodes_foldl_replaceAll known htable (Html.decodes_none text)
  rw [decodeEntities, hentities, List.foldl_map]
  exact h

/-- The five characters that are special in markup, written by references. -/
def entityOf (c : Char) : List Char :=
  match c with
  | '&' => "&amp;".toList
  | '<' => "&lt;".toList
  | '>' => "&gt;".toList
  | '"' => "&quot;".toList
  | '\'' => "&#39;".toList
  | c => [c]

theorem writes_entityOf : Writes (namedIn known) entityOf := by
  have hknown : ∀ entry ∈ known, ';' ∉ entry.1 ∧ namedIn known entry.1 = some entry.2 := by decide
  intro c
  unfold entityOf
  split
  · exact .inr ⟨"amp".toList, rfl, hknown ("amp".toList, '&') (by decide)⟩
  · exact .inr ⟨"lt".toList, rfl, hknown ("lt".toList, '<') (by decide)⟩
  · exact .inr ⟨"gt".toList, rfl, hknown ("gt".toList, '>') (by decide)⟩
  · exact .inr ⟨"quot".toList, rfl, hknown ("quot".toList, '"') (by decide)⟩
  · exact .inr ⟨"#39".toList, rfl, hknown ("#39".toList, '\'') (by decide)⟩
  · next hampersand _ _ _ _ => exact .inl ⟨rfl, hampersand⟩

/-- No tag begins in what has been written by references. -/
theorem not_mem_flatMap_entityOf (text : List Char) : '<' ∉ text.flatMap entityOf := by
  rw [List.mem_flatMap]
  rintro ⟨c, -, hc⟩
  revert hc
  unfold entityOf
  split
  · decide
  · decide
  · decide
  · decide
  · decide
  · next _ hless _ _ _ => exact fun hmem => hless (List.mem_singleton.mp hmem).symm

/-! ### Both steps -/

theorem strip?_eq_some_iff {html text : List Char} :
    strip? html = some text ↔ ∃ kept, Outside html kept ∧ Decodes (namedIn known) kept text := by
  rw [strip?, Option.map_eq_some_iff]
  refine exists_congr fun kept => and_congr dropTags_eq_some_iff ⟨?_, fun h => ?_⟩
  · rintro rfl
    exact decodes_decodeEntities kept
  · exact (decodes_decodeEntities kept).unique h

/-- **Plain text is read in one pass.** There is none just if a tag does not end; otherwise it is
what stands outside of the tags, the six references decoded from left to right, and so a text whose
special characters are written by references is read as it was. -/
theorem strip?_reads_once :
    (∀ html, strip? html = none ↔ EndsInTag html) ∧
      (∀ html text, strip? html = some text ↔
        ∃ kept, Outside html kept ∧ Decodes (namedIn known) kept text) ∧
      ∀ text : List Char, strip? (text.flatMap entityOf) = some text := by
  refine ⟨fun html => ?_, fun html text => strip?_eq_some_iff, fun text => ?_⟩
  · rw [strip?, Option.map_eq_none_iff]
    exact dropTags_eq_none_iff
  · have hdecodes := Decodes.nil.flatMap writes_entityOf text
    rw [List.append_nil, List.append_nil] at hdecodes
    exact strip?_eq_some_iff.mpr
      ⟨_, outside_of_not_mem (not_mem_flatMap_entityOf text), hdecodes⟩

/-- An ampersand that is decoded does not begin another reference. -/
example : strip? "<b>&amp;lt;</b>&amp;amp;".toList = some "&lt;&amp;".toList := by decide

end GlassTty.PlainText
