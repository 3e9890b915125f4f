import GlassTty.Proofs.Paste.Arguments

/-!
# Where a destination is cut

A destination is put behind the paste as it is: its spaces are not escaped, as those of the source
are. What stands before it ends with a space that is not quoted
(`GlassTty.Paste.Laid.exists_body`), so it begins a piece of its own; whether it is the whole of the
last piece depends on its spaces alone (`GlassTty.Paste.compose_destination_last`).

| the destination | the last piece |
|---|---|
| no space in it | the destination |
| a space in it | not the destination |

Before the destination a space may be escaped, and may even be the last character of the command or
of the word. The space that separates comes behind it in all cases, and where the word is put into
the command it comes behind the command.
-/

namespace GlassTty.Paste

open Words

section Destination

/-- A plain text behind a space is no piece if there is a space in it: a run of blanks would have
begun before. -/
theorem not_isPiece_of_space {body word right : List Char} (hbody : Closed body)
    (hplain : ∀ ch ∈ word, IsPlain ch) (hspace : ' ' ∈ word) :
    ¬IsPiece (body ++ [' ']) word right := by
  intro h
  obtain ⟨before, behind, rfl⟩ := List.append_of_mem hspace
  have hbefore : Closed before := closed_of_literal fun ch hch =>
    (hplain ch (List.mem_append_left _ hch)).literal
  have hclosed := (hbody.append (Atom.char (by decide : ' ' ∉ _)).closed).append hbefore
  exact (isRun_of_space h rfl hclosed).begins body ' ' rfl hbody (by decide)

/-- **A space that is not escaped cuts a word.** What is the last piece then is not the word. -/
theorem unescape_last_ne {body word last : List Char} {parts : List (List Char)}
    (hbody : Closed body) (hplain : ∀ ch ∈ word, IsPlain ch) (hspace : ' ' ∈ word)
    (h : split? (body ++ [' '] ++ word) = some (parts ++ [last])) :
    unescapeSpaces last ≠ word := by
  obtain ⟨-, hpieces⟩ := split?_cuts_line (body ++ [' '] ++ word)
  obtain ⟨-, hflatten, hpiece⟩ := hpieces _ h
  specialize hpiece parts last [] rfl
  rw [List.flatten_append, List.flatten_singleton] at hflatten
  have hother : parts.flatten ≠ body ++ [' '] := by
    intro hbefore
    rw [hbefore] at hpiece hflatten
    obtain rfl := List.append_cancel_left hflatten
    exact not_isPiece_of_space hbody hplain hspace hpiece
  have hsame : '\\' ∉ last → unescapeSpaces last = word → parts.flatten = body ++ [' '] := by
    intro hbackslash hword
    rw [unescapeSpaces_of_not_mem hbackslash] at hword
    rw [hword] at hflatten
    exact List.append_cancel_right hflatten
  rcases List.append_eq_append_iff.mp hflatten with ⟨more, hmore, hlast⟩ | ⟨more, -, hword⟩
  · rcases List.eq_nil_or_concat more with rfl | ⟨before, d, rfl⟩
    · exact absurd (by rw [hmore, List.append_nil]) hother
    · -- the piece reaches into what is before the word, and is a run of blanks
      rw [List.concat_eq_append, ← List.append_assoc] at hmore
      obtain ⟨rfl, hd⟩ := List.append_inj' hmore rfl
      cases hd
      rw [List.concat_eq_append, List.append_assoc, List.singleton_append] at hlast
      have hall := (isRun_of_space hpiece hlast hbody).holds
      refine fun hword => hother (hsame (fun hmem => ?_) hword)
      obtain ⟨left, right, hsplit⟩ := List.append_of_mem hmem
      exact absurd (hall left '\\' right hsplit).1 (by decide)
  · -- the piece is in the word
    refine fun hlast => hother (hsame (fun hmem => ?_) hlast)
    exact (hplain _ (hword ▸ List.mem_append_right more hmem)).literal List.mem_cons_self

/-- **What is the last piece behind a space**: a word without a space itself, and never the whole of
a word that has one. -/
theorem exists_last_piece {body word : List Char} (hbody : Closed body) (hne : word ≠ [])
    (hplain : ∀ ch ∈ word, IsPlain ch ∧ ch ≠ '&') :
    ∃ parts last, split? (body ++ [' '] ++ word) = some (parts ++ [last]) ∧
      (' ' ∉ word → last = word) ∧ (unescapeSpaces last = word ↔ ' ' ∉ word) := by
  have hliteral : ∀ ch ∈ word, IsLiteral ch := fun ch hch => (hplain ch hch).1.literal
  have hclosed : Closed word := closed_of_literal hliteral
  by_cases hspace : ' ' ∈ word
  · cases hsplit : split? (body ++ [' '] ++ word) with
    | none =>
      have hline : Closed (body ++ [' '] ++ word) :=
        (hbody.append (Atom.char (by decide)).closed).append hclosed
      exact absurd hline.read (split?_eq_none_iff.mp hsplit).read_ne
    | some pieces =>
      rcases List.eq_nil_or_concat pieces with rfl | ⟨parts, last, rfl⟩
      · have hflatten := flatten_of_split? hsplit
        simp at hflatten
      · rw [List.concat_eq_append] at hsplit ⊢
        have hlast := unescape_last_ne hbody (fun ch hch => (hplain ch hch).1) hspace hsplit
        exact ⟨parts, last, rfl, fun hno => absurd hspace hno,
          iff_of_false hlast (not_not.mpr hspace)⟩
  · have hword : Uniform .word word := uniform_of_forall fun ch hch =>
      (hplain ch hch).1.kindOf fun hsame => hspace (hsame ▸ hch)
    have hlast : word.getLast? ≠ some '&' := fun hlast =>
      (hplain _ (List.mem_of_getLast? hlast)).2 rfl
    obtain ⟨parts, hsplit⟩ := split?_append_word hbody hne hword hclosed hlast
    exact ⟨parts, word, hsplit, fun _ => rfl,
      iff_of_true (unescapeSpaces_of_not_mem (backslash_not_mem hliteral)) hspace⟩

/-! #### What is before the destination -/

theorem closed_replaceAll {old new text : List Char} (hnew : Closed new)
    (htext : ∀ ch ∈ text, IsLiteral ch) : Closed (Text.replaceAll old new text) := by
  obtain ⟨pieces, hpieces, hmade⟩ := Text.exists_pieces_of_replaceAll old new text
  rw [hpieces]
  refine closed_flatten fun piece hpiece => ?_
  rcases hmade piece hpiece with rfl | ⟨ch, hch, rfl⟩
  · exact hnew
  · exact (Atom.char (htext ch hch)).closed

theorem closed_withSpace {command : List Char} (h : Closed command) :
    Closed (withSpace command) := by
  unfold withSpace
  split
  · exact h
  · exact h.append (Atom.char (by decide)).closed

/-- A command has a space behind it. -/
theorem exists_withSpace_eq {command : List Char} (hne : withSpace command ≠ []) :
    ∃ before, withSpace command = before ++ [' '] := by
  unfold withSpace at hne ⊢
  split
  · next h =>
    rw [if_pos h] at hne
    rcases h with hempty | hlast
    · exact absurd (List.isEmpty_iff.mp hempty) hne
    · exact List.getLast?_eq_some_iff.mp hlast
  · exact ⟨command, rfl⟩

section Laid

variable {command word file : List Char} {p : Parts} (hcommand : ∀ ch ∈ command, IsLiteral ch)
  (hword : ∀ ch ∈ word, IsLiteral ch) (hfile : ∀ ch ∈ file, IsLiteral ch)

include hcommand hword hfile

theorem Laid.closed (h : Laid command word file p) :
    Closed p.command ∧ Closed p.space ∧ ∀ ch ∈ p.text, IsLiteral ch := by
  cases h with
  | alone => exact ⟨.nil, .nil, hword⟩
  | withCommand hshown =>
    exact ⟨closed_withSpace (closed_of_literal hcommand), .nil,
      forall_mem_shown hword hfile hshown⟩
  | asCommand => exact ⟨closed_withSpace (closed_escapeSpaces hword), .nil, nofun⟩
  | behind hspace hshown =>
    refine ⟨.nil, ?_, forall_mem_shown hword hfile hshown⟩
    rcases hspace with rfl | rfl
    · exact .nil
    · exact (Atom.char (by decide)).closed

/-- **What stands before a destination** ends with a space, and all quoting has ended before it. -/
theorem Laid.exists_body (h : Laid command word file p) :
    ∃ body, assemble p = body ++ [' '] ∧ Closed body := by
  obtain ⟨hclosed, hspace, htext⟩ := h.closed hcommand hword hfile
  have hescaped := closed_escapeSpaces htext
  rcases assemble_cases p with ⟨hargument, hne, hassemble⟩ | hassemble
  · cases h with
    | alone => cases hargument
    | asCommand => cases hargument
    | behind => exact absurd rfl hne
    | @withCommand shown =>
      -- the space is behind the command, where no placeholder reaches
      obtain ⟨before, hbefore⟩ := exists_withSpace_eq hne
      have hliteral : ∀ ch ∈ before ++ [' '], IsLiteral ch :=
        hbefore ▸ forall_mem_withSpace (by decide) hcommand
      refine ⟨Text.replaceAll placeholder (escapeSpaces shown) before, ?_,
        closed_replaceAll hescaped (List.forall_mem_append.mp hliteral).1⟩
      rw [hassemble, hbefore, Text.replaceAll_append_singleton (by decide) (by decide)]
  · exact ⟨_, hassemble, (hclosed.append hspace).append hescaped⟩

end Laid

variable {files : FileSystem} {c : CommandLine} {text fileUrl paste : List Char}
  {options : PasteOptions}

theorem nameOf_ne_nil {url : List Char} (h : url ≠ []) : nameOf c fileUrl options url ≠ [] := by
  unfold nameOf
  split
  · exact h
  · exact FileUrl.relative_ne_nil h

/-- **A destination is the last word, if there is no space in it.** -/
theorem compose_destination_last (h : compose files c text fileUrl options = .ok (some paste))
    (hline : paste.getLast? ≠ some '\n') (htext : ∀ ch ∈ text, IsLiteral ch)
    (hcommand : ∀ ch ∈ options.command.toList, IsLiteral ch)
    (hurl : ∀ ch ∈ fileUrl, IsLiteral ch) (hdest : options.destUrl ≠ "")
    (hplain : ∀ ch ∈ options.destUrl.toList, IsPlain ch ∧ ch ≠ '&') :
    let destination := nameOf c fileUrl options options.destUrl.toList
    ∃ parts last, split? paste = some (parts ++ [last]) ∧ (' ' ∉ destination → last = destination) ∧
      (unescapeSpaces last = destination ↔ ' ' ∉ destination) := by
  intro destination
  obtain ⟨p, hlaid, rfl⟩ := exists_laid h
  have hliteral : ∀ ch ∈ commandOf c fileUrl options, IsLiteral ch :=
    forall_mem_commandOf (List.all_iff_forall_prop.mp (by decide)) hcommand
  have hword : ∀ ch ∈ wordOf c text fileUrl options, IsLiteral ch :=
    forall_mem_wordOf (by decide) htext hurl
  have hfile : ∀ ch ∈ nameOf c fileUrl options fileUrl, IsLiteral ch :=
    forall_mem_nameOf (by decide) (by decide) hurl
  obtain ⟨body, hbody, hclosed⟩ := hlaid.exists_body hliteral hword hfile
  have hurlne : options.destUrl.toList ≠ [] := mt String.toList_eq_nil_iff.mp hdest
  have hpaste : finish c fileUrl options (assemble p) = body ++ [' '] ++ destination := by
    have hsubmits : ¬Submits c options := by
      intro hsubmits
      rw [finish, if_pos hsubmits] at hline
      exact hline (List.getLast?_concat ..)
    rw [finish, if_neg hsubmits, List.append_nil, withDestination, if_neg (by simpa using hdest),
      addDestination, hbody, if_pos (.inr (List.getLast?_concat ..))]
  rw [hpaste]
  exact exists_last_piece hclosed (nameOf_ne_nil hurlne)
    (forall_mem_nameOf (by decide) (by decide) hplain)

/-- A file is moved into a directory without a space in its name. -/
theorem compose_destination_last_docs :
    let c : CommandLine :=
      { line := "$ mv".toList, cursorCol := some 4, promptOffset := 2, cwd := "/home/u".toList
        normalizeByDefault := true, localHost := "box".toList, search := {} }
    let fileUrl := "file:///home/u/a b.txt".toList
    let options : PasteOptions := { destUrl := "file:///home/u/docs" }
    let pasted := " a\\ b.txt docs".toList
    compose default c [] fileUrl options = .ok (some pasted) ∧ pasted.getLast? ≠ some '\n' ∧
      (∀ ch ∈ fileUrl, IsLiteral ch) ∧
      (∀ ch ∈ options.destUrl.toList, IsPlain ch ∧ ch ≠ '&') ∧
      nameOf c fileUrl options options.destUrl.toList = "docs".toList ∧
      ∃ parts, split? pasted = some (parts ++ ["docs".toList]) := by
  intro c fileUrl options pasted
  have hpasted : compose default c [] fileUrl options = .ok (some pasted) := by decide +kernel
  have hline : pasted.getLast? ≠ some '\n' := by decide
  have hurl : ∀ ch ∈ fileUrl, IsLiteral ch := List.all_iff_forall_prop.mp (by decide)
  have hplain : ∀ ch ∈ options.destUrl.toList, IsPlain ch ∧ ch ≠ '&' :=
    List.all_iff_forall_prop.mp (by decide)
  have hname : nameOf c fileUrl options options.destUrl.toList = "docs".toList := by decide
  obtain ⟨parts, last, hsplit, hlast, -⟩ :=
    compose_destination_last hpasted hline nofun nofun hurl (by decide) hplain
  rw [hname] at hlast
  exact ⟨hpasted, hline, hurl, hplain, hname, parts, hlast (by decide) ▸ hsplit⟩

/-- A space in the name of the directory makes two arguments of it, and the file is moved into
another one. -/
theorem destination_cut_at_space :
    let c : CommandLine :=
      { line := "$ mv".toList, cursorCol := some 4, promptOffset := 2, cwd := "/home/u".toList
        normalizeByDefault := true, localHost := "box".toList, search := {} }
    let fileUrl := "file:///home/u/a b.txt".toList
    let options : PasteOptions := { destUrl := "file:///home/u/my docs" }
    let pasted := " a\\ b.txt my docs".toList
    compose default c [] fileUrl options = .ok (some pasted) ∧ pasted.getLast? ≠ some '\n' ∧
      (∀ ch ∈ fileUrl, IsLiteral ch) ∧
      (∀ ch ∈ options.destUrl.toList, IsPlain ch ∧ ch ≠ '&') ∧
      nameOf c fileUrl options options.destUrl.toList = "my docs".toList ∧
      split? pasted =
        some ([" ", "a\\ b.txt", " ", "my", " ", "docs"].map String.toList) ∧
      unescapeSpaces "docs".toList ≠ "my docs".toList := by
  refine ⟨by decide +kernel, by decide, ?_, ?_, by decide, by decide +kernel, by decide⟩
  · exact List.all_iff_forall_prop.mp (by decide)
  · exact List.all_iff_forall_prop.mp (by decide)

end Destination

end GlassTty.Paste
