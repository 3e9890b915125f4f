import GlassTty.Proofs.Prompt.Words

/-!
# A command line is cut in one way

Pieces that follow each other are what their line is cut into
(`GlassTty.Words.Pieces.split?_flatten`), whatever they were put together from. So the pieces of a
line that is written piece by piece need not be looked for: it is enough that each is of one kind,
that its quoting ends in it, and that the next one is of another kind. In this way a word that is
put behind a space becomes the last piece (`GlassTty.Words.split?_append_word`), and one that is put
before a space a piece as well (`GlassTty.Words.split?_word_space`).
-/

namespace GlassTty.Words

/-! ### One way to cut -/

/-- A text that goes on with the piece in progress becomes part of it. -/
theorem splitFrom_append {quoting last : Quoting} {kind : Kind} {text rest piece : List Char}
    {pieces : List (List Char)}
    (h : ∀ left c right, text = left ++ c :: right → quoting.read left = .bare → kindOf c = kind)
    (hrest : splitFrom (quoting.read text) kind rest = (piece :: pieces, last)) :
    splitFrom quoting kind (text ++ rest) = ((text ++ piece) :: pieces, last) := by
  induction text generalizing quoting with
  | nil => exact hrest
  | cons c text ih =>
    refine splitFrom_of_same (h [] c text rfl) (ih (fun left d right heq hread => ?_) hrest)
    exact h (c :: left) d right (by rw [heq, List.cons_append]) hread

/-- Where the kind changes, the piece in progress is complete. -/
theorem splitFrom_of_change {last : Quoting} {kind : Kind} {c : Char} {text : List Char}
    {parts : List (List Char)} (hkind : kindOf c ≠ kind)
    (h : splitFrom .bare (kindOf c) (c :: text) = (parts, last)) :
    splitFrom .bare kind (c :: text) = ([] :: parts, last) := by
  obtain ⟨piece, rest, hsplit, -⟩ :=
    pieces_splitFrom text (List.cons_ne_nil c []) (uniform_singleton c)
  have hsame : splitFrom .bare (kindOf c) (c :: text) =
      ((c :: piece) :: rest, Quoting.bare.read (c :: text)) :=
    splitFrom_of_same (fun _ => rfl) hsplit
  obtain ⟨rfl, rfl⟩ := Prod.mk.inj (hsame.symm.trans h)
  exact splitFrom_of_fresh hkind hsplit

theorem Uniform.kindOf_of_read {kind : Kind} {piece left right : List Char} {c : Char}
    (h : Uniform kind piece) (heq : piece = left ++ c :: right)
    (hread : Quoting.bare.read left = .bare) : kindOf c = kind :=
  h left c right heq (read_eq_bare_iff.mp hread)

theorem Pieces.flatten_eq_cons {kind : Kind} {parts : List (List Char)} (h : Pieces kind parts) :
    ∃ c text, parts.flatten = c :: text ∧ kindOf c = kind := by
  have hne : parts.flatten ≠ [] := by
    cases h <;> simp_all
  obtain ⟨c, text, heq⟩ := List.exists_cons_of_ne_nil hne
  exact ⟨c, text, heq, h.kindOf_head heq⟩

/-- **Pieces that follow each other are what their line is cut into.** -/
theorem Pieces.splitFrom_flatten {kind : Kind} {parts : List (List Char)} (h : Pieces kind parts)
    (hclosed : Closed parts.flatten) : splitFrom .bare kind parts.flatten = (parts, .bare) := by
  induction h with
  | @last kind piece ne uniform =>
    rw [List.flatten_singleton] at hclosed ⊢
    have hend : splitFrom (Quoting.bare.read piece) kind [] = ([[]], Quoting.bare.read piece) := rfl
    have hsplit := splitFrom_append (fun _ _ _ => uniform.kindOf_of_read) hend
    rwa [hclosed.read, List.append_nil] at hsplit
  | @more kind other piece rest ne uniform closed changes h ih =>
    rw [List.flatten_cons] at hclosed ⊢
    obtain ⟨c, text, hrest, rfl⟩ := h.flatten_eq_cons
    have hbehind := ih (closed.of_append hclosed)
    rw [hrest] at hbehind ⊢
    -- the next piece begins with a character of another kind, all quoting having ended
    have hchange : splitFrom (Quoting.bare.read piece) kind (c :: text) = ([] :: rest, .bare) := by
      rw [closed.read]
      exact splitFrom_of_change changes hbehind
    rw [splitFrom_append (fun _ _ _ => uniform.kindOf_of_read) hchange, List.append_nil]

/-- The pieces of a line, but for the ampersand in the end. -/
theorem Pieces.split?_flatten {kind : Kind} {parts : List (List Char)} (h : Pieces kind parts)
    (hclosed : Closed parts.flatten) :
    split? parts.flatten = some (mapLast cutAmpersand parts) := by
  have hpieces : pieces parts.flatten = (parts, .bare) := by
    have hsplit := h.splitFrom_flatten hclosed
    obtain ⟨c, text, heq, rfl⟩ := h.flatten_eq_cons
    rw [heq] at hsplit ⊢
    exact hsplit
  rw [split?, hpieces]
  rfl

/-- **A piece behind others**, of another kind than the character before it. -/
theorem Pieces.append_singleton {kind other : Kind} {parts : List (List Char)}
    (h : Pieces kind parts) {body : List Char} {d : Char} (hline : parts.flatten = body ++ [d])
    (hbody : Closed body) (hclosed : Closed (body ++ [d])) {piece : List Char} (hne : piece ≠ [])
    (huniform : Uniform other piece) (hchanges : other ≠ kindOf d) :
    Pieces kind (parts ++ [piece]) := by
  induction h generalizing body with
  | @last kind whole ne uniform =>
    rw [List.flatten_singleton] at hline
    have hkind : kindOf d = kind := uniform body d [] hline hbody
    exact .more ne uniform (hline ▸ hclosed) (hkind ▸ hchanges) (.last hne huniform)
  | @more kind next first rest ne uniform closed changes h ih =>
    obtain ⟨c, text, hrest, -⟩ := h.flatten_eq_cons
    have hsplit : ∃ behind, rest.flatten = behind ++ [d] ∧ body = first ++ behind := by
      rw [List.flatten_cons] at hline
      rcases List.eq_nil_or_concat rest.flatten with hnil | ⟨behind, e, hbehind⟩
      · rw [hrest] at hnil
        cases hnil
      · rw [hbehind, List.concat_eq_append, ← List.append_assoc] at hline
        obtain ⟨rfl, hlast⟩ := List.append_inj' hline rfl
        rw [hbehind, List.concat_eq_append, hlast]
        exact ⟨behind, rfl, rfl⟩
    obtain ⟨behind, hbehind, rfl⟩ := hsplit
    rw [List.append_assoc] at hclosed
    exact .more ne uniform closed changes
      (ih hbehind (closed.of_append hbody) (closed.of_append hclosed))

/-! ### Texts of one kind -/

theorem Uniform.append {kind : Kind} {left right : List Char} (hleft : Uniform kind left)
    (hclosed : Closed left) (hright : Uniform kind right) : Uniform kind (left ++ right) := by
  intro before c behind heq hbefore
  rcases List.append_eq_append_iff.mp heq with ⟨more, rfl, hmore⟩ | ⟨more, rfl, hmore⟩
  · exact hright more c behind hmore (hclosed.of_append hbefore)
  · cases more with
    | nil => exact hright [] c behind hmore.symm .nil
    | cons d more =>
      obtain ⟨rfl, rfl⟩ := List.cons.inj hmore
      exact hleft before c more rfl hbefore

theorem uniform_of_forall {kind : Kind} {text : List Char} (h : ∀ c ∈ text, kindOf c = kind) :
    Uniform kind text := by
  rintro left c right rfl -
  exact h c (List.mem_append_right left List.mem_cons_self)

/-- A space and the backslash before it belong to a word. -/
theorem uniform_escaped_space : Uniform .word ['\\', ' '] := by
  have hbackslash : Uniform .word ['\\'] := uniform_singleton '\\'
  refine uniform_append_singleton hbackslash fun hclosed => ?_
  have hread := hclosed.read
  revert hread
  decide

theorem closed_flatten {pieces : List (List Char)} (h : ∀ piece ∈ pieces, Closed piece) :
    Closed pieces.flatten := by
  induction pieces with
  | nil => exact .nil
  | cons piece pieces ih =>
    obtain ⟨hpiece, hpieces⟩ := List.forall_mem_cons.mp h
    exact hpiece.append (ih hpieces)

/-! ### Words and spaces -/

theorem cutAmpersand_of_ne {piece : List Char} (h : piece.getLast? ≠ some '&') :
    cutAmpersand piece = [piece] :=
  if_neg fun hcut => h hcut.2

/-- **A word behind a space is the last piece.** -/
theorem split?_append_word {body word : List Char} (hbody : Closed body) (hne : word ≠ [])
    (hword : Uniform .word word) (hclosed : Closed word) (hlast : word.getLast? ≠ some '&') :
    ∃ parts, split? (body ++ [' '] ++ word) = some (parts ++ [word]) := by
  have hspace : Closed (body ++ [' ']) := hbody.append (Atom.char (by decide)).closed
  obtain ⟨kind, parts, -, hline, hpieces⟩ :=
    pieces_eq (List.append_ne_nil_of_right_ne_nil body (List.cons_ne_nil ' ' []))
  have hmore := hpieces.append_singleton hline hbody hspace hne hword (by decide)
  have hflatten : (parts ++ [word]).flatten = body ++ [' '] ++ word := by
    rw [List.flatten_append, hline, List.flatten_singleton]
  have hsplit := hmore.split?_flatten (hflatten ▸ hspace.append hclosed)
  rw [hflatten, mapLast_append_singleton, cutAmpersand_of_ne hlast] at hsplit
  exact ⟨parts, hsplit⟩

/-- **A word before a space is a piece**, and a space before it another one. -/
theorem split?_word_space {space word : List Char} (hspace : space = [] ∨ space = [' '])
    (hne : word ≠ []) (hword : Uniform .word word) (hclosed : Closed word) :
    split? (space ++ word ++ [' ']) =
      some ((if space = [] then [] else [[' ']]) ++ [word, [' ']]) := by
  have hblank : Uniform .space [' '] := uniform_singleton ' '
  have hend : Closed [' '] := (Atom.char (by decide)).closed
  have hrest : Pieces .word [word, [' ']] :=
    .more hne hword hclosed (by decide) (.last (List.cons_ne_nil _ _) hblank)
  rcases hspace with rfl | rfl
  · have hsplit := hrest.split?_flatten (by simpa using hclosed.append hend)
    simpa [mapLast, cutAmpersand] using hsplit
  · have hpieces : Pieces .space [[' '], word, [' ']] :=
      .more (List.cons_ne_nil _ _) hblank hend (by decide) hrest
    have hsplit := hpieces.split?_flatten (by simpa using hend.append (hclosed.append hend))
    simpa [mapLast, cutAmpersand] using hsplit

/-- A space that is not quoted is in no word and in no run of delimiters. -/
theorem isRun_of_space {left piece right before behind : List Char} (h : IsPiece left piece right)
    (hpiece : piece = before ++ ' ' :: behind) (hclosed : Closed (left ++ before)) :
    IsRun (isBlank · = true) left piece right := by
  rcases h with hrun | ⟨d, hd, hrun⟩ | hword
  · exact hrun
  · obtain rfl := (hrun.holds before ' ' behind hpiece).1
    exact absurd hd (by decide)
  · have hblank : isBlank ' ' = true := by decide
    exact nomatch hblank.symm.trans (hword before ' ' behind hpiece hclosed).1

end GlassTty.Words
