import GlassTty.Proofs.Prompt.Quoting
import Mathlib.Data.List.Induction
import Mathlib.Tactic.SplitIfs

/-!
# The pieces of a command line

Cutting a command line into its pieces loses nothing, and what the pieces are is said by their
characters that stand outside of quotes and behind no backslash
(`GlassTty.Words.split?_cuts_line`): those of a run of blanks or of one delimiter are all of the
characters, and the run is as long as can be (`GlassTty.Words.IsRun`); a word has no blank and no
delimiter among them (`GlassTty.Words.IsWord`).

The proof follows the piece in progress. What has been read of it is of one kind
(`GlassTty.Words.Uniform`), and where the kind changes outside of quotes the next piece begins, so
that pieces that follow each other are of different kinds (`GlassTty.Words.Pieces`). A piece of
blanks or delimiters is therefore a whole run. The ampersand that is cut off in the end is that of
a word, and leaves one.
-/

namespace GlassTty.Words

/-! ### Kinds of characters -/

theorem kindOf_eq_space_iff {c : Char} : kindOf c = .space ↔ isBlank c = true := by
  unfold kindOf
  split_ifs with hblank hdelimiter <;> simp [hblank]

theorem kindOf_eq_word_iff {c : Char} :
    kindOf c = .word ↔ isBlank c = false ∧ c ∉ delimiters := by
  unfold kindOf
  split_ifs with hblank hdelimiter
  · simp [hblank]
  · simp [List.contains_iff_mem.mp hdelimiter]
  · simpa [hblank] using hdelimiter

theorem isBlank_of_mem_delimiters {c : Char} (h : c ∈ delimiters) : isBlank c = false := by
  have hall : delimiters.all (!isBlank ·) = true := by decide
  simpa using List.all_eq_true.mp hall c h

theorem kindOf_eq_delimiter_iff {c d : Char} :
    kindOf c = .delimiter d ↔ c = d ∧ d ∈ delimiters := by
  unfold kindOf
  split_ifs with hblank hdelimiter
  · refine iff_of_false (by simp) ?_
    rintro ⟨rfl, hmem⟩
    simp [isBlank_of_mem_delimiters hmem] at hblank
  · rw [Kind.delimiter.injEq]
    exact ⟨fun h => ⟨h, h ▸ List.contains_iff_mem.mp hdelimiter⟩, And.left⟩
  · refine iff_of_false (by simp) ?_
    rintro ⟨rfl, hmem⟩
    exact hdelimiter (List.contains_iff_mem.mpr hmem)

/-- Blanks and delimiters do not quote. -/
theorem next_of_kindOf_ne_word {c : Char} (h : kindOf c ≠ .word) : Quoting.bare.next c = .bare := by
  have hspecial : ∀ d ∈ ['\\', '\'', '"'], kindOf d = .word := by
    simp only [List.forall_mem_cons]
    exact ⟨by decide, by decide, by decide, by simp⟩
  have hne : ∀ d ∈ ['\\', '\'', '"'], c ≠ d := fun d hd heq => h (heq ▸ hspecial d hd)
  rw [Quoting.next, if_neg (hne _ (by simp)), if_neg (hne _ (by simp)), if_neg (hne _ (by simp))]

/-! ### Pieces of one kind -/

/-- **Of one kind**: all characters of the piece that are not quoted are of this kind. -/
def Uniform (kind : Kind) (piece : List Char) : Prop :=
  ∀ left c right, piece = left ++ c :: right → Closed left → kindOf c = kind

theorem uniform_append_singleton {kind : Kind} {piece : List Char} {c : Char}
    (h : Uniform kind piece) (hc : Closed piece → kindOf c = kind) :
    Uniform kind (piece ++ [c]) := by
  intro left d right heq hclosed
  rcases List.eq_nil_or_concat right with rfl | ⟨right, e, rfl⟩
  · obtain ⟨rfl, hsame⟩ := List.append_inj' heq rfl
    cases hsame
    exact hc hclosed
  · rw [List.concat_eq_append, ← List.cons_append, ← List.append_assoc] at heq
    exact h left d right (List.append_inj' heq rfl).1 hclosed

theorem uniform_singleton (c : Char) : Uniform (kindOf c) [c] := by
  have hempty : Uniform (kindOf c) [] := fun left d right heq => by simp at heq
  exact uniform_append_singleton hempty fun _ => rfl

/-- In a piece of blanks or delimiters nothing is quoted. -/
theorem Uniform.closed_left {kind : Kind} {piece : List Char} (h : Uniform kind piece)
    (hkind : kind ≠ .word) {left right : List Char} (heq : piece = left ++ right) :
    Closed left := by
  induction left using List.reverseRecOn generalizing right with
  | nil => exact .nil
  | append_singleton left c ih =>
    rw [List.append_assoc] at heq
    have hleft : Closed left := ih heq
    have hc : kindOf c = kind := h left c right heq hleft
    rw [← read_eq_bare_iff, read_append, hleft.read, read_cons, read_nil]
    exact next_of_kindOf_ne_word (hc ▸ hkind)

/-- **Pieces that follow each other**, the first of the given kind. -/
inductive Pieces : Kind → List (List Char) → Prop where
  | last {kind : Kind} {piece : List Char} (ne : piece ≠ []) (uniform : Uniform kind piece) :
    Pieces kind [piece]
  | more {kind other : Kind} {piece : List Char} {rest : List (List Char)} (ne : piece ≠ [])
    (uniform : Uniform kind piece) (closed : Closed piece) (changes : other ≠ kind)
    (h : Pieces other rest) : Pieces kind (piece :: rest)

theorem Pieces.kindOf_head {kind : Kind} {parts : List (List Char)} (h : Pieces kind parts)
    {c : Char} {text : List Char} (heq : parts.flatten = c :: text) : kindOf c = kind := by
  have hfirst : ∀ {piece more : List Char}, piece ≠ [] → Uniform kind piece →
      piece ++ more = c :: text → kindOf c = kind := by
    intro piece more hne huniform happend
    cases piece with
    | nil => exact absurd rfl hne
    | cons d piece =>
      cases happend
      exact huniform [] c piece rfl .nil
  cases h with
  | last ne uniform => exact hfirst ne uniform heq
  | more ne uniform _ _ _ => exact hfirst ne uniform heq

/-! ### What is read of the piece in progress -/

section SplitFrom

variable {quoting last : Quoting} {kind : Kind} {c : Char} {rest piece : List Char}
  {pieces : List (List Char)}

/-- A character that goes on with the piece in progress. -/
theorem splitFrom_of_same (h : quoting = .bare → kindOf c = kind)
    (hrest : splitFrom (quoting.next c) kind rest = (piece :: pieces, last)) :
    splitFrom quoting kind (c :: rest) = ((c :: piece) :: pieces, last) := by
  have hkind : (if quoting = .bare then kindOf c else kind) = kind := by
    split
    · next hbare => exact h hbare
    · rfl
  rw [splitFrom, hkind, hrest]
  exact if_neg fun hfresh => hfresh.2 (h hfresh.1)

/-- A character that begins a piece. -/
theorem splitFrom_of_fresh (h : kindOf c ≠ kind)
    (hrest : splitFrom (Quoting.bare.next c) (kindOf c) rest = (piece :: pieces, last)) :
    splitFrom .bare kind (c :: rest) = ([] :: (c :: piece) :: pieces, last) := by
  rw [splitFrom, if_pos rfl, hrest]
  exact if_pos ⟨rfl, h⟩

end SplitFrom

/-- **The rest of a line is cut into pieces.** Put behind what has been read of the piece in
progress, the first of them makes it complete. -/
theorem pieces_splitFrom (text : List Char) : ∀ {kind : Kind} {begun : List Char}, begun ≠ [] →
    Uniform kind begun → ∃ piece rest,
      splitFrom (Quoting.bare.read begun) kind text =
          (piece :: rest, Quoting.bare.read (begun ++ text)) ∧
        piece ++ rest.flatten = text ∧ Pieces kind ((begun ++ piece) :: rest) := by
  induction text with
  | nil =>
    intro kind begun hne huniform
    refine ⟨[], [], ?_, rfl, ?_⟩
    · rw [splitFrom, List.append_nil]
    · rw [List.append_nil]
      exact .last hne huniform
  | cons c text ih =>
    intro kind begun hne huniform
    by_cases hfresh : Closed begun ∧ kindOf c ≠ kind
    · obtain ⟨hclosed, hkind⟩ := hfresh
      obtain ⟨piece, rest, hsplit, hflatten, hpieces⟩ :=
        ih (List.cons_ne_nil c []) (uniform_singleton c)
      refine ⟨[], (c :: piece) :: rest, ?_, ?_, ?_⟩
      · rw [hclosed.read, read_append, hclosed.read]
        exact splitFrom_of_fresh hkind hsplit
      · simp [hflatten]
      · rw [List.append_nil]
        exact .more hne huniform hclosed hkind hpieces
    · have hsame : Closed begun → kindOf c = kind := fun hclosed =>
        not_not.mp fun hkind => hfresh ⟨hclosed, hkind⟩
      obtain ⟨piece, rest, hsplit, hflatten, hpieces⟩ :=
        ih (List.append_ne_nil_of_left_ne_nil hne [c]) (uniform_append_singleton huniform hsame)
      rw [List.append_assoc] at hsplit hpieces
      rw [read_append] at hsplit
      exact ⟨c :: piece, rest,
        splitFrom_of_same (fun hbare => hsame (read_eq_bare_iff.mp hbare)) hsplit,
        by simp [hflatten], hpieces⟩

/-- **The pieces of a line** are the line, and they follow each other. -/
theorem pieces_eq {line : List Char} (hne : line ≠ []) :
    ∃ kind parts, pieces line = (parts, Quoting.bare.read line) ∧ parts.flatten = line ∧
      Pieces kind parts := by
  cases line with
  | nil => exact absurd rfl hne
  | cons c line =>
    obtain ⟨piece, rest, hsplit, hflatten, hpieces⟩ :=
      pieces_splitFrom line (List.cons_ne_nil c []) (uniform_singleton c)
    exact ⟨kindOf c, (c :: piece) :: rest, splitFrom_of_same (fun _ => rfl) hsplit,
      by simp [hflatten], hpieces⟩

/-! ### Where a piece stands in its line -/

/-- **A piece between the rest of its line**: it is not empty and of one kind, no quoting is open
where it begins, and neither of the characters next to it would belong to it. -/
structure Stands (left piece right : List Char) (kind : Kind) : Prop where
  ne : piece ≠ []
  uniform : Uniform kind piece
  closed : Closed left
  before : ∀ text c, left = text ++ [c] → Closed text → kindOf c ≠ kind
  behind : ∀ c text, right = c :: text → kindOf c ≠ kind

theorem Closed.of_append {left right : List Char} (hleft : Closed left)
    (h : Closed (left ++ right)) : Closed right := by
  rwa [← read_eq_bare_iff, read_append, hleft.read, read_eq_bare_iff] at h

theorem Pieces.stands {kind : Kind} {parts : List (List Char)} (h : Pieces kind parts) :
    ∀ {left : List Char}, Closed left →
      (∀ text c, left = text ++ [c] → Closed text → kindOf c ≠ kind) →
      ∀ {before piece behind}, parts = before ++ piece :: behind →
        ∃ kind, Stands (left ++ before.flatten) piece behind.flatten kind := by
  induction h with
  | @last kind piece ne uniform =>
    intro left hleft hbefore before part behind heq
    obtain ⟨rfl, rfl, rfl⟩ : before = [] ∧ part = piece ∧ behind = [] := by
      cases before <;> simp_all
    exact ⟨kind, ne, uniform, by simpa using hleft, by simpa using hbefore, by simp⟩
  | @more kind other piece rest ne uniform closed changes h ih =>
    intro left hleft hbefore before part behind heq
    cases before with
    | nil =>
      obtain ⟨rfl, rfl⟩ : piece = part ∧ rest = behind := by simpa using heq
      refine ⟨kind, ne, uniform, by simpa using hleft, by simpa using hbefore, ?_⟩
      intro c text hrest
      rw [h.kindOf_head hrest]
      exact changes
    | cons first before =>
      obtain ⟨rfl, hrest⟩ : piece = first ∧ rest = before ++ part :: behind := by simpa using heq
      rw [List.flatten_cons, ← List.append_assoc]
      refine ih (hleft.append closed) ?_ hrest
      -- the character before a piece is the last one of the piece before it
      intro text c hlast htext
      rcases List.eq_nil_or_concat piece with rfl | ⟨begun, d, rfl⟩
      · exact absurd rfl ne
      · rw [List.concat_eq_append, ← List.append_assoc] at hlast
        obtain ⟨rfl, hsame⟩ := List.append_inj' hlast rfl
        cases hsame
        rw [uniform begun c [] (by simp) (hleft.of_append htext)]
        exact changes.symm

/-- **A maximal run** of the characters with a property, none of them quoted: neither the
character before it nor the one behind it could be added. -/
structure IsRun (P : Char → Prop) (left run right : List Char) : Prop where
  holds : ∀ before c behind, run = before ++ c :: behind → P c ∧ Closed (left ++ before)
  begins : ∀ before c, left = before ++ [c] → Closed before → ¬P c
  ends : ∀ c behind, right = c :: behind → ¬P c

/-- **A word**: outside of quotes there is neither a blank nor a delimiter in it. -/
def IsWord (left word : List Char) : Prop :=
  ∀ before c behind, word = before ++ c :: behind → Closed (left ++ before) →
    isBlank c = false ∧ c ∉ delimiters

/-- **What a piece of a line can be.** -/
def IsPiece (left piece right : List Char) : Prop :=
  IsRun (isBlank · = true) left piece right ∨
    (∃ d ∈ delimiters, IsRun (· = d) left piece right) ∨ IsWord left piece

theorem Stands.isRun {left piece right : List Char} {kind : Kind}
    (h : Stands left piece right kind) (hkind : kind ≠ .word) :
    IsRun (kindOf · = kind) left piece right where
  holds before c behind heq :=
    have hbefore : Closed before := h.uniform.closed_left hkind heq
    ⟨h.uniform before c behind heq hbefore, h.closed.append hbefore⟩
  begins := h.before
  ends := h.behind

theorem Stands.isWord {left piece right : List Char} (h : Stands left piece right .word) :
    IsWord left piece := by
  intro before c behind heq hclosed
  exact kindOf_eq_word_iff.mp (h.uniform before c behind heq (h.closed.of_append hclosed))

theorem Stands.isPiece {left piece right : List Char} {kind : Kind}
    (h : Stands left piece right kind) : IsPiece left piece right := by
  cases kind with
  | space => exact .inl (by simpa only [kindOf_eq_space_iff] using h.isRun (by simp))
  | word => exact .inr (.inr h.isWord)
  | delimiter d =>
    -- there is a character in it, so that it is a delimiter
    obtain ⟨c, rest, hpiece⟩ := List.exists_cons_of_ne_nil h.ne
    have hd : d ∈ delimiters := (kindOf_eq_delimiter_iff.mp (h.uniform [] c rest hpiece .nil)).2
    have hrun := h.isRun (by simp)
    simp only [kindOf_eq_delimiter_iff, hd, and_true] at hrun
    exact .inr (.inl ⟨d, hd, hrun⟩)

/-! ### The ampersand in the end -/

theorem mapLast_append_singleton (change : List Char → List (List Char)) (parts : List (List Char))
    (last : List Char) : mapLast change (parts ++ [last]) = parts ++ change last := by
  induction parts with
  | nil => rfl
  | cons part parts ih =>
    cases parts with
    | nil => rfl
    | cons next parts =>
      change part :: mapLast change (next :: parts ++ [last]) = _
      rw [ih]
      rfl

/-- The ampersand is cut off a longer piece, or the piece is left as it is. -/
theorem cutAmpersand_cases (piece : List Char) :
    (∃ word, word ≠ [] ∧ piece = word ++ ['&'] ∧ cutAmpersand piece = [word, ['&']]) ∨
      cutAmpersand piece = [piece] := by
  unfold cutAmpersand
  split_ifs with h
  · obtain ⟨hlength, hlast⟩ := h
    obtain ⟨word, rfl⟩ := List.getLast?_eq_some_iff.mp hlast
    refine .inl ⟨word, ?_, rfl, by simp⟩
    rintro rfl
    simp at hlength
  · exact .inr rfl

/-- A piece that ends with an ampersand is a word, and so is what is left of it. -/
theorem Stands.isWord_of_ampersand {left word right : List Char} {kind : Kind}
    (h : Stands left (word ++ ['&']) right kind) : IsWord left word := by
  have hkind : kind = .word := by
    by_contra hkind
    have hampersand : kindOf '&' = kind :=
      h.uniform word '&' [] rfl (h.uniform.closed_left hkind rfl)
    exact hkind (hampersand.symm.trans (by decide))
  subst hkind
  intro before c behind heq
  exact h.isWord before c (behind ++ ['&']) (by simp [heq])

/-! ### The whole line -/

/-- **A line has no pieces** just if its quoting does not end. -/
theorem split?_eq_none_iff {line : List Char} : split? line = none ↔ Unfinished line := by
  have hlast : (pieces line).2 = Quoting.bare.read line := by
    by_cases hne : line = []
    · rw [hne]
      rfl
    · obtain ⟨_, _, hpieces, -⟩ := pieces_eq hne
      rw [hpieces]
  rw [← read_ne_bare_iff, ← hlast]
  simp [split?]

/-- **The pieces that a line has** follow each other, but for the ampersand of the last one. -/
theorem exists_pieces_of_split? {line : List Char} {parts : List (List Char)}
    (h : split? line = some parts) (hne : line ≠ []) :
    ∃ kind before last, Pieces kind (before ++ [last]) ∧ before.flatten ++ last = line ∧
      (parts = before ++ [last] ∨
        ∃ word, word ≠ [] ∧ last = word ++ ['&'] ∧ parts = before ++ [word, ['&']]) := by
  obtain ⟨kind, whole, hpieces, hflatten, hwhole⟩ := pieces_eq hne
  have hparts : mapLast cutAmpersand whole = parts := by
    simp only [split?, hpieces] at h
    split at h
    · exact Option.some.inj h
    · cases h
  rcases List.eq_nil_or_concat whole with rfl | ⟨before, last, rfl⟩
  · cases hwhole
  · rw [List.concat_eq_append] at hwhole hflatten hparts
    rw [mapLast_append_singleton] at hparts
    refine ⟨kind, before, last, hwhole, by simpa using hflatten, ?_⟩
    rcases cutAmpersand_cases last with ⟨word, hword, hlast, hcut⟩ | hcut
    · exact .inr ⟨word, hword, hlast, by rw [← hparts, hcut]⟩
    · exact .inl (by rw [← hparts, hcut])

/-- The ampersand alone is a word. -/
theorem isWord_ampersand (left : List Char) : IsWord left ['&'] := by
  intro before c behind heq hclosed
  have hc : c ∈ ['&'] := heq ▸ List.mem_append_right before (List.mem_cons_self ..)
  rw [List.mem_singleton.mp hc]
  decide

/-- The places in a list whose last two entries are named. -/
theorem append_pair_cases {α : Type} {before left right : List α} {x y z : α}
    (h : before ++ [x, y] = left ++ z :: right) :
    (∃ more, before = left ++ z :: more ∧ right = more ++ [x, y]) ∨
      (left = before ∧ z = x ∧ right = [y]) ∨ (z = y ∧ right = []) := by
  rcases List.append_eq_append_iff.mp h with ⟨more, rfl, hlast⟩ | ⟨more, rfl, hright⟩
  · rcases more with _ | ⟨_, _ | ⟨_, more⟩⟩
    · obtain ⟨rfl, rfl⟩ : x = z ∧ [y] = right := by simpa using hlast
      simp
    · obtain ⟨-, rfl, rfl⟩ : _ ∧ y = z ∧ [] = right := by simpa using hlast
      simp
    · simp at hlast
  · cases more with
    | nil =>
      obtain ⟨rfl, rfl⟩ : z = x ∧ right = [y] := by simpa using hright
      simp
    | cons _ more =>
      obtain ⟨rfl, rfl⟩ : z = _ ∧ right = more ++ [x, y] := by simpa using hright
      exact .inl ⟨more, rfl, rfl⟩

theorem flatten_of_split? {line : List Char} {parts : List (List Char)}
    (h : split? line = some parts) : parts.flatten = line := by
  by_cases hne : line = []
  · subst hne
    obtain rfl : [] = parts := Option.some.inj h
    rfl
  · obtain ⟨-, before, last, -, rfl, rfl | ⟨word, -, rfl, rfl⟩⟩ := exists_pieces_of_split? h hne
    · simp
    · simp

/-- **Where a piece of a line stands**: as it has been cut, or with the ampersand at its end, if it
is not that ampersand itself. -/
theorem stands_of_split? {line piece : List Char} {before behind : List (List Char)}
    (h : split? line = some (before ++ piece :: behind)) :
    (∃ kind, Stands before.flatten piece behind.flatten kind) ∨
      (behind = [['&']] ∧ piece ≠ [] ∧ ∃ kind, Stands before.flatten (piece ++ ['&']) [] kind) ∨
      (piece = ['&'] ∧ behind = []) := by
  have hne : line ≠ [] := by
    rintro rfl
    exact List.append_ne_nil_of_right_ne_nil before (List.cons_ne_nil piece behind)
      (Option.some.inj h).symm
  obtain ⟨kind, left, last, hpieces, -, hparts⟩ := exists_pieces_of_split? h hne
  have hstands : ∀ {before piece behind}, left ++ [last] = before ++ piece :: behind →
      ∃ kind, Stands before.flatten piece behind.flatten kind := by
    intro before piece behind heq
    exact hpieces.stands .nil (by simp) heq
  rcases hparts with hparts | ⟨word, hword, rfl, hparts⟩
  · exact .inl (hstands hparts.symm)
  · rcases append_pair_cases hparts.symm with ⟨more, rfl, rfl⟩ | ⟨rfl, rfl, rfl⟩ | ⟨rfl, rfl⟩
    · have hpiece := hstands (List.append_assoc before (piece :: more) _)
      exact .inl (by simpa using hpiece)
    · exact .inr (.inl ⟨rfl, hword, hstands rfl⟩)
    · exact .inr (.inr ⟨rfl, rfl⟩)

theorem nil_not_mem_of_split? {line : List Char} {parts : List (List Char)}
    (h : split? line = some parts) : [] ∉ parts := by
  intro hnil
  obtain ⟨before, behind, rfl⟩ := List.append_of_mem hnil
  rcases stands_of_split? h with ⟨kind, hpiece⟩ | ⟨-, hne, -⟩ | ⟨hnil, -⟩
  · exact hpiece.ne rfl
  · exact hne rfl
  · cases hnil

/-- **A piece that begins with a blank** is blank. -/
theorem allBlank_of_split? {line : List Char} {parts : List (List Char)}
    (h : split? line = some parts) {c : Char} {rest : List Char} (hmem : c :: rest ∈ parts)
    (hc : isBlank c = true) : Text.allBlank (c :: rest) = true := by
  obtain ⟨before, behind, rfl⟩ := List.append_of_mem hmem
  have hspace : kindOf c = .space := kindOf_eq_space_iff.mpr hc
  rcases stands_of_split? h with ⟨kind, hpiece⟩ | ⟨-, -, kind, hpiece⟩ | ⟨hampersand, -⟩
  · obtain rfl : .space = kind := hspace.symm.trans (hpiece.uniform [] c rest rfl .nil)
    refine List.all_eq_true.mpr fun d hd => ?_
    obtain ⟨left, right, hsplit⟩ := List.append_of_mem hd
    have hrun := (hpiece.isRun (by simp)).holds left d right hsplit
    exact kindOf_eq_space_iff.mp hrun.1
  · have hword := hpiece.isWord_of_ampersand [] c rest rfl (by simpa using hpiece.closed)
    cases hc.symm.trans hword.1
  · cases hampersand
    revert hc
    decide

/-- **Behind a word** there is no other one, but for the ampersand. -/
theorem behind_word {line rest text : List Char} {before behind : List (List Char)} {c d : Char}
    (h : split? line = some (before ++ (c :: rest) :: behind)) (hc : kindOf c = .word)
    (hd : behind.flatten = d :: text) : kindOf d ≠ .word ∨ d = '&' := by
  rcases stands_of_split? h with ⟨kind, hpiece⟩ | ⟨rfl, -⟩ | ⟨-, rfl⟩
  · obtain rfl : .word = kind := hc.symm.trans (hpiece.uniform [] c rest rfl .nil)
    exact .inl (hpiece.behind d text hd)
  · exact .inr (List.cons.inj hd).1.symm
  · cases hd

/-- **The pieces of a command line.** A line has none just if its quoting does not end. The pieces
that it has are the line, none of them is empty, and each is a run of blanks, a run of one delimiter
or a word. -/
theorem split?_cuts_line (line : List Char) :
    (split? line = none ↔ Unfinished line) ∧
      ∀ parts, split? line = some parts → [] ∉ parts ∧ parts.flatten = line ∧
        ∀ before piece behind, parts = before ++ piece :: behind →
          IsPiece before.flatten piece behind.flatten := by
  refine ⟨split?_eq_none_iff, fun parts h => ⟨nil_not_mem_of_split? h, flatten_of_split? h, ?_⟩⟩
  rintro before piece behind rfl
  rcases stands_of_split? h with ⟨kind, hpiece⟩ | ⟨-, -, kind, hpiece⟩ | ⟨rfl, -⟩
  · exact hpiece.isPiece
  · exact .inr (.inr hpiece.isWord_of_ampersand)
  · exact .inr (.inr (isWord_ampersand _))

/-- A blank behind a backslash and a delimiter between quotes belong to their words, and two
delimiters in a row are one piece. -/
theorem split?_cuts_line_quoted :
    let line := "a\\ \"b c\">>  'x;y'&".toList
    let parts := ["a\\ \"b c\"", ">>", "  ", "'x;y'", "&"].map String.toList
    split? line = some parts ∧ [] ∉ parts ∧ parts.flatten = line ∧
      IsPiece "a\\ \"b c\"".toList ">>".toList "  'x;y'&".toList := by
  intro line parts
  have hsplit : split? line = some parts := by decide
  obtain ⟨hne, hflatten, hpieces⟩ := (split?_cuts_line line).2 parts hsplit
  have hpiece := hpieces ["a\\ \"b c\"".toList] ">>".toList (parts.drop 2) rfl
  exact ⟨hsplit, hne, hflatten, hpiece⟩

end GlassTty.Words
