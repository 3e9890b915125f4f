import GlassTty.Prompt.Words
import Mathlib.Data.List.Basic

/-!
# Quotes and backslashes on a command line

What is quoted on a command line is said here by a grammar, without the machine that reads it. A
line consists of parts that are read as one (`GlassTty.Words.Atom`): a character that is neither a
quotation mark nor a backslash, a backslash with the character behind it, and a section between
quotes. A text of whole parts is *closed* (`GlassTty.Words.Closed`), and any other is *unfinished*
(`GlassTty.Words.Unfinished`): it ends behind a backslash or inside a section.

| inside of | what a quotation mark or a backslash means there |
|---|---|
| single quotes | the single quote ends the section, and nothing else means anything |
| double quotes | the double quote ends the section, and a backslash takes a character along |

A character of a line stands outside of quotes and behind no backslash if the text before it is
closed. The machine agrees with the grammar (`GlassTty.Words.read_eq_bare_iff`): behind a text it is
bare just if the text is closed.
-/

namespace GlassTty.Words

/-! ### The grammar -/

/-- What may stand between double quotes: a quotation mark only behind a backslash. -/
inductive DoubleBody : List Char → Prop where
  | nil : DoubleBody []
  | char {c : Char} {rest : List Char} (quote : c ≠ '"') (backslash : c ≠ '\\')
    (h : DoubleBody rest) : DoubleBody (c :: rest)
  | escape (c : Char) {rest : List Char} (h : DoubleBody rest) : DoubleBody ('\\' :: c :: rest)

/-- **A part of a line that is read as one.** -/
inductive Atom : List Char → Prop where
  | char {c : Char} (h : c ∉ ['\\', '\'', '"']) : Atom [c]
  /-- A backslash outside of quotes takes the character behind it along, whatever it is. -/
  | escape (c : Char) : Atom ['\\', c]
  | single {body : List Char} (h : '\'' ∉ body) : Atom ('\'' :: body ++ ['\''])
  | double {body : List Char} (h : DoubleBody body) : Atom ('"' :: body ++ ['"'])

/-- **A text of whole parts**: all quoting that begins in it also ends in it. -/
inductive Closed : List Char → Prop where
  | nil : Closed []
  | cons {atom rest : List Char} (h : Atom atom) (hrest : Closed rest) : Closed (atom ++ rest)

/-- **A text that ends inside a part**: behind a backslash, inside single quotes or inside double
quotes, there perhaps behind a backslash as well. -/
inductive Unfinished : List Char → Prop where
  | escape {before : List Char} (h : Closed before) : Unfinished (before ++ ['\\'])
  | single {before body : List Char} (h : Closed before) (hbody : '\'' ∉ body) :
    Unfinished (before ++ '\'' :: body)
  | double {before body : List Char} (h : Closed before) (hbody : DoubleBody body) :
    Unfinished (before ++ '"' :: body)
  | doubleEscape {before body : List Char} (h : Closed before) (hbody : DoubleBody body) :
    Unfinished (before ++ '"' :: (body ++ ['\\']))

theorem Closed.append {left right : List Char} (h : Closed left) (h' : Closed right) :
    Closed (left ++ right) := by
  induction h with
  | nil => exact h'
  | cons hatom _ ih => simpa using Closed.cons hatom ih

theorem Atom.closed {atom : List Char} (h : Atom atom) : Closed atom := by
  simpa using Closed.cons h .nil

theorem Unfinished.cons {atom line : List Char} (hatom : Atom atom) (h : Unfinished line) :
    Unfinished (atom ++ line) := by
  cases h with
  | escape h => simpa using Unfinished.escape (.cons hatom h)
  | single h hbody => simpa using Unfinished.single (.cons hatom h) hbody
  | double h hbody => simpa using Unfinished.double (.cons hatom h) hbody
  | doubleEscape h hbody => simpa using Unfinished.doubleEscape (.cons hatom h) hbody

/-- Behind a double quote the section ends, or the text ends before it does. -/
theorem doubleBody_cases : ∀ text : List Char,
    (∃ body rest, text = body ++ '"' :: rest ∧ DoubleBody body) ∨ DoubleBody text ∨
      ∃ body, text = body ++ ['\\'] ∧ DoubleBody body
  | [] => .inr (.inl .nil)
  | c :: text => by
    by_cases hquote : c = '"'
    · exact .inl ⟨[], text, by rw [hquote]; rfl, .nil⟩
    by_cases hbackslash : c = '\\'
    · subst hbackslash
      cases text with
      | nil => exact .inr (.inr ⟨[], rfl, .nil⟩)
      | cons d text =>
        rcases doubleBody_cases text with ⟨body, rest, rfl, h⟩ | h | ⟨body, rfl, h⟩
        · exact .inl ⟨'\\' :: d :: body, rest, rfl, .escape d h⟩
        · exact .inr (.inl (.escape d h))
        · exact .inr (.inr ⟨'\\' :: d :: body, rfl, .escape d h⟩)
    · rcases doubleBody_cases text with ⟨body, rest, rfl, h⟩ | h | ⟨body, rfl, h⟩
      · exact .inl ⟨c :: body, rest, rfl, .char hquote hbackslash h⟩
      · exact .inr (.inl (.char hquote hbackslash h))
      · exact .inr (.inr ⟨c :: body, rfl, .char hquote hbackslash h⟩)

/-- A text that goes on begins with a whole part, or ends inside its first one. -/
theorem exists_atom_append (c : Char) (text : List Char) :
    (∃ atom rest, c :: text = atom ++ rest ∧ atom ≠ [] ∧ Atom atom) ∨ Unfinished (c :: text) := by
  by_cases hspecial : c ∉ ['\\', '\'', '"']
  · exact .inl ⟨[c], text, rfl, List.cons_ne_nil _ _, .char hspecial⟩
  simp only [List.mem_cons, List.not_mem_nil, or_false, not_not] at hspecial
  rcases hspecial with rfl | rfl | rfl
  · cases text with
    | nil => exact .inr (.escape .nil)
    | cons d text => exact .inl ⟨['\\', d], text, rfl, List.cons_ne_nil _ _, .escape d⟩
  · by_cases hends : '\'' ∈ text
    · obtain ⟨body, rest, rfl, hbody⟩ := List.eq_append_cons_of_mem hends
      exact .inl ⟨_, rest, by simp, List.cons_ne_nil _ _, .single hbody⟩
    · exact .inr (.single .nil hends)
  · rcases doubleBody_cases text with ⟨body, rest, rfl, h⟩ | h | ⟨body, rfl, h⟩
    · exact .inl ⟨_, rest, by simp, List.cons_ne_nil _ _, .double h⟩
    · exact .inr (.double .nil h)
    · exact .inr (.doubleEscape .nil h)

/-- **Every text is closed or unfinished.** -/
theorem closed_or_unfinished (text : List Char) : Closed text ∨ Unfinished text := by
  induction hlength : text.length using Nat.strongRecOn generalizing text with
  | ind n ih =>
    cases text with
    | nil => exact .inl .nil
    | cons c text =>
      rcases exists_atom_append c text with ⟨atom, rest, htext, hne, hatom⟩ | h
      · have hshorter : rest.length < n := by
          rw [← hlength, htext, List.length_append]
          have := List.length_pos_iff.mpr hne
          omega
        rw [htext]
        rcases ih _ hshorter rest rfl with h | h
        · exact .inl (.cons hatom h)
        · exact .inr (h.cons hatom)
      · exact .inr h

/-! ### The machine -/

/-- The quoting behind a text. -/
def Quoting.read (quoting : Quoting) (text : List Char) : Quoting :=
  text.foldl Quoting.next quoting

@[simp] theorem read_nil (quoting : Quoting) : quoting.read [] = quoting := rfl

@[simp] theorem read_cons (quoting : Quoting) (c : Char) (text : List Char) :
    quoting.read (c :: text) = (quoting.next c).read text := rfl

@[simp] theorem read_append (quoting : Quoting) (left right : List Char) :
    quoting.read (left ++ right) = (quoting.read left).read right :=
  List.foldl_append

/-- Between single quotes only the single quote counts. -/
theorem read_single {body : List Char} (h : '\'' ∉ body) : Quoting.single.read body = .single := by
  induction body with
  | nil => rfl
  | cons c body ih =>
    obtain ⟨hc, hbody⟩ := List.ne_and_not_mem_of_not_mem_cons h
    rw [read_cons, Quoting.next, if_neg (Ne.symm hc), ih hbody]

/-- Between double quotes the section goes on. -/
theorem read_double {body : List Char} (h : DoubleBody body) :
    Quoting.double.read body = .double := by
  induction h with
  | nil => rfl
  | char quote backslash _ ih => rw [read_cons, Quoting.next, if_neg backslash, if_neg quote, ih]
  | escape c _ ih => exact ih

theorem Atom.read {atom : List Char} (h : Atom atom) : Quoting.bare.read atom = .bare := by
  cases h with
  | @char c h =>
    simp only [List.mem_cons, List.not_mem_nil, or_false, not_or] at h
    obtain ⟨hbackslash, hsingle, hdouble⟩ := h
    simp [Quoting.next, hbackslash, hsingle, hdouble]
  | escape c => rfl
  | @single body h =>
    have hopened : Quoting.bare.next '\'' = .single := by decide
    simp only [List.cons_append, read_cons, read_append, hopened, read_single h]
    decide
  | @double body h =>
    have hopened : Quoting.bare.next '"' = .double := by decide
    simp only [List.cons_append, read_cons, read_append, hopened, read_double h]
    decide

theorem Closed.read {text : List Char} (h : Closed text) : Quoting.bare.read text = .bare := by
  induction h with
  | nil => rfl
  | cons hatom _ ih => rw [read_append, hatom.read, ih]

theorem Unfinished.read_ne {text : List Char} (h : Unfinished text) :
    Quoting.bare.read text ≠ .bare := by
  have hsingle : Quoting.bare.next '\'' = .single := by decide
  have hdouble : Quoting.bare.next '"' = .double := by decide
  cases h with
  | escape h =>
    rw [read_append, h.read]
    decide
  | single h hbody =>
    rw [read_append, h.read, read_cons, hsingle, read_single hbody]
    decide
  | double h hbody =>
    rw [read_append, h.read, read_cons, hdouble, read_double hbody]
    decide
  | doubleEscape h hbody =>
    rw [read_append, h.read, read_cons, hdouble, read_append, read_double hbody]
    decide

/-- **The machine reads the grammar**: it is bare behind the closed texts and behind no others. -/
theorem read_eq_bare_iff {text : List Char} : Quoting.bare.read text = .bare ↔ Closed text := by
  refine ⟨fun h => ?_, Closed.read⟩
  rcases closed_or_unfinished text with hclosed | hunfinished
  · exact hclosed
  · exact absurd h hunfinished.read_ne

theorem read_ne_bare_iff {text : List Char} :
    Quoting.bare.read text ≠ .bare ↔ Unfinished text := by
  refine ⟨fun h => ?_, Unfinished.read_ne⟩
  rcases closed_or_unfinished text with hclosed | hunfinished
  · exact absurd hclosed.read h
  · exact hunfinished

end GlassTty.Words
