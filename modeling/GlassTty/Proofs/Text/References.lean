import GlassTty.Proofs.Text.Parts
import Mathlib.Data.List.Basic

/-!
# Character references

A character may stand in markup by a name, between an ampersand and a semicolon. What a text with
such references says is read in one pass from left to right (`GlassTty.Html.Decodes`): where a
reference begins its character is read, and reading goes on behind it; elsewhere a character stands
for itself. So what a reference stands for is not read again.

There are two ways to come to such a text and back.

* Characters are written by references and decoded (`GlassTty.Html.Decodes.flatMap`). It is enough
  that each is written by a reference of its own or is no ampersand and written as it is.
* References are replaced one name after the other, each in the whole text
  (`GlassTty.Html.decodes_replaceAll`). This is the same as one pass if no character that has been
  put in could be a part of a reference that is still to be replaced.
-/

namespace GlassTty.Html

/-! ### One pass -/

/-- The reference with the given name. -/
def reference (name : List Char) : List Char :=
  '&' :: (name ++ [';'])

/-- **What a text with references says**, the characters with a name being given: in one pass from
left to right. -/
inductive Decodes (named : List Char → Option Char) : List Char → List Char → Prop where
  | nil : Decodes named [] []
  | reference {name : List Char} {c : Char} {html text : List Char} (plain : ';' ∉ name)
    (h : named name = some c) (rest : Decodes named html text) :
    Decodes named (reference name ++ html) (c :: text)
  /-- A character stands for itself where no reference begins. -/
  | char {c : Char} {html text : List Char}
    (none : ∀ name, ';' ∉ name → Html.reference name <+: c :: html → named name = none)
    (rest : Decodes named html text) : Decodes named (c :: html) (c :: text)

section Decodes

variable {named : List Char → Option Char} {html text : List Char}

/-- No reference begins but with an ampersand. -/
theorem Decodes.char_of_ne {c : Char} (hc : c ≠ '&') (h : Decodes named html text) :
    Decodes named (c :: html) (c :: text) :=
  .char (fun _ _ hbegins => absurd (List.cons_prefix_cons.mp hbegins).1.symm hc) h

theorem Decodes.append_of_not_mem {left : List Char} (hleft : '&' ∉ left)
    (h : Decodes named html text) : Decodes named (left ++ html) (left ++ text) := by
  induction left with
  | nil => exact h
  | cons c left ih =>
    obtain ⟨hc, hrest⟩ := List.ne_and_not_mem_of_not_mem_cons hleft
    exact .char_of_ne (Ne.symm hc) (ih hrest)

/-- The name of a reference is known from the text that begins with it. -/
theorem reference_append_inj {name name' rest rest' : List Char} (hname : ';' ∉ name)
    (hname' : ';' ∉ name') (h : reference name ++ rest = reference name' ++ rest') :
    name = name' ∧ rest = rest' := by
  have hcut : ∀ {name rest : List Char}, ';' ∉ name →
      (name ++ ';' :: rest).takeWhile (· ≠ ';') = name := by
    intro name rest hname
    have hall : ∀ c ∈ name, decide (c ≠ ';') = true := fun c hc => by
      simpa using ne_of_mem_of_not_mem hc hname
    rw [List.takeWhile_append_of_pos hall]
    simp
  have hrest : name ++ ';' :: rest = name' ++ ';' :: rest' := by simpa [reference] using h
  have hsame : name = name' := by rw [← hcut hname, hrest, hcut hname']
  subst hsame
  exact ⟨rfl, (List.cons.inj (List.append_cancel_left hrest)).2⟩

/-- **A text says one thing.** -/
theorem Decodes.unique (h : Decodes named html text) {text' : List Char}
    (h' : Decodes named html text') : text = text' := by
  induction h generalizing text' with
  | nil => cases h'; rfl
  | @reference name c html text plain hname rest ih =>
    generalize hwhole : Html.reference name ++ html = whole at h'
    cases h' with
    | nil => cases hwhole
    | reference plain' hname' rest' =>
      obtain ⟨rfl, rfl⟩ := reference_append_inj plain plain' hwhole
      cases hname.symm.trans hname'
      rw [ih rest']
    | char none _ =>
      rw [none name plain (hwhole ▸ List.prefix_append _ _)] at hname
      cases hname
  | @char c html text none rest ih =>
    generalize hwhole : c :: html = whole at h'
    cases h' with
    | nil => cases hwhole
    | reference plain' hname' rest' =>
      rw [none _ plain' (hwhole ▸ List.prefix_append _ _)] at hname'
      cases hname'
    | char _ rest' =>
      cases hwhole
      rw [ih rest']

/-- Without an ampersand in it the beginning of a text stands for itself. -/
theorem Decodes.of_append {left : List Char} (hleft : '&' ∉ left)
    (h : Decodes named (left ++ html) text) :
    ∃ rest, text = left ++ rest ∧ Decodes named html rest := by
  induction left generalizing text with
  | nil => exact ⟨text, rfl, h⟩
  | cons c left ih =>
    obtain ⟨hc, hleft⟩ := List.ne_and_not_mem_of_not_mem_cons hleft
    generalize hwhole : c :: left ++ html = whole at h
    cases h with
    | nil => cases hwhole
    | reference => exact absurd (List.cons.inj hwhole).1.symm hc
    | char _ rest =>
      cases hwhole
      obtain ⟨more, rfl, hmore⟩ := ih hleft rest
      exact ⟨more, rfl, hmore⟩

/-- What no reference stands for has been there before. -/
theorem Decodes.exists_append {left : List Char}
    (hleft : ∀ name c, named name = some c → c ∉ left) (h : Decodes named html (left ++ text)) :
    left <+: html := by
  induction left generalizing html with
  | nil => exact List.nil_prefix
  | cons c left ih =>
    generalize hwhole : c :: left ++ text = whole at h
    cases h with
    | nil => cases hwhole
    | reference _ hname _ =>
      cases hwhole
      exact absurd (List.mem_cons_self ..) (hleft _ _ hname)
    | char _ rest =>
      cases hwhole
      have hrest : ∀ name c, named name = some c → c ∉ left := fun name d hname hmem =>
        hleft name d hname (List.mem_cons_of_mem _ hmem)
      exact List.cons_prefix_cons.mpr ⟨rfl, ih hrest rest⟩

/-! ### Characters that are written by references -/

/-- A character is **written** so that it can be decoded: by a reference, or as it is unless it is
an ampersand. -/
def Writes (named : List Char → Option Char) (write : Char → List Char) : Prop :=
  ∀ c, (write c = [c] ∧ c ≠ '&') ∨
    ∃ name, write c = reference name ∧ ';' ∉ name ∧ named name = some c

/-- **What has been written is decoded.** -/
theorem Decodes.flatMap {write : Char → List Char} (hwrite : Writes named write)
    (source : List Char) (h : Decodes named html text) :
    Decodes named (source.flatMap write ++ html) (source ++ text) := by
  induction source with
  | nil => exact h
  | cons c source ih =>
    rw [List.flatMap_cons, List.append_assoc, List.cons_append]
    rcases hwrite c with ⟨hself, hc⟩ | ⟨name, href, hplain, hname⟩
    · rw [hself]
      exact .char_of_ne hc ih
    · rw [href]
      exact .reference hplain hname ih

/-! ### One name after the other -/

/-- Without names a text stands for itself. -/
theorem decodes_none (text : List Char) : Decodes (fun _ => none) text text := by
  induction text with
  | nil => exact .nil
  | cons c text ih => exact .char (fun _ _ _ => rfl) ih

/-- **One more name.** If no reference that has been decoded stands for a part of it, the references
of a further name can be replaced afterwards. -/
theorem decodes_replaceAll {named' : List Char → Option Char} {name : List Char} {c : Char}
    (hplain : ';' ∉ name) (hstart : '&' ∉ name) (hfree : named name = none)
    (hnamed' : named' name = some c) (hother : ∀ other, other ≠ name → named' other = named other)
    (hparts : ∀ other d, named other = some d → d ∉ reference name) (h : Decodes named html text) :
    Decodes named' html (Text.replaceAll (reference name) [c] text) := by
  have hstart' : '&' ∉ name ++ [';'] := by simpa using hstart
  have hne : reference name ≠ [] := List.cons_ne_nil _ _
  induction h with
  | nil => exact .nil
  | @reference other d html text plain hd rest ih =>
    have hdifferent : other ≠ name := by
      rintro rfl
      rw [hfree] at hd
      cases hd
    have hnone : ¬reference name <+: d :: text := fun hbegins =>
      hparts other d hd ((List.cons_prefix_cons.mp hbegins).1 ▸ List.mem_cons_self ..)
    rw [Text.replaceAll_cons hnone]
    exact .reference plain ((hother other hdifferent).trans hd) ih
  | @char d html text none rest ih =>
    by_cases hbegins : reference name <+: d :: html
    · -- behind its ampersand it has been left as it is, and so has what follows it
      obtain ⟨behind, hbehind⟩ := hbegins
      obtain ⟨rfl, rfl⟩ := List.cons.inj hbehind
      obtain ⟨more, rfl, -⟩ := rest.of_append hstart'
      rw [reference, Text.replaceAll_append_of_not_mem hstart', ← reference] at ih
      obtain ⟨more', hmore', hdecodes⟩ := ih.of_append hstart'
      rw [← List.append_cancel_left hmore'] at hdecodes
      change Decodes named' (reference name ++ behind)
        (Text.replaceAll (reference name) [c] (reference name ++ more))
      rw [Text.replaceAll_append hne]
      exact .reference hplain hnamed' hdecodes
    · have hnone : ¬reference name <+: d :: text := by
        rintro ⟨more, hmore⟩
        obtain ⟨rfl, rfl⟩ := List.cons.inj hmore
        have htail : name ++ [';'] <+: html := rest.exists_append fun other e hother hmem =>
          hparts other e hother (List.mem_cons_of_mem _ hmem)
        exact hbegins (List.cons_prefix_cons.mpr ⟨rfl, htail⟩)
      rw [Text.replaceAll_cons hnone]
      refine .char (fun other hother' hbegins' => ?_) ih
      have hdifferent : other ≠ name := by
        rintro rfl
        exact hbegins hbegins'
      rw [hother other hdifferent]
      exact none other hother' hbegins'

/-- The characters that a table has names for. -/
def namedIn (table : List (List Char × Char)) (name : List Char) : Option Char :=
  table.lookup name

theorem namedIn_append_singleton {table : List (List Char × Char)} {name : List Char}
    (hfree : namedIn table name = none) (c : Char) (other : List Char) :
    namedIn (table ++ [(name, c)]) other = if other = name then some c else namedIn table other := by
  unfold namedIn at *
  rw [List.lookup_append, List.lookup_cons, List.lookup_nil]
  by_cases hother : other = name
  · subst hother
    simp [hfree]
  · have hbeq : (other == name) = false := beq_false_of_ne hother
    rw [hbeq, if_neg hother]
    simp

/-- **A table of names whose references can be replaced in its order**: no name occurs twice, and
no character is a part of a reference that comes later. -/
def Replaceable (table : List (List Char × Char)) : Prop :=
  (∀ entry ∈ table, ';' ∉ entry.1 ∧ '&' ∉ entry.1) ∧
    table.Pairwise fun earlier later => earlier.1 ≠ later.1 ∧ earlier.2 ∉ reference later.1

instance (table : List (List Char × Char)) : Decidable (Replaceable table) :=
  inferInstanceAs (Decidable (_ ∧ _))

/-- **Replacing one name after the other** is one pass. -/
theorem decodes_foldl_replaceAll (rest : List (List Char × Char)) :
    ∀ {done : List (List Char × Char)} {text : List Char}, Replaceable (done ++ rest) →
      Decodes (namedIn done) html text → Decodes (namedIn (done ++ rest)) html
        (rest.foldl (fun text entry => Text.replaceAll (reference entry.1) [entry.2] text) text) := by
  induction rest with
  | nil => simp
  | cons entry rest ih =>
    intro done text htable h
    obtain ⟨name, c⟩ := entry
    obtain ⟨hnames, hpairs⟩ := htable
    obtain ⟨hplain, hstart⟩ := hnames (name, c) (by simp)
    have hbefore : ∀ earlier ∈ done, earlier.1 ≠ name ∧ earlier.2 ∉ reference name :=
      fun earlier hmem => (List.pairwise_append.mp hpairs).2.2 earlier hmem (name, c) (by simp)
    have hfree : namedIn done name = none := by
      refine List.lookup_eq_none_iff.mpr fun earlier hmem => ?_
      simpa using (hbefore earlier hmem).1.symm
    have hparts : ∀ other d, namedIn done other = some d → d ∉ reference name := by
      intro other d hother
      obtain ⟨left, right, rfl, -⟩ := List.lookup_eq_some_iff.mp hother
      exact (hbefore (other, d) (by simp)).2
    have hnamed := namedIn_append_singleton hfree c
    have hnext : Decodes (namedIn (done ++ [(name, c)])) html _ :=
      decodes_replaceAll hplain hstart hfree ((hnamed name).trans (if_pos rfl))
        (fun other hother => (hnamed other).trans (if_neg hother)) hparts h
    rw [List.append_cons] at hnames hpairs ⊢
    exact ih ⟨hnames, hpairs⟩ hnext

end Decodes

end GlassTty.Html
