import GlassTty.Text.Blank
import Mathlib.Data.List.Infix

/-!
# Parts of a text

The functions on texts, told by concatenation: a text begins so if it is the beginning followed by
something, and it is cut at the first place where the rest begins so. Replacing a part is told by
the two steps that it makes, over an occurrence and over a character where none begins.
-/

namespace GlassTty.Text

/-! ### Beginnings -/

theorem dropPrefix?_eq_some_iff {start text rest : List Char} :
    dropPrefix? start text = some rest ↔ text = start ++ rest := by
  induction start generalizing text with
  | nil => simp [dropPrefix?, eq_comm]
  | cons c start ih =>
    cases text with
    | nil => simp [dropPrefix?]
    | cons d text =>
      rw [dropPrefix?, List.cons_append, List.cons.injEq]
      split
      · next hsame => simp [hsame, ih]
      · next hother => simp [Ne.symm hother]

theorem isSome_dropPrefix?_iff {start text : List Char} :
    (dropPrefix? start text).isSome = true ↔ start <+: text := by
  rw [Option.isSome_iff_exists]
  exact exists_congr fun rest => dropPrefix?_eq_some_iff.trans eq_comm

theorem dropPrefix?_eq_none_iff {start text : List Char} :
    dropPrefix? start text = none ↔ ¬start <+: text := by
  rw [← isSome_dropPrefix?_iff, Option.not_isSome_iff_eq_none]

theorem dropPrefix?_append (start rest : List Char) :
    dropPrefix? start (start ++ rest) = some rest :=
  dropPrefix?_eq_some_iff.mpr rfl

theorem hasPrefix_iff {start text : List Char} : hasPrefix start text = true ↔ start <+: text :=
  isSome_dropPrefix?_iff

/-! ### Cuts -/

/-- **A text is cut where a part occurs in it**, and only then. -/
theorem isSome_cut?_iff {part text : List Char} :
    (cut? part text).isSome = true ↔ part <:+: text := by
  induction text with
  | nil => simp [cut?]
  | cons c rest ih =>
    rw [List.infix_cons_iff, ← isSome_dropPrefix?_iff, ← ih, cut?]
    cases dropPrefix? part (c :: rest) with
    | some after => simp
    | none => simp

/-- A text is cut right away where the part begins it. -/
theorem cut?_append {part : List Char} (hne : part ≠ []) (rest : List Char) :
    cut? part (part ++ rest) = some ([], rest) := by
  obtain ⟨c, tail, rfl⟩ := List.exists_cons_of_ne_nil hne
  have hbegins := dropPrefix?_append (c :: tail) rest
  rw [List.cons_append] at hbegins ⊢
  rw [cut?, hbegins]

/-- A character is passed over where the part does not begin. -/
theorem cut?_cons {part rest : List Char} {c : Char} (h : ¬part <+: c :: rest) :
    cut? part (c :: rest) = (cut? part rest).map fun (before, after) => (c :: before, after) := by
  rw [cut?, dropPrefix?_eq_none_iff.mpr h]

/-- A text is passed over where the first character of the part is missing. -/
theorem cut?_append_of_not_mem {part text : List Char} {d : Char} (h : d ∉ text)
    (rest : List Char) :
    cut? (d :: part) (text ++ rest) =
      (cut? (d :: part) rest).map fun (before, after) => (text ++ before, after) := by
  induction text with
  | nil => simp
  | cons c text ih =>
    obtain ⟨hc, htext⟩ := List.ne_and_not_mem_of_not_mem_cons h
    have hnone : ¬d :: part <+: c :: (text ++ rest) := fun hbegins =>
      hc (List.cons_prefix_cons.mp hbegins).1
    rw [List.cons_append, cut?_cons hnone, ih htext, Option.map_map]
    rfl

/-- The two sides of a cut have the part between them. -/
theorem eq_append_of_cut? {part text before after : List Char}
    (h : cut? part text = some (before, after)) : text = before ++ part ++ after := by
  induction text generalizing before with
  | nil =>
    rw [cut?] at h
    split_ifs at h with hempty
    cases h
    simpa using hempty
  | cons c rest ih =>
    rw [cut?] at h
    cases hdrop : dropPrefix? part (c :: rest) with
    | some behind =>
      rw [hdrop] at h
      cases h
      exact dropPrefix?_eq_some_iff.mp hdrop
    | none =>
      rw [hdrop] at h
      obtain ⟨⟨left, right⟩, hcut, hsides⟩ := Option.map_eq_some_iff.mp h
      cases hsides
      rw [ih hcut, List.cons_append, List.cons_append]

/-! ### Replacing -/

section Replace

variable {old new : List Char}

theorem replaceFrom_eq_replaceAll_drop (skip : Nat) (text : List Char) :
    replaceFrom old new skip text = replaceAll old new (text.drop skip) := by
  induction skip generalizing text with
  | zero => rfl
  | succ skip ih =>
    cases text with
    | nil => rfl
    | cons c rest => rw [replaceFrom, ih, List.drop_succ_cons]

@[simp] theorem replaceAll_nil : replaceAll old new [] = [] := rfl

/-- An occurrence is replaced. -/
theorem replaceAll_append (hne : old ≠ []) (rest : List Char) :
    replaceAll old new (old ++ rest) = new ++ replaceAll old new rest := by
  obtain ⟨c, tail, rfl⟩ := List.exists_cons_of_ne_nil hne
  have hbegins : hasPrefix (c :: tail) (c :: (tail ++ rest)) = true :=
    hasPrefix_iff.mpr ⟨rest, rfl⟩
  rw [replaceAll, List.cons_append, replaceFrom, if_pos hbegins, replaceFrom_eq_replaceAll_drop]
  simp

/-- A character is passed over where no occurrence begins. -/
theorem replaceAll_cons {c : Char} {rest : List Char} (h : ¬old <+: c :: rest) :
    replaceAll old new (c :: rest) = c :: replaceAll old new rest := by
  rw [replaceAll, replaceFrom, if_neg (mt hasPrefix_iff.mp h)]
  rfl

/-- Nothing is replaced where the first character of an occurrence is missing. -/
theorem replaceAll_append_of_not_mem {d : Char} {text : List Char} (h : d ∉ text)
    (rest : List Char) :
    replaceAll (d :: old) new (text ++ rest) = text ++ replaceAll (d :: old) new rest := by
  induction text with
  | nil => rfl
  | cons c text ih =>
    obtain ⟨hc, htext⟩ := List.ne_and_not_mem_of_not_mem_cons h
    have hnone : ¬d :: old <+: c :: (text ++ rest) := fun hbegins =>
      hc (List.cons_prefix_cons.mp hbegins).1
    rw [List.cons_append, replaceAll_cons hnone, ih htext, List.cons_append]

/-- A character stays behind a text if no occurrence can reach it. -/
theorem replaceFrom_append_singleton (hne : old ≠ []) {c : Char} (hc : c ∉ old) {skip : Nat}
    {text : List Char} (hskip : skip ≤ text.length) :
    replaceFrom old new skip (text ++ [c]) = replaceFrom old new skip text ++ [c] := by
  have hbegins (text : List Char) : hasPrefix old (text ++ [c]) = hasPrefix old text := by
    rw [Bool.eq_iff_iff, hasPrefix_iff, hasPrefix_iff, List.prefix_concat_iff]
    refine or_iff_right fun hold => hc ?_
    exact hold ▸ List.mem_append_right text (List.mem_singleton_self c)
  induction text generalizing skip with
  | nil =>
    obtain rfl := Nat.le_zero.mp hskip
    have hnone : hasPrefix old ([] ++ [c]) = false := by
      rw [hbegins, Bool.eq_false_iff, ne_eq, hasPrefix_iff]
      exact mt List.prefix_nil.mp hne
    rw [List.nil_append] at hnone
    simp [replaceFrom, hnone]
  | cons d text ih =>
    cases skip with
    | succ skip => exact ih (Nat.le_of_succ_le_succ hskip)
    | zero =>
      have hsame := hbegins (d :: text)
      rw [List.cons_append] at hsame ⊢
      rw [replaceFrom, replaceFrom, hsame]
      split
      · next hprefix =>
        have hlength := (hasPrefix_iff.mp hprefix).length_le
        rw [List.length_cons] at hlength
        rw [ih (Nat.sub_le_of_le_add hlength), List.append_assoc]
      · rw [ih (Nat.zero_le _), List.cons_append]

theorem replaceAll_append_singleton (hne : old ≠ []) {c : Char} (hc : c ∉ old) (text : List Char) :
    replaceAll old new (text ++ [c]) = replaceAll old new text ++ [c] :=
  replaceFrom_append_singleton hne hc (Nat.zero_le _)

/-- **What replacing makes** is put together from the new part and characters of the text. -/
theorem exists_pieces_of_replaceAll (old new text : List Char) :
    ∃ pieces : List (List Char), replaceAll old new text = pieces.flatten ∧
      ∀ piece ∈ pieces, piece = new ∨ ∃ c ∈ text, piece = [c] := by
  have hfrom : ∀ skip, ∃ pieces : List (List Char), replaceFrom old new skip text = pieces.flatten ∧
      ∀ piece ∈ pieces, piece = new ∨ ∃ c ∈ text, piece = [c] := by
    induction text with
    | nil => exact fun skip => ⟨[], by cases skip <;> rfl, nofun⟩
    | cons c text ih =>
      have hmore : ∀ skip, ∃ pieces : List (List Char),
          replaceFrom old new skip text = pieces.flatten ∧
            ∀ piece ∈ pieces, piece = new ∨ ∃ d ∈ c :: text, piece = [d] := by
        intro skip
        obtain ⟨pieces, hpieces, hmade⟩ := ih skip
        refine ⟨pieces, hpieces, fun piece hpiece => (hmade piece hpiece).imp_right ?_⟩
        exact fun ⟨d, hd, heq⟩ => ⟨d, List.mem_cons_of_mem c hd, heq⟩
      intro skip
      cases skip with
      | succ skip => exact hmore skip
      | zero =>
        rw [replaceFrom]
        split
        · obtain ⟨pieces, hpieces, hmade⟩ := hmore (old.length - 1)
          refine ⟨new :: pieces, by rw [hpieces, List.flatten_cons], ?_⟩
          exact List.forall_mem_cons.mpr ⟨.inl rfl, hmade⟩
        · obtain ⟨pieces, hpieces, hmade⟩ := hmore 0
          refine ⟨[c] :: pieces, by rw [hpieces, List.flatten_cons, List.singleton_append], ?_⟩
          exact List.forall_mem_cons.mpr ⟨.inr ⟨c, List.mem_cons_self, rfl⟩, hmade⟩
  exact hfrom 0

theorem mem_replaceAll {text : List Char} {c : Char} (h : c ∈ replaceAll old new text) :
    c ∈ new ∨ c ∈ text := by
  obtain ⟨pieces, hpieces, hmade⟩ := exists_pieces_of_replaceAll old new text
  rw [hpieces] at h
  obtain ⟨piece, hpiece, hc⟩ := List.mem_flatten.mp h
  rcases hmade piece hpiece with rfl | ⟨d, hd, rfl⟩
  · exact .inl hc
  · exact .inr (List.mem_singleton.mp hc ▸ hd)

end Replace

end GlassTty.Text
