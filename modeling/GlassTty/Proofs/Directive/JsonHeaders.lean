import GlassTty.Proofs.Directive.Headers
import GlassTty.Proofs.Json.Rendering

/-!
# Headers that are one object

Headers may be written as one JSON object (`GlassTty.Headers.IsJson`), over as many lines as one
likes, if none of them is empty. The object is read, and behind the empty line the body as it is
(`GlassTty.Headers.parse_json`).

An object ends in a brace. So no way to write an empty line can begin in the headers and end behind
them, and where one begins is looked for in the two parts one after the other.
-/

namespace GlassTty.Headers

open Text (Tight)

/-- **Headers are written as an object**: the text begins with it and ends with it, no line in it is
empty, and it is read as these members. -/
structure IsJson (head : List Char) (members : Json.Object) : Prop where
  head?_eq : head.head? = some '\x7b'
  tight : Tight head
  not_infix : ∀ part, IsEmptyLine part → ¬part <:+: head
  parse_eq : Json.parse (String.ofList head) = .ok (.object members)

namespace IsEmptyLine

variable {part : List Char}

theorem isBlank_of_mem (h : IsEmptyLine part) {c : Char} (hc : c ∈ part) : isBlank c = true := by
  have hall : separators.all (·.all isBlank) = true := by decide
  exact List.all_eq_true.mp (List.all_eq_true.mp hall part (mem_separators_iff.mpr h)) c hc

/-- An empty line that begins in a text which does not end in a blank ends in it. -/
theorem prefix_of_prefix_append (h : IsEmptyLine part) {text rest : List Char} (hne : text ≠ [])
    (hlast : ∀ c ∈ text.getLast?, isBlank c = false) (hbegin : part <+: text ++ rest) :
    part <+: text := by
  rcases List.prefix_or_prefix_of_prefix hbegin (List.prefix_append text rest) with hin | hover
  · exact hin
  · -- the last character of the text would be one of the empty line's
    have hmem : text.getLast hne ∈ part := hover.subset (List.getLast_mem hne)
    have hnot := hlast _ (List.getLast?_eq_some_getLast hne)
    rw [h.isBlank_of_mem hmem] at hnot
    cases hnot

/-- **No empty line begins in a text** that has none in it and does not end in a blank. -/
theorem cut?_append (h : IsEmptyLine part) {text : List Char}
    (hlast : ∀ c ∈ text.getLast?, isBlank c = false) (hinside : ¬part <:+: text)
    (rest : List Char) :
    Text.cut? part (text ++ rest) =
      (Text.cut? part rest).map fun (before, after) => (text ++ before, after) := by
  induction text with
  | nil => simp
  | cons c text ih =>
    have hbegins : ¬part <+: c :: (text ++ rest) := fun hbegin =>
      hinside (h.prefix_of_prefix_append (List.cons_ne_nil c text) hlast hbegin).isInfix
    have hlast' : ∀ d ∈ text.getLast?, isBlank d = false := fun d hd =>
      hlast d (by rw [List.getLast?_cons, Option.mem_def.mp hd]; rfl)
    have hinside' : ¬part <:+: text := fun hin => hinside (List.infix_cons hin)
    rw [List.cons_append, Text.cut?_cons hbegins, ih hlast' hinside', Option.map_map]
    rfl

end IsEmptyLine

/-- **Headers that are one object are read**, and the body behind them as it is. Nothing is trimmed
from the beginning. -/
theorem parse_json {head separator : List Char} {members : Json.Object} (h : IsJson head members)
    (hseparator : IsEmptyLine separator) (body : List Char) :
    parse (Text.trimStart (head ++ separator ++ body)) = (ofObject members, body) := by
  obtain ⟨rest, hcons⟩ := List.head?_eq_some_iff.mp h.head?_eq
  have hbegin : (head ++ separator ++ body).head? = some '\x7b' := by simp [hcons]
  have htrim : Text.trimStart (head ++ separator ++ body) = head ++ separator ++ body := by
    refine Text.trimStart_eq_self fun c hc => ?_
    rw [hbegin] at hc
    cases hc
    decide
  have hcut : cutBody (head ++ separator ++ body) = (head, body) :=
    cutBody_append (fun part hpart => hpart.cut?_append h.tight.last (h.not_infix part hpart))
      hseparator body
  rw [htrim, parse, if_neg (by rw [hbegin]; decide), hcut]
  dsimp only
  rw [h.tight.trim_eq_self, if_pos h.head?_eq, h.parse_eq]

/-- **An object of strings and objects is such a text** when it is printed. -/
theorem isJson_chars {members : Json.Object}
    (h : Json.IsTextual Json.maxNesting (.object members)) :
    IsJson (Json.Value.object members).chars members where
  head?_eq := rfl
  tight := by
    refine ⟨fun c hc => ?_, fun c hc => ?_⟩
    · rw [Json.Value.chars, List.cons_append, List.head?_cons] at hc
      cases hc
      decide
    · rw [Json.Value.chars, List.getLast?_concat] at hc
      cases hc
      decide
  not_infix part hpart hinside := by
    obtain ⟨c, tail, rfl, hc⟩ := hpart.exists_eq_cons
    exact h.not_mem_chars hc (hinside.subset List.mem_cons_self)
  parse_eq := Json.parse_render h

end GlassTty.Headers
