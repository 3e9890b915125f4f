import GlassTty.Directive.Buffer
import GlassTty.Escape.Parser
import Mathlib.Data.List.Forall2

/-!
# The opening of a directive

A mode-set sequence whose mode is one of the two reserved ones asks for a directive to be opened
(`GlassTty.Opening.ofAction?`). Behind the mode it may present a number; that number shows the
secret of the session if its decimal digits are the cookie, which an empty cookie never is
(`GlassTty.Opening.Shows`). The comparison looks at all bytes whether they agree or not, and still
comes to just that (`GlassTty.cookieMatches_iff`).

What is collected behind an opening never grows past the limit (`GlassTty.DirectiveBuffer.Fits`),
and what the opening has settled stays as it is (`GlassTty.DirectiveBuffer.extend_eq`).
-/

namespace GlassTty

/-! ### Cookies -/

/-- A text is known from its bytes. -/
theorem utf8Bytes_inj {s t : String} : utf8Bytes s = utf8Bytes t ↔ s = t := by
  refine ⟨fun h => ?_, congrArg utf8Bytes⟩
  have hbytes : s.toList.utf8Encode = t.toList.utf8Encode := congrArg List.toByteArray h
  rw [String.utf8Encode_toList, String.utf8Encode_toList] at hbytes
  exact String.toByteArray_inj.mp hbytes

/-- The differences of bytes add up to nothing if there are none. -/
theorem foldl_differences_eq_zero (pairs : List (UInt8 × UInt8)) (seen : UInt8) :
    pairs.foldl (fun seen (x, y) => seen ||| (x ^^^ y)) seen = 0 ↔
      seen = 0 ∧ ∀ q ∈ pairs, q.1 = q.2 := by
  induction pairs generalizing seen with
  | nil => simp
  | cons q pairs ih =>
    rw [List.foldl_cons, ih, UInt8.or_eq_zero_iff, UInt8.xor_eq_zero_iff, List.forall_mem_cons,
      and_assoc]

/-- **What the comparison of cookies comes to**: they are the same, and not empty. -/
theorem cookieMatches_iff {presented cookie : String} :
    cookieMatches presented cookie = true ↔ cookie ≠ "" ∧ presented = cookie := by
  have hempty : (utf8Bytes cookie).isEmpty = false ↔ cookie ≠ "" := by
    rw [← Bool.not_eq_true, List.isEmpty_iff, ne_eq, ← utf8Bytes_inj]
    rfl
  have hsame : (utf8Bytes presented).length = (utf8Bytes cookie).length ∧
      (∀ q ∈ (utf8Bytes presented).zip (utf8Bytes cookie), q.1 = q.2) ↔ presented = cookie := by
    rw [← utf8Bytes_inj, ← List.forall₂_eq_eq_eq, List.forall₂_iff_zip]
    exact and_congr_right fun _ => ⟨fun h _ _ hq => h _ hq, fun h q hq => h hq⟩
  simp only [cookieMatches, Bool.and_eq_true, Bool.not_eq_true', beq_iff_eq,
    foldl_differences_eq_zero, true_and, and_assoc, hsame, hempty]

/-! ### Openings -/

/-- A directive that a sequence asks for. -/
structure Opening where
  code : DirectiveCode
  /-- The number behind the mode. -/
  presented : Option Nat
  deriving DecidableEq, Repr

namespace Opening

/-- The directive that an action asks for: a mode that is set may be one of the reserved ones. -/
def ofAction? : Action → Option Opening
  | .setMode (mode :: rest) => (DirectiveCode.ofMode? mode).map (⟨·, rest.head?⟩)
  | _ => none

/-- **The opening shows the cookie**: there is one, and it is the number, written in decimal. -/
def Shows (o : Opening) (cookie : String) : Prop :=
  cookie ≠ "" ∧ o.presented.map toString = some cookie

instance (o : Opening) (cookie : String) : Decidable (o.Shows cookie) :=
  inferInstanceAs (Decidable (_ ∧ _))

theorem presentsCookie_iff (o : Opening) (cookie : String) :
    presentsCookie o.presented cookie = true ↔ o.Shows cookie := by
  unfold presentsCookie Shows
  cases o.presented with
  | none => simp
  | some n => simp [cookieMatches_iff]

/-- The bytes collected right behind the opening: none yet. -/
def buffer (o : Opening) (cookie : String) (limit : Nat) : DirectiveBuffer :=
  { code := o.code, validated := presentsCookie o.presented cookie, limit }

end Opening

namespace Parser

/-- The directives that a byte string asks for, read from the state `p`. -/
def openings (p : Parser) (bytes : Bytes) : List Opening :=
  (p.feed bytes).1.filterMap Opening.ofAction?

end Parser

/-! ### Collecting -/

namespace DirectiveBuffer

/-- What is collected changes; what the directive is for does not. -/
theorem extend_eq (b : DirectiveBuffer) (bytes : Bytes) :
    b.extend bytes =
      { b with data := (b.extend bytes).data, overflowed := (b.extend bytes).overflowed } := by
  unfold extend
  split
  · rfl
  · split <;> rfl

theorem code_extend (b : DirectiveBuffer) (bytes : Bytes) : (b.extend bytes).code = b.code := by
  rw [extend_eq]

theorem validated_extend (b : DirectiveBuffer) (bytes : Bytes) :
    (b.extend bytes).validated = b.validated := by
  rw [extend_eq]

/-- **No more is held than the limit allows.** -/
def Fits (b : DirectiveBuffer) : Prop :=
  b.data.size ≤ b.limit

theorem Fits.extend {b : DirectiveBuffer} (h : b.Fits) (bytes : Bytes) : (b.extend bytes).Fits := by
  unfold DirectiveBuffer.extend
  split
  · exact h
  · split
    · exact Nat.zero_le _
    · next hfits => simpa [Fits] using hfits

theorem Fits.extend_nil {b : DirectiveBuffer} (h : b.Fits) : b.extend [] = b := by
  unfold DirectiveBuffer.extend
  split
  · rfl
  · have hfits : ¬b.limit < b.data.size + ([] : Bytes).length := Nat.not_lt.mpr h
    rw [if_neg hfits]
    simp

/-- Whether there is something in a payload that has ended: then it is told, and the screen before
it. -/
def isTold (b : DirectiveBuffer) : Bool :=
  b.code = .payload && (b.overflowed || !b.data.isEmpty)

/-- **All that came behind the opening**, in one piece: it is there, or there was too much of it. -/
theorem extend_opening (o : Opening) (cookie : String) (limit : Nat) (bytes : Bytes) :
    (o.buffer cookie limit).extend bytes =
      if limit < bytes.length then { o.buffer cookie limit with overflowed := true }
      else { o.buffer cookie limit with data := bytes.toArray } := by
  simp [Opening.buffer, DirectiveBuffer.extend]

end DirectiveBuffer

end GlassTty
