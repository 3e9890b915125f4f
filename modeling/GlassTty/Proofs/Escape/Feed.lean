import GlassTty.Escape.Parser
import Mathlib.Data.List.Basic
import Mathlib.Data.List.Induction

/-!
# Characters that come byte by byte

The encoding of a character is one byte, or a lead byte and continuation bytes behind it. Fed to the
parser between sequences, all of its bytes but the last complete nothing, and the last one prints
the character and leaves the parser as it was (`GlassTty.Parser.feed_encodeChar`). The only
characters for which this does not hold are the controls below the space, which mean something else.
-/

namespace GlassTty

namespace Utf8

/-! ### The encoding of a character -/

/-- A list of bytes that can be a sequence of more than one byte: its first byte announces as many
bytes as there are, and the others continue it. -/
structure IsSequence (lead : UInt8) (rest : Bytes) : Prop where
  length : seqLength? lead = some (rest.length + 1)
  continues : ∀ byte ∈ rest, isContinuation byte = true
  nonempty : rest ≠ []

theorem le_toNat_of_isContinuation {byte : UInt8} (h : isContinuation byte = true) :
    0x80 ≤ byte.toNat := by
  rw [isContinuation, Bool.and_eq_true, decide_eq_true_eq] at h
  exact h.1

/-- No sequence begins with a byte of ASCII, which is a character of its own. -/
theorem IsSequence.le_toNat_lead {lead : UInt8} {rest : Bytes} (h : IsSequence lead rest) :
    0x80 ≤ lead.toNat := by
  have hrest : rest.length ≠ 0 := by simpa using h.nonempty
  have hlength := h.length
  by_contra hlt
  rw [seqLength?, if_pos (by omega), Option.some.injEq] at hlength
  omega

theorem toNat_byte {n : Nat} (h : n < 0x100) : (UInt8.ofNat n).toNat = n := by
  rw [UInt8.toNat_ofNat', Nat.mod_eq_of_lt h]

/-- Where a number has a character, that is the number of the character. -/
theorem toNat_char {n : Nat} (h : n.isValidChar) : (Char.ofNat n).toNat = n := by
  rw [Char.ofNat, dif_pos h]
  rfl

theorem isContinuation_byte (n : Nat) : isContinuation (UInt8.ofNat (n % 0x40 + 0x80)) = true := by
  have hn : (UInt8.ofNat (n % 0x40 + 0x80)).toNat = n % 0x40 + 0x80 := toNat_byte (by omega)
  rw [isContinuation, hn, Bool.and_eq_true, decide_eq_true_eq, decide_eq_true_eq]
  omega

theorem payload_byte (n : Nat) : payload (UInt8.ofNat (n % 0x40 + 0x80)) = n % 0x40 := by
  have hn : (UInt8.ofNat (n % 0x40 + 0x80)).toNat = n % 0x40 + 0x80 := toNat_byte (by omega)
  unfold payload
  omega

/-- The encoding of a character, with its number in place of the character. -/
theorem encodeChar_eq (c : Char) :
    String.utf8EncodeChar c =
      let n := c.toNat
      let tail (n : Nat) := UInt8.ofNat (n % 0x40 + 0x80)
      if n ≤ 0x7F then [UInt8.ofNat n]
      else if n ≤ 0x7FF then [UInt8.ofNat (n / 0x40 % 0x20 + 0xC0), tail n]
      else if n ≤ 0xFFFF then
        [UInt8.ofNat (n / 0x1000 % 0x10 + 0xE0), tail (n / 0x40), tail n]
      else
        [UInt8.ofNat (n / 0x40000 % 0x08 + 0xF0), tail (n / 0x1000), tail (n / 0x40), tail n] :=
  rfl

theorem sequence_two {n : Nat} (h : 0x80 ≤ n) (h' : n ≤ 0x7FF) :
    seqLength? (UInt8.ofNat (n / 0x40 % 0x20 + 0xC0)) = some 2 ∧
      charOf? [UInt8.ofNat (n / 0x40 % 0x20 + 0xC0), UInt8.ofNat (n % 0x40 + 0x80)] =
        some (Char.ofNat n) := by
  have hlead : (UInt8.ofNat (n / 0x40 % 0x20 + 0xC0)).toNat = n / 0x40 + 0xC0 := by
    rw [toNat_byte (by omega)]
    omega
  have hlength : seqLength? (UInt8.ofNat (n / 0x40 % 0x20 + 0xC0)) = some 2 := by
    rw [seqLength?, hlead]
    rw [if_neg (by omega), if_pos (by omega)]
  have hsecond : allowsSecond (UInt8.ofNat (n / 0x40 % 0x20 + 0xC0))
      (UInt8.ofNat (n % 0x40 + 0x80)) = true := by
    rw [allowsSecond, secondRange, hlead, toNat_byte (by omega)]
    simp only [Bool.and_eq_true, decide_eq_true_eq]
    split <;> dsimp only <;> omega
  refine ⟨hlength, ?_⟩
  rw [charOf?, if_pos ⟨hlength, hsecond⟩, payload_byte, hlead]
  congr 2
  omega

theorem sequence_three {n : Nat} (h : 0x800 ≤ n) (h' : n ≤ 0xFFFF) (hchar : n.isValidChar) :
    seqLength? (UInt8.ofNat (n / 0x1000 % 0x10 + 0xE0)) = some 3 ∧
      charOf? [UInt8.ofNat (n / 0x1000 % 0x10 + 0xE0), UInt8.ofNat (n / 0x40 % 0x40 + 0x80),
        UInt8.ofNat (n % 0x40 + 0x80)] = some (Char.ofNat n) := by
  have hlead : (UInt8.ofNat (n / 0x1000 % 0x10 + 0xE0)).toNat = n / 0x1000 + 0xE0 := by
    rw [toNat_byte (by omega)]
    omega
  have hlength : seqLength? (UInt8.ofNat (n / 0x1000 % 0x10 + 0xE0)) = some 3 := by
    rw [seqLength?, hlead]
    rw [if_neg (by omega), if_neg (by omega), if_pos (by omega)]
  have hsecond : allowsSecond (UInt8.ofNat (n / 0x1000 % 0x10 + 0xE0))
      (UInt8.ofNat (n / 0x40 % 0x40 + 0x80)) = true := by
    rw [allowsSecond, secondRange, hlead, toNat_byte (by omega)]
    simp only [Bool.and_eq_true, decide_eq_true_eq]
    unfold Nat.isValidChar at hchar
    split <;> dsimp only <;> omega
  refine ⟨hlength, ?_⟩
  rw [charOf?, if_pos ⟨hlength, hsecond, isContinuation_byte n⟩, payload_byte, payload_byte, hlead]
  congr 2
  omega

theorem sequence_four {n : Nat} (h : 0x10000 ≤ n) (hchar : n.isValidChar) :
    seqLength? (UInt8.ofNat (n / 0x40000 % 0x08 + 0xF0)) = some 4 ∧
      charOf? [UInt8.ofNat (n / 0x40000 % 0x08 + 0xF0), UInt8.ofNat (n / 0x1000 % 0x40 + 0x80),
        UInt8.ofNat (n / 0x40 % 0x40 + 0x80), UInt8.ofNat (n % 0x40 + 0x80)] =
          some (Char.ofNat n) := by
  unfold Nat.isValidChar at hchar
  have hlead : (UInt8.ofNat (n / 0x40000 % 0x08 + 0xF0)).toNat = n / 0x40000 + 0xF0 := by
    rw [toNat_byte (by omega)]
    omega
  have hlength : seqLength? (UInt8.ofNat (n / 0x40000 % 0x08 + 0xF0)) = some 4 := by
    rw [seqLength?, hlead]
    rw [if_neg (by omega), if_neg (by omega), if_neg (by omega), if_pos (by omega)]
  have hsecond : allowsSecond (UInt8.ofNat (n / 0x40000 % 0x08 + 0xF0))
      (UInt8.ofNat (n / 0x1000 % 0x40 + 0x80)) = true := by
    rw [allowsSecond, secondRange, hlead, toNat_byte (by omega)]
    simp only [Bool.and_eq_true, decide_eq_true_eq]
    split <;> dsimp only <;> omega
  refine ⟨hlength, ?_⟩
  rw [charOf?, if_pos ⟨hlength, hsecond, isContinuation_byte _, isContinuation_byte n⟩,
    payload_byte, payload_byte, payload_byte, hlead]
  congr 2
  omega

/-- **The encoding of a character that is not ASCII** is a sequence, and that of this character. -/
theorem encodeChar_eq_sequence {c : Char} (h : 0x80 ≤ c.toNat) :
    ∃ lead rest, String.utf8EncodeChar c = lead :: rest ∧ IsSequence lead rest ∧
      charOf? (lead :: rest) = some c := by
  have hchar : c.toNat.isValidChar := c.valid
  rw [encodeChar_eq]
  dsimp only
  rw [if_neg (by omega)]
  split
  · next h₂ =>
    obtain ⟨hlength, hof⟩ := sequence_two h h₂
    rw [Char.ofNat_toNat] at hof
    refine ⟨_, _, rfl, ⟨hlength, ?_, List.cons_ne_nil _ _⟩, hof⟩
    rintro byte (_ | ⟨_, ⟨⟩⟩)
    exact isContinuation_byte _
  · split
    · next h₂ h₃ =>
      obtain ⟨hlength, hof⟩ := sequence_three (by omega) h₃ hchar
      rw [Char.ofNat_toNat] at hof
      refine ⟨_, _, rfl, ⟨hlength, ?_, List.cons_ne_nil _ _⟩, hof⟩
      rintro byte (_ | ⟨_, _ | ⟨_, ⟨⟩⟩⟩) <;> exact isContinuation_byte _
    · next h₂ h₃ =>
      obtain ⟨hlength, hof⟩ := sequence_four (by omega) hchar
      rw [Char.ofNat_toNat] at hof
      refine ⟨_, _, rfl, ⟨hlength, ?_, List.cons_ne_nil _ _⟩, hof⟩
      rintro byte (_ | ⟨_, _ | ⟨_, _ | ⟨_, ⟨⟩⟩⟩⟩) <;> exact isContinuation_byte _

/-! ### Sequences in the decoder -/

namespace Decoder

/-- The lead of a sequence opens it. -/
theorem push_lead {lead : UInt8} {rest : Bytes} (h : IsSequence lead rest) :
    ({} : Decoder).push lead = (none, { pending := [lead] }) := by
  have hrest : rest.length ≠ 0 := by simpa using h.nonempty
  unfold push start
  rw [h.length]
  dsimp only
  split <;> simp_all

/-- A continuation byte with more to come is kept. -/
theorem push_more {lead byte : UInt8} {before after : Bytes}
    (h : IsSequence lead (before ++ byte :: after)) (hafter : after ≠ []) :
    ({ pending := lead :: before } : Decoder).push byte =
      (none, { pending := lead :: (before ++ [byte]) }) := by
  have hbyte : isContinuation byte = true := h.continues byte (by simp)
  have hlength : after.length ≠ 0 := by simpa using hafter
  unfold push
  dsimp only
  rw [if_pos hbyte, h.length, if_neg (by simp; omega)]
  rfl

/-- The last byte of a sequence completes it. -/
theorem push_last {lead byte : UInt8} {before : Bytes} (h : IsSequence lead (before ++ [byte])) :
    ({ pending := lead :: before } : Decoder).push byte =
      (charOf? (lead :: (before ++ [byte])), {}) := by
  have hbyte : isContinuation byte = true := h.continues byte (by simp)
  unfold push
  dsimp only
  rw [if_pos hbyte, h.length, if_pos (by simp)]
  rfl

end Decoder

end Utf8

namespace Parser

open Utf8

/-! ### Characters in the parser -/

/-- The actions of two byte strings one after the other. -/
theorem feed_append (p : Parser) (x y : Bytes) :
    p.feed (x ++ y) =
      ((p.feed x).1 ++ ((p.feed x).2.feed y).1, ((p.feed x).2.feed y).2) := by
  induction x generalizing p with
  | nil => rfl
  | cons byte x ih =>
    simp only [List.cons_append, feed]
    rw [ih]
    simp only [List.append_assoc]

theorem advance_ground_of_le {decoder : Decoder} {byte : UInt8} (h : 0x80 ≤ byte.toNat) :
    (ground decoder).advance byte =
      ((decoder.push byte).1.map .print, .ground (decoder.push byte).2) := by
  rw [advance, onGround, if_pos h]

/-- A character of ASCII that is no control is printed at once. -/
theorem advance_start_of_lt {c : Char} (h : 0x20 ≤ c.toNat) (h' : c.toNat < 0x80) :
    start.advance (UInt8.ofNat c.toNat) = (some (.print c), start) := by
  have hbyte : (UInt8.ofNat c.toNat).toNat = c.toNat := toNat_byte (by omega)
  -- the bytes that print nothing are all below the space
  have hne : ∀ control : UInt8, control.toNat < 0x20 → UInt8.ofNat c.toNat ≠ control := by
    rintro control hlt rfl
    omega
  have hcontrol : Action.ofControl? (UInt8.ofNat c.toNat) = none := by
    unfold Action.ofControl?
    rw [hbyte]
    split <;> first | omega | rfl
  have hsilent : isSilent (UInt8.ofNat c.toNat) = false := by
    simp only [isSilent, Bool.or_eq_false_iff, decide_eq_false_iff_not]
    exact ⟨⟨⟨hne _ (by decide), hne _ (by decide)⟩, hne _ (by decide)⟩, hne _ (by decide)⟩
  rw [start, advance, onGround, if_neg (by omega), if_neg (hne esc (by decide)), hcontrol, hsilent,
    hbyte, Char.ofNat_toNat]
  rfl

/-- The bytes of a sequence but the last complete nothing. -/
theorem feed_sequence {lead : UInt8} {before after : Bytes} (h : IsSequence lead (before ++ after))
    (hafter : after ≠ []) :
    start.feed (lead :: before) = ([], .ground { pending := lead :: before }) := by
  induction before using List.reverseRecOn generalizing after with
  | nil =>
    have hlead : 0x80 ≤ lead.toNat := h.le_toNat_lead
    rw [feed, start, advance_ground_of_le hlead, Decoder.push_lead h]
    rfl
  | append_singleton before byte ih =>
    rw [List.append_assoc, List.singleton_append] at h
    have hbyte : 0x80 ≤ byte.toNat := le_toNat_of_isContinuation (h.continues byte (by simp))
    -- the induction is on the end, as what is pending grows there
    rw [← List.cons_append, feed_append, ih h (List.cons_ne_nil _ _), feed,
      advance_ground_of_le hbyte, Decoder.push_more h hafter]
    rfl

/-- **A character is printed by the last byte of its encoding.** -/
theorem feed_encodeChar {c : Char} (h : 0x20 ≤ c.toNat) :
    ∃ lead byte p, String.utf8EncodeChar c = lead ++ [byte] ∧ start.feed lead = ([], p) ∧
      p.advance byte = (some (.print c), start) := by
  rcases Nat.lt_or_ge c.toNat 0x80 with hlt | hge
  · refine ⟨[], UInt8.ofNat c.toNat, start, ?_, rfl, advance_start_of_lt h hlt⟩
    rw [encodeChar_eq]
    exact if_pos (by omega)
  · obtain ⟨lead, rest, hencode, hsequence, hof⟩ := encodeChar_eq_sequence hge
    obtain ⟨before, byte, rfl⟩ := (List.eq_nil_or_concat' rest).resolve_left hsequence.nonempty
    have hbyte : 0x80 ≤ byte.toNat :=
      le_toNat_of_isContinuation (hsequence.continues byte (by simp))
    refine ⟨lead :: before, byte, _, hencode, feed_sequence hsequence (List.cons_ne_nil _ _), ?_⟩
    rw [advance_ground_of_le hbyte, Decoder.push_last hsequence, hof]
    rfl

end Parser

end GlassTty
