import GlassTty.Proofs.Escape.Feed

/-!
# Numbers inside a sequence

A parameter is written in decimal, and the parser reads it digit by digit. Of a number that a word
of sixty-four bits holds nothing is lost on the way: behind its digits it is the parameter in
progress (`GlassTty.Parser.feed_decimal`). The induction is on the number, with the last digit taken
off (`GlassTty.decimal_eq`).
-/

namespace GlassTty

theorem utf8Bytes_append (s t : String) : utf8Bytes (s ++ t) = utf8Bytes s ++ utf8Bytes t := by
  rw [utf8Bytes, String.toList_append, Utf8.encode, List.flatMap_append]
  rfl

/-- A number in decimal. -/
def decimal (n : Nat) : Bytes :=
  utf8Bytes (toString n)

/-- The byte of a digit. -/
def digitByte (d : Nat) : UInt8 :=
  UInt8.ofNat (0x30 + d)

theorem toNat_digitByte {d : Nat} (h : d < 10) : (digitByte d).toNat = 0x30 + d :=
  Utf8.toNat_byte (by omega)

theorem encodeChar_digitChar {d : Nat} (h : d < 10) :
    String.utf8EncodeChar d.digitChar = [digitByte d] := by
  have hchar : d.digitChar.toNat = 0x30 + d := Nat.toNat_digitChar_of_lt_ten h
  rw [Utf8.encodeChar_eq]
  dsimp only
  rw [hchar, if_pos (by omega), digitByte]

/-- **A number in decimal** is that of its tenth, if there is anything in it, and a last digit. -/
theorem decimal_eq (n : Nat) :
    decimal n = (if n < 10 then [] else decimal (n / 10)) ++ [digitByte (n % 10)] := by
  have hdigits : ∀ n, decimal n = (Nat.toDigits 10 n).flatMap String.utf8EncodeChar := by
    intro n
    change (String.ofList (Nat.toDigits 10 n)).toList.flatMap _ = _
    rw [String.toList_ofList]
  have hlast : String.utf8EncodeChar (n % 10).digitChar = [digitByte (n % 10)] :=
    encodeChar_digitChar (Nat.mod_lt n (by decide))
  rw [hdigits, Nat.toDigits_eq_if (by decide)]
  split
  · next hsmall =>
    rw [Nat.mod_eq_of_lt hsmall] at hlast ⊢
    rw [List.flatMap_singleton, hlast]
    rfl
  · rw [List.flatMap_append, List.flatMap_singleton, hlast, hdigits]

/-- A number has no more digits than tenths can be taken of it. -/
theorem length_decimal_le {n k : Nat} (hk : 0 < k) (h : n < Nat.pow 10 k) :
    (decimal n).length ≤ k := by
  induction k generalizing n with
  | zero => exact absurd hk (Nat.lt_irrefl 0)
  | succ k ih =>
    rw [decimal_eq]
    split
    · simp
    · next hlarge =>
      have hpos : 0 < k := by
        rcases Nat.eq_zero_or_pos k with rfl | hpos
        · exact absurd h hlarge
        · exact hpos
      have htenth : n / 10 < Nat.pow 10 k := Nat.div_lt_of_lt_mul (Nat.mul_comm _ 10 ▸ h)
      have hlength := ih hpos htenth
      rw [List.length_append, List.length_singleton]
      omega

namespace Parser

/-- A digit inside a control sequence goes on with the parameter. -/
theorem advance_digit (s : ControlSequence) {d : Nat} (hd : d < 10)
    (hroom : s.length < maxSequence) :
    (control s).advance (digitByte d) =
      (none, .control ({ s with length := s.length + 1 }.digit d)) := by
  change onControl s (digitByte d) = _
  unfold onControl
  dsimp only
  rw [if_neg (by omega), toNat_digitByte hd, if_pos ⟨by omega, by omega⟩, Nat.add_sub_cancel_left]

/-- **A number becomes the parameter in progress** if none of its digits has come yet. -/
theorem feed_decimal (s : ControlSequence) (hstart : s.current.getD 0 = 0) {n : Nat}
    (hn : n ≤ ControlSequence.maxParam)
    (hroom : s.length + (decimal n).length ≤ maxSequence) :
    (control s).feed (decimal n) =
      ([], .control { s with current := some n, length := s.length + (decimal n).length }) := by
  induction n using Nat.strongRecOn with
  | ind n ih =>
    have hdigit : n % 10 < 10 := Nat.mod_lt n (by decide)
    rw [decimal_eq] at hroom ⊢
    split at hroom
    · next hsmall =>
      rw [List.nil_append, List.length_singleton] at hroom
      rw [if_pos hsmall, List.nil_append, feed, advance_digit s hdigit (by omega)]
      have hvalue : min (0 * 10 + n % 10) ControlSequence.maxParam = n := by omega
      simp only [ControlSequence.digit, hstart, hvalue]
      rfl
    · next hlarge =>
      rw [List.length_append, List.length_singleton] at hroom
      have htenth := ih (n / 10) (by omega) (by omega) (by omega)
      have hvalue : min (n / 10 * 10 + n % 10) ControlSequence.maxParam = n := by omega
      rw [if_neg hlarge, feed_append, htenth]
      dsimp only
      rw [feed, advance_digit _ hdigit (by dsimp only; omega)]
      simp only [ControlSequence.digit, Option.getD_some, hvalue, List.length_append,
        List.length_singleton]
      rfl

end Parser

end GlassTty
