import GlassTty.Text.Base64
import Mathlib.Tactic.SplitIfs

/-!
# Base64 texts and the byte strings they stand for

Writing and reading Base64 are inverse to each other: what is written is read back, and a text that
is read is the written form of what it is read as (`GlassTty.Base64.decode?_eq_some_iff`).

Both go group by group. A group of four digits stands for three bytes, and only the last may have
the padding in place of one or two of them, so there are three group lemmas for each direction, one
for each number of bytes.
-/

namespace GlassTty.Base64

/-! ### Digits -/

theorem value?_digit {n : Nat} (h : n < 64) : value? (digit n) = some n := by
  have hall : ∀ n : Fin 64, value? (digit n) = some n.val := by decide +kernel
  exact hall ⟨n, h⟩

theorem digit_ne_pad {n : Nat} (h : n < 64) : digit n ≠ '=' := by
  have hall : ∀ n : Fin 64, digit n ≠ '=' := by decide +kernel
  exact hall ⟨n, h⟩

theorem of_value? {c : Char} {n : Nat} (h : value? c = some n) : n < 64 ∧ c = digit n := by
  obtain ⟨hlt, hchar, -⟩ := List.findIdx?_eq_some_iff_getElem.mp h
  refine ⟨hlt, ?_⟩
  rw [digit, List.getElem?_eq_getElem hlt, Option.getD_some]
  exact (beq_iff_eq.mp hchar).symm

theorem toNat_byte {n : Nat} (h : n < 256) : (byte n).toNat = n := by
  rw [byte, UInt8.toNat_ofNat', Nat.mod_eq_of_lt h]

theorem byte_eq {n : Nat} (b : UInt8) (h : n = b.toNat) : byte n = b := by
  rw [h, byte, UInt8.ofNat_toNat]

/-! ### Groups -/

section Groups

variable {x y z w : Nat}

/-- Four digits are three bytes. -/
theorem decodeLast?_full (hx : x < 64) (hy : y < 64) (hz : z < 64) (hw : w < 64) :
    decodeLast? (digit x) (digit y) (digit z) (digit w) =
      some [byte (x * 4 + y / 0x10), byte (y % 0x10 * 0x10 + z / 4), byte (z % 4 * 0x40 + w)] := by
  simp [decodeLast?, value?_digit, digit_ne_pad, hx, hy, hz, hw]

/-- Three digits and the padding are two bytes. -/
theorem decodeLast?_two (hx : x < 64) (hy : y < 64) (hz : z < 64) (hspare : z % 4 = 0) :
    decodeLast? (digit x) (digit y) (digit z) '=' =
      some [byte (x * 4 + y / 0x10), byte (y % 0x10 * 0x10 + z / 4)] := by
  simp [decodeLast?, value?_digit, digit_ne_pad, hx, hy, hz, hspare]

/-- Two digits and the padding twice are one byte. -/
theorem decodeLast?_one (hx : x < 64) (hy : y < 64) (hspare : y % 0x10 = 0) :
    decodeLast? (digit x) (digit y) '=' '=' = some [byte (x * 4 + y / 0x10)] := by
  simp [decodeLast?, value?_digit, hx, hy, hspare]

/-- Written, three bytes are the four digits they were read from. -/
theorem encode_full (hx : x < 64) (hy : y < 64) (hz : z < 64) (hw : w < 64) :
    encode [byte (x * 4 + y / 0x10), byte (y % 0x10 * 0x10 + z / 4), byte (z % 4 * 0x40 + w)] =
      [digit x, digit y, digit z, digit w] := by
  have hsum : (x * 4 + y / 0x10) * 0x10000 + (y % 0x10 * 0x10 + z / 4) * 0x100 +
      (z % 4 * 0x40 + w) = x * 0x40000 + y * 0x1000 + z * 0x40 + w := by omega
  have hx' : (x * 0x40000 + y * 0x1000 + z * 0x40 + w) / 0x40000 = x := by omega
  have hy' : (x * 0x40000 + y * 0x1000 + z * 0x40 + w) / 0x1000 % 0x40 = y := by omega
  have hz' : (x * 0x40000 + y * 0x1000 + z * 0x40 + w) / 0x40 % 0x40 = z := by omega
  have hw' : (x * 0x40000 + y * 0x1000 + z * 0x40 + w) % 0x40 = w := by omega
  rw [encode, toNat_byte (by omega), toNat_byte (by omega), toNat_byte (by omega), hsum, hx', hy',
    hz', hw', encode]

theorem encode_two (hx : x < 64) (hy : y < 64) (hz : z < 64) (hspare : z % 4 = 0) :
    encode [byte (x * 4 + y / 0x10), byte (y % 0x10 * 0x10 + z / 4)] =
      [digit x, digit y, digit z, '='] := by
  have hx' : ((x * 4 + y / 0x10) * 0x100 + (y % 0x10 * 0x10 + z / 4)) / 0x400 = x := by omega
  have hy' : ((x * 4 + y / 0x10) * 0x100 + (y % 0x10 * 0x10 + z / 4)) / 0x10 % 0x40 = y := by omega
  have hz' : ((x * 4 + y / 0x10) * 0x100 + (y % 0x10 * 0x10 + z / 4)) % 0x10 * 4 = z := by omega
  rw [encode, toNat_byte (by omega), toNat_byte (by omega), hx', hy', hz']

theorem encode_one (hx : x < 64) (hy : y < 64) (hspare : y % 0x10 = 0) :
    encode [byte (x * 4 + y / 0x10)] = [digit x, digit y, '=', '='] := by
  have hx' : (x * 4 + y / 0x10) / 4 = x := by omega
  have hy' : (x * 4 + y / 0x10) % 4 * 0x10 = y := by omega
  rw [encode, toNat_byte (by omega), hx', hy']

end Groups

/-- **A group that is read is the written form** of one to three bytes. -/
theorem eq_encode_of_decodeLast? {a b c d : Char} {group : Bytes}
    (h : decodeLast? a b c d = some group) : [a, b, c, d] = encode group := by
  obtain ⟨x, hx, hrest⟩ := Option.bind_eq_some_iff.mp h
  obtain ⟨y, hy, hread⟩ := Option.bind_eq_some_iff.mp hrest
  obtain ⟨hxlt, rfl⟩ := of_value? hx
  obtain ⟨hylt, rfl⟩ := of_value? hy
  split_ifs at hread with hc hspare hd
  · -- one byte
    cases hread
    rw [encode_one hxlt hylt hspare.2, hc, hspare.1]
  · -- two bytes
    obtain ⟨z, hz, htwo⟩ := Option.bind_eq_some_iff.mp hread
    obtain ⟨hzlt, rfl⟩ := of_value? hz
    obtain ⟨hspare, hgroup⟩ := Option.ite_none_right_eq_some.mp htwo
    cases hgroup
    rw [encode_two hxlt hylt hzlt hspare, hd]
  · -- three bytes
    obtain ⟨z, hz, hthree⟩ := Option.bind_eq_some_iff.mp hread
    obtain ⟨w, hw, hgroup⟩ := Option.bind_eq_some_iff.mp hthree
    obtain ⟨hzlt, rfl⟩ := of_value? hz
    obtain ⟨hwlt, rfl⟩ := of_value? hw
    cases hgroup
    rw [encode_full hxlt hylt hzlt hwlt]

/-! ### Texts -/

/-- A group of three bytes comes before whatever else is read. -/
theorem decode?_cons {a b c d : Char} {group : Bytes} (h : decodeLast? a b c d = some group)
    (hfull : group.length = 3) (text : List Char) :
    decode? (a :: b :: c :: d :: text) = (decode? text).map (group ++ ·) := by
  cases text with
  | nil => simp [decode?, h]
  | cons e text => simp [decode?, h, hfull]

theorem encode_append {group : Bytes} (hfull : group.length = 3) (rest : Bytes) :
    encode (group ++ rest) = encode group ++ encode rest := by
  match group, hfull with
  | [_, _, _], _ => rfl

/-- **What is written is read back.** -/
theorem decode?_encode (bytes : Bytes) : decode? (encode bytes) = some bytes := by
  induction bytes using encode.induct with
  | case1 a b c rest ih =>
    have ha := a.toNat_lt
    have hb := b.toNat_lt
    have hc := c.toNat_lt
    rw [encode, decode?_cons (decodeLast?_full (by omega) (by omega) (by omega) (by omega)) rfl, ih,
      Option.map_some, byte_eq a (by omega), byte_eq b (by omega), byte_eq c (by omega)]
    rfl
  | case2 a b =>
    have ha := a.toNat_lt
    have hb := b.toNat_lt
    rw [encode, decode?, decodeLast?_two (by omega) (by omega) (by omega) (by omega),
      byte_eq a (by omega), byte_eq b (by omega)]
  | case3 a =>
    have ha := a.toNat_lt
    rw [encode, decode?, decodeLast?_one (by omega) (by omega) (by omega), byte_eq a (by omega)]
  | case4 => rfl

/-- **Nothing is read but written forms.** -/
theorem eq_encode_of_decode? {text : List Char} {bytes : Bytes} (h : decode? text = some bytes) :
    text = encode bytes := by
  fun_induction decode? text generalizing bytes with
  | case1 => cases h; rfl
  | case2 a b c d => exact eq_encode_of_decodeLast? h
  | case3 a b c d rest hrest ih =>
    obtain ⟨group, hgroup, hread⟩ := Option.bind_eq_some_iff.mp h
    obtain ⟨hfull, hmore⟩ := Option.ite_none_right_eq_some.mp hread
    obtain ⟨more, hsome, rfl⟩ := Option.map_eq_some_iff.mp hmore
    rw [encode_append hfull, ← eq_encode_of_decodeLast? hgroup, ← ih hsome]
    rfl
  | case4 => cases h

/-- **A text is read as the byte string that it is the written form of**, and it has no other
reading. -/
theorem decode?_eq_some_iff {text : List Char} {bytes : Bytes} :
    decode? text = some bytes ↔ text = encode bytes := by
  refine ⟨eq_encode_of_decode?, ?_⟩
  rintro rfl
  exact decode?_encode bytes

end GlassTty.Base64
