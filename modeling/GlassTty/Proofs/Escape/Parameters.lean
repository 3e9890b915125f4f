import GlassTty.Proofs.Escape.Decimal
import Mathlib.Data.Nat.Digits.Defs
import Mathlib.Tactic.Ring

/-!
# Control sequences and their grammar

A control sequence is an escape and a bracket, perhaps a private marker, a text of digits and
semicolons, and a final byte. The text names the parameters: it is divided at its semicolons, and
each field is a number in decimal, zero if it is empty
(`GlassTty.ControlSequence.parametersOf`). A text that is empty names none.

The parser does not divide anything. It has the parameters that have ended and one in progress,
which is there as soon as a byte of the text has come, and which a semicolon ends and opens again.
So from the first byte on what it holds is what the text up to there names
(`GlassTty.Parser.feed_parameters`, with the number that the field in progress begins with), and the
action of the whole is the one that its final byte, its marker and those parameters name
(`GlassTty.Parser.control_sequence_read`).

Numbers too great for a word of sixty-four bits count as the greatest one at once, digit by digit,
and not just at the end of a field; it comes to the same, as no digit makes a number smaller
(`GlassTty.ControlSequence.foldl_joinDigit`).
-/

namespace GlassTty

namespace ControlSequence

/-! ### The parameters of a text -/

/-- The semicolon between two parameters. -/
def semicolon : UInt8 := 0x3B

/-- Whether a byte is a digit. -/
def IsDigit (byte : UInt8) : Prop :=
  0x30 ≤ byte.toNat ∧ byte.toNat ≤ 0x39

instance (byte : UInt8) : Decidable (IsDigit byte) :=
  inferInstanceAs (Decidable (_ ∧ _))

/-- The number that digits stand for, in decimal. -/
def numberOf (digits : Bytes) : Nat :=
  Nat.ofDigits 10 (digits.reverse.map fun byte => byte.toNat - 0x30)

/-- **The parameters that a text names.** -/
def parametersOf (text : Bytes) : List Nat :=
  if text = [] then []
  else (text.splitOn semicolon).map fun field => min (numberOf field) maxParam

theorem numberOf_append_singleton (digits : Bytes) (byte : UInt8) :
    numberOf (digits ++ [byte]) = numberOf digits * 10 + (byte.toNat - 0x30) := by
  rw [numberOf, List.reverse_append, List.reverse_singleton, List.singleton_append, List.map_cons,
    Nat.ofDigits_cons, numberOf]
  ring

/-- A digit joins a number. -/
def joinDigit (value : Nat) (byte : UInt8) : Nat :=
  min (value * 10 + (byte.toNat - 0x30)) maxParam

/-- **Digit by digit** the number comes out that the digits stand for. -/
theorem foldl_joinDigit (field : Bytes) :
    field.foldl joinDigit 0 = min (numberOf field) maxParam := by
  induction field using List.reverseRecOn with
  | nil => rfl
  | append_singleton digits byte ih =>
    rw [List.foldl_append, ih, numberOf_append_singleton, List.foldl_cons, List.foldl_nil,
      joinDigit]
    omega

/-- The parameters that a text names behind one that is in progress. -/
def parametersFrom (value : Nat) (text : Bytes) : List Nat :=
  match text.splitOn semicolon with
  | [] => []
  | field :: fields => field.foldl joinDigit value :: fields.map (·.foldl joinDigit 0)

theorem parametersFrom_semicolon (value : Nat) (text : Bytes) :
    parametersFrom value (semicolon :: text) = value :: parametersFrom 0 text := by
  obtain ⟨field, fields, hfields⟩ := List.exists_cons_of_ne_nil (List.splitOn_ne_nil semicolon text)
  simp [parametersFrom, List.splitOn_cons_eq_if_modifyHead, hfields]

theorem parametersFrom_of_ne {byte : UInt8} (h : byte ≠ semicolon) (value : Nat) (text : Bytes) :
    parametersFrom value (byte :: text) = parametersFrom (joinDigit value byte) text := by
  obtain ⟨field, fields, hfields⟩ := List.exists_cons_of_ne_nil (List.splitOn_ne_nil semicolon text)
  simp [parametersFrom, List.splitOn_cons_eq_if_modifyHead, hfields, h]

/-- From nothing on, a text names what it names. -/
theorem parametersFrom_zero {text : Bytes} (h : text ≠ []) :
    parametersFrom 0 text = parametersOf text := by
  obtain ⟨field, fields, hfields⟩ := List.exists_cons_of_ne_nil (List.splitOn_ne_nil semicolon text)
  simp [parametersFrom, parametersOf, h, hfields, foldl_joinDigit]

/-! ### Parameters that are written out -/

theorem exists_digitByte {byte : UInt8} (h : IsDigit byte) : ∃ d < 10, digitByte d = byte := by
  obtain ⟨hlow, hhigh⟩ := h
  refine ⟨byte.toNat - 0x30, by omega, ?_⟩
  rw [digitByte, Nat.add_sub_cancel' hlow, UInt8.ofNat_toNat]

theorem isDigit_digitByte {d : Nat} (h : d < 10) : IsDigit (digitByte d) := by
  rw [IsDigit, toNat_digitByte h]
  omega

theorem ne_semicolon {byte : UInt8} (h : IsDigit byte) : byte ≠ semicolon := by
  rintro rfl
  revert h
  decide

/-- A number in decimal is made of digits, and it is the number that they stand for. -/
theorem decimal_digits (n : Nat) :
    (∀ byte ∈ decimal n, IsDigit byte) ∧ numberOf (decimal n) = n := by
  induction n using Nat.strongRecOn with
  | ind n ih =>
    have hlast : n % 10 < 10 := Nat.mod_lt n (by decide)
    have hvalue : (digitByte (n % 10)).toNat - 0x30 = n % 10 := by
      rw [toNat_digitByte hlast]
      omega
    rw [decimal_eq, numberOf_append_singleton, hvalue, List.forall_mem_append,
      List.forall_mem_singleton]
    split
    · next hsmall =>
      exact ⟨⟨by simp, isDigit_digitByte hlast⟩, by simp only [numberOf]; simpa using hsmall⟩
    · next hlarge =>
      obtain ⟨hdigits, hnumber⟩ := ih (n / 10) (by omega)
      exact ⟨⟨hdigits, isDigit_digitByte hlast⟩, by rw [hnumber]; omega⟩

/-- **Parameters written out**: each in decimal, with semicolons between them. -/
def written (params : List UInt64) : Bytes :=
  [semicolon].intercalate (params.map fun n => decimal n.toNat)

/-- Whether a byte may stand in the text of the parameters. -/
def IsParameter (byte : UInt8) : Prop :=
  IsDigit byte ∨ byte = semicolon

instance (byte : UInt8) : Decidable (IsParameter byte) :=
  inferInstanceAs (Decidable (_ ∨ _))

theorem isParameter_written (params : List UInt64) : ∀ byte ∈ written params, IsParameter byte := by
  induction params with
  | nil => exact fun _ h => absurd h List.not_mem_nil
  | cons n rest ih =>
    have hfirst : ∀ byte ∈ decimal n.toNat, IsParameter byte := fun byte h =>
      .inl ((decimal_digits n.toNat).1 byte h)
    cases rest with
    | nil =>
      have hwritten : written [n] = decimal n.toNat := by simp [written]
      rwa [hwritten]
    | cons m rest =>
      have hwritten : written (n :: m :: rest) =
          decimal n.toNat ++ semicolon :: written (m :: rest) := by
        simp [written]
      rw [hwritten, List.forall_mem_append, List.forall_mem_cons]
      exact ⟨hfirst, .inr rfl, ih⟩

/-- **Parameters that are written out are the ones that are named.** -/
theorem parametersOf_written (params : List UInt64) :
    parametersOf (written params) = params.map (·.toNat) := by
  have hfields : ∀ field ∈ params.map fun n => decimal n.toNat, semicolon ∉ field := by
    intro field hfield hmem
    obtain ⟨n, -, rfl⟩ := List.mem_map.mp hfield
    exact ne_semicolon ((decimal_digits n.toNat).1 _ hmem) rfl
  cases params with
  | nil => rfl
  | cons n rest =>
    have hsplit := List.splitOn_intercalate semicolon hfields (by simp)
    have hne : written (n :: rest) ≠ [] := by
      intro hempty
      rw [show [semicolon].intercalate _ = [] from hempty, List.splitOn_nil] at hsplit
      simp [decimal_eq n.toNat] at hsplit
    rw [parametersOf, if_neg hne, written, hsplit, List.map_map]
    refine List.map_congr_left fun m _ => ?_
    have hmax : m.toNat < 2 ^ 64 := m.toNat_lt
    rw [Function.comp, (decimal_digits m.toNat).2, maxParam]
    omega

end ControlSequence

namespace Parser

open ControlSequence

/-! ### The text in the parser -/

/-- A digit of the text joins the parameter in progress. -/
theorem advance_joinDigit (s : ControlSequence) {byte : UInt8} (h : IsDigit byte)
    (hroom : s.length < maxSequence) :
    (control s).advance byte =
      (none, .control { s with
        current := some (joinDigit (s.current.getD 0) byte), length := s.length + 1 }) := by
  obtain ⟨d, hd, rfl⟩ := exists_digitByte h
  rw [advance_digit s hd hroom, joinDigit, toNat_digitByte hd, Nat.add_sub_cancel_left]
  rfl

/-- A semicolon ends the parameter in progress. -/
theorem advance_semicolon (s : ControlSequence) (hroom : s.length < maxSequence) :
    (control s).advance semicolon =
      (none, .control { s with
        params := s.params ++ [s.current.getD 0], current := some 0, length := s.length + 1 }) := by
  change onControl s semicolon = _
  unfold onControl
  dsimp only
  rw [if_neg (by omega), if_neg (by decide), if_pos (by decide)]
  rfl

/-- **One byte of the text**, behind a parameter in progress. -/
theorem advance_parameter (s : ControlSequence) {value : Nat} (hvalue : s.current = some value)
    {byte : UInt8} (h : IsParameter byte) (hroom : s.length < maxSequence) :
    ∃ params current, (control s).advance byte = (none, .control { s with
        params, current := some current, length := s.length + 1 }) ∧
      ∀ text, params ++ parametersFrom current text =
        s.params ++ parametersFrom value (byte :: text) := by
  rcases h with hdigit | rfl
  · refine ⟨s.params, joinDigit value byte, ?_, fun text => ?_⟩
    · rw [advance_joinDigit s hdigit hroom, hvalue]
      rfl
    · rw [parametersFrom_of_ne (ne_semicolon hdigit)]
  · refine ⟨s.params ++ [value], 0, ?_, fun text => ?_⟩
    · rw [advance_semicolon s hroom, hvalue]
      rfl
    · rw [parametersFrom_semicolon, List.append_assoc, List.singleton_append]

/-- **The text behind a parameter in progress**: the parser holds what the text names from there. -/
theorem feed_parameters (s : ControlSequence) {value : Nat} (hvalue : s.current = some value)
    {text : Bytes} (htext : ∀ byte ∈ text, IsParameter byte)
    (hroom : s.length + text.length ≤ maxSequence) :
    ∃ params current, params ++ [current] = s.params ++ parametersFrom value text ∧
      (control s).feed text = ([], .control { s with
        params, current := some current, length := s.length + text.length }) := by
  induction text generalizing s value with
  | nil => exact ⟨s.params, value, rfl, by rw [feed, ← hvalue]; rfl⟩
  | cons byte text ih =>
    obtain ⟨hbyte, hrest⟩ := List.forall_mem_cons.mp htext
    rw [List.length_cons] at hroom
    obtain ⟨params, current, hadvance, hsame⟩ := advance_parameter s hvalue hbyte (by omega)
    obtain ⟨params', current', hparams, hfeed⟩ := ih
      { s with params, current := some current, length := s.length + 1 } rfl hrest
      (by dsimp only; omega)
    refine ⟨params', current', hparams.trans (hsame text), ?_⟩
    rw [feed, hadvance]
    dsimp only
    rw [hfeed, List.length_cons, Nat.add_assoc, Nat.add_comm 1]
    rfl

/-- **The whole text**, before anything but a marker. -/
theorem feed_text (s : ControlSequence) (hparams : s.params = []) (hcurrent : s.current = none)
    {text : Bytes} (htext : ∀ byte ∈ text, IsParameter byte)
    (hroom : s.length + text.length ≤ maxSequence) :
    ∃ params current, (control s).feed text =
        ([], .control { s with params, current, length := s.length + text.length }) ∧
      params ++ current.toList = parametersOf text := by
  cases text with
  | nil => exact ⟨[], none, by rw [feed, ← hparams, ← hcurrent]; rfl, rfl⟩
  | cons byte text =>
    -- the first byte opens a parameter if none is in progress
    let opened : ControlSequence := { s with current := some 0 }
    have hlt : s.length < maxSequence := by
      rw [List.length_cons] at hroom
      omega
    have hopened : (control s).advance byte = (control opened).advance byte := by
      rcases htext byte List.mem_cons_self with hdigit | rfl
      · rw [advance_joinDigit s hdigit hlt, advance_joinDigit opened hdigit hlt, hcurrent]
        rfl
      · rw [advance_semicolon s hlt, advance_semicolon opened hlt, hcurrent]
        rfl
    obtain ⟨params, current, hsame, hfeed⟩ := feed_parameters opened rfl htext hroom
    refine ⟨params, some current, ?_, ?_⟩
    · rw [feed, hopened]
      exact hfeed
    · rw [Option.toList_some, hsame, hparams, List.nil_append,
        parametersFrom_zero (List.cons_ne_nil _ _)]

/-! ### The whole sequence -/

/-- The character of a byte of ASCII. -/
def asciiChar (byte : UInt8) : Char :=
  Char.ofNat byte.toNat

theorem asciiChar_ne {byte : UInt8} {c : Char} (h : byte.toNat < 0x80)
    (hne : byte.toNat ≠ c.toNat) : Char.ofNat byte.toNat ≠ c := by
  rintro rfl
  exact hne (Utf8.toNat_char (Or.inl (by omega))).symm

/-- Whether a byte is a private marker. -/
def IsMarker (byte : UInt8) : Prop :=
  0x3C ≤ byte.toNat ∧ byte.toNat ≤ 0x3F

instance (byte : UInt8) : Decidable (IsMarker byte) :=
  inferInstanceAs (Decidable (_ ∧ _))

/-- Whether a byte ends a control sequence. -/
def IsFinal (byte : UInt8) : Prop :=
  0x40 ≤ byte.toNat ∧ byte.toNat ≤ 0x7E

instance (byte : UInt8) : Decidable (IsFinal byte) :=
  inferInstanceAs (Decidable (_ ∧ _))

/-- **The bytes of a control sequence**, up to its final one. -/
def unfinished (marker : Option UInt8) (text : Bytes) : Bytes :=
  esc :: 0x5B :: (marker.toList ++ text)

/-- A marker right behind the bracket is remembered. -/
theorem advance_marker {byte : UInt8} (h : IsMarker byte) :
    (control { length := 2 }).advance byte =
      (none, .control { marker := some (asciiChar byte), length := 3 }) := by
  obtain ⟨hlow, hhigh⟩ := h
  have hsemicolon : Char.ofNat byte.toNat ≠ ';' := asciiChar_ne (by omega) (by simp; omega)
  change onControl { length := 2 } byte = _
  unfold onControl
  dsimp only
  rw [if_neg (by decide), if_neg (by omega), if_neg hsemicolon, if_pos ⟨hlow, hhigh⟩]
  rfl

/-- **The sequence up to its final byte**: nothing is done, and the parser holds the marker and the
parameters. -/
theorem feed_unfinished (decoder : Utf8.Decoder) {marker : Option UInt8}
    (hmarker : ∀ byte ∈ marker, IsMarker byte) {text : Bytes}
    (htext : ∀ byte ∈ text, IsParameter byte)
    (hroom : (unfinished marker text).length ≤ maxSequence) :
    ∃ params current, (ground decoder).feed (unfinished marker text) =
        ([], .control
          { params := params
            current := current
            marker := marker.map asciiChar
            length := (unfinished marker text).length }) ∧
      params ++ current.toList = parametersOf text := by
  have hmarked : (ground decoder).feed (esc :: 0x5B :: marker.toList) =
      ([], .control { marker := marker.map asciiChar, length := 2 + marker.toList.length }) := by
    cases marker with
    | none => rfl
    | some byte =>
      have hbyte := advance_marker (hmarker byte rfl)
      change (control { length := 2 }).feed [byte] = _
      rw [feed, hbyte]
      rfl
  have hlength : (unfinished marker text).length = 2 + marker.toList.length + text.length := by
    simp [unfinished]
    omega
  obtain ⟨params, current, hfeed, hparams⟩ := feed_text
    { marker := marker.map asciiChar, length := 2 + marker.toList.length } rfl rfl htext
    (by dsimp only; omega)
  refine ⟨params, current, ?_, hparams⟩
  have happend : unfinished marker text = (esc :: 0x5B :: marker.toList) ++ text := rfl
  rw [hlength, happend, feed_append, hmarked, hfeed]
  rfl

/-- **The final byte** does what the sequence says. -/
theorem advance_final (s : ControlSequence) (hroom : s.length < maxSequence) {final : UInt8}
    (h : IsFinal final) : (control s).advance final = (s.action? (asciiChar final), start) := by
  obtain ⟨hlow, hhigh⟩ := h
  have hsemicolon : Char.ofNat final.toNat ≠ ';' := asciiChar_ne (by omega) (by simp; omega)
  have hcolon : Char.ofNat final.toNat ≠ ':' := asciiChar_ne (by omega) (by simp; omega)
  change onControl s final = _
  unfold onControl
  dsimp only
  rw [if_neg (by omega), if_neg (by omega), if_neg hsemicolon, if_neg (by omega),
    if_neg (by simp only [hcolon, or_false]; omega), if_pos ⟨hlow, hhigh⟩]
  rfl

/-- A sequence that has its greatest length is dropped with the next byte. -/
theorem advance_overlong (s : ControlSequence) (hfull : s.length = maxSequence) (byte : UInt8) :
    (control s).advance byte = (none, start) := by
  change onControl s byte = _
  unfold onControl
  dsimp only
  rw [if_pos (by omega)]

/-- **A sequence that is too long** is dropped with its first byte past the greatest length, and
nothing is done before. -/
theorem feed_overlong (decoder : Utf8.Decoder) {marker : Option UInt8}
    (hmarker : ∀ byte ∈ marker, IsMarker byte) {text : Bytes}
    (htext : ∀ byte ∈ text, IsParameter byte)
    (hlong : maxSequence ≤ (unfinished marker text).length) (final : UInt8) :
    (ground decoder).feed ((unfinished marker text ++ [final]).take (maxSequence + 1)) =
      ([], start) := by
  have hfits : (esc :: 0x5B :: marker.toList).length ≤ maxSequence := by
    cases marker <;> simp [maxSequence]
  -- what comes before that byte is an unfinished sequence of the greatest length
  let room := maxSequence - (esc :: 0x5B :: marker.toList).length
  have hbefore :
      (unfinished marker text).take maxSequence = unfinished marker (text.take room) := by
    change (esc :: 0x5B :: marker.toList ++ text).take maxSequence = _
    rw [List.take_append, List.take_of_length_le hfits]
    rfl
  have hfull : (unfinished marker (text.take room)).length = maxSequence := by
    rw [← hbefore, List.length_take, Nat.min_eq_left hlong]
  obtain ⟨params, current, hfeed, -⟩ := feed_unfinished decoder hmarker
    (fun byte h => htext byte (List.mem_of_mem_take h)) hfull.le
  have hlast : maxSequence < (unfinished marker text ++ [final]).length := by
    rw [List.length_append, List.length_singleton]
    omega
  rw [List.take_succ_eq_append_getElem hlast, List.take_append_of_le_length hlong, hbefore,
    feed_append, hfeed]
  dsimp only
  rw [feed, advance_overlong _ hfull]
  rfl

/-- **Control sequences are read by their grammar.** Between two sequences, perhaps inside a
character, let an escape and a bracket come, perhaps a private marker, a text of digits and
semicolons, and a final byte.

* If they are not too long, nothing is done before the final byte. With it comes the action, if
  any, that it, the marker and the parameters of the text name, and the parser is between
  sequences.
* So it is in particular for parameters that are written out, and none of them is changed then.
* If they are too long, the bytes up to the first one past the greatest length do nothing, and with
  that one the parser is between sequences. -/
theorem control_sequence_read (decoder : Utf8.Decoder) (marker : Option UInt8)
    (hmarker : ∀ byte ∈ marker, IsMarker byte) (final : UInt8) (hfinal : IsFinal final) :
    let action params := Action.ofSequence? (asciiChar final) (marker.map asciiChar) params
    (∀ text, (∀ byte ∈ text, IsParameter byte) →
      (unfinished marker text ++ [final]).length ≤ maxSequence →
      ∃ p, (ground decoder).feed (unfinished marker text) = ([], p) ∧
        p.advance final = (action (parametersOf text), start)) ∧
    (∀ params, (unfinished marker (written params) ++ [final]).length ≤ maxSequence →
      ∃ p, (ground decoder).feed (unfinished marker (written params)) = ([], p) ∧
        p.advance final = (action (params.map (·.toNat)), start)) ∧
    (∀ text, (∀ byte ∈ text, IsParameter byte) →
      maxSequence < (unfinished marker text ++ [final]).length →
      (ground decoder).feed ((unfinished marker text ++ [final]).take (maxSequence + 1)) =
        ([], start)) ∧
    start.isGround = true := by
  intro action
  have hread : ∀ text, (∀ byte ∈ text, IsParameter byte) →
      (unfinished marker text ++ [final]).length ≤ maxSequence →
      ∃ p, (ground decoder).feed (unfinished marker text) = ([], p) ∧
        p.advance final = (action (parametersOf text), start) := by
    intro text htext hlength
    rw [List.length_append, List.length_singleton] at hlength
    obtain ⟨params, current, hfeed, hparams⟩ :=
      feed_unfinished decoder hmarker htext (Nat.le_of_succ_le hlength)
    refine ⟨_, hfeed, (advance_final _ ?_ hfinal).trans ?_⟩
    · exact hlength
    · rw [action?, allParams, hparams]
      rfl
  refine ⟨hread, fun params hlength => ?_, fun text htext hlength => ?_, rfl⟩
  · have hwritten := hread _ (isParameter_written params) hlength
    rwa [parametersOf_written] at hwritten
  · rw [List.length_append, List.length_singleton] at hlength
    exact feed_overlong decoder hmarker htext (Nat.le_of_lt_succ hlength) final

/-- Inside a character, a mode is set with an empty parameter and with one that no word of
sixty-four bits holds; then with the greatest one that does. With three bytes more, the first
sequence is just too long, and its last byte means nothing. -/
theorem control_sequence_read_saturated :
    let decoder : Utf8.Decoder := { pending := [0xE2, 0x9C] }
    let marker : Option UInt8 := some 0x3F
    let final : UInt8 := 0x68
    let text := utf8Bytes "1155;;18446744073709551616"
    let long := utf8Bytes "1155;;;;;18446744073709551616"
    let greatest := 0xFFFFFFFFFFFFFFFF
    (((∀ byte ∈ marker, IsMarker byte) ∧ IsFinal final) ∧
      ((∀ byte ∈ text, IsParameter byte) ∧
        (unfinished marker text ++ [final]).length ≤ maxSequence) ∧
      (unfinished marker (written [47, 0xFFFFFFFFFFFFFFFF]) ++ [final]).length ≤ maxSequence ∧
      (∀ byte ∈ long, IsParameter byte) ∧
        (unfinished marker long ++ [final]).length = maxSequence + 1) ∧
    (∃ p, (ground decoder).feed (unfinished marker text) = ([], p) ∧
      p.advance final = (some (.setMode [1155, 0, greatest]), start)) ∧
    (∃ p, (ground decoder).feed (unfinished marker (written [47, 0xFFFFFFFFFFFFFFFF])) = ([], p) ∧
      p.advance final = (some (.setMode [47, greatest]), start)) ∧
    (ground decoder).feed (unfinished marker long ++ [final]) = ([], start) := by
  intro decoder marker final text long greatest
  have hmarker : ∀ byte ∈ marker, IsMarker byte := by decide +kernel
  have htext : ∀ byte ∈ text, IsParameter byte := by decide +kernel
  have hlong : ∀ byte ∈ long, IsParameter byte := by decide +kernel
  have hparams : parametersOf text = [1155, 0, greatest] := by decide +kernel
  have hfits : (unfinished marker text ++ [final]).length ≤ maxSequence := by decide
  have hfits' : (unfinished marker (written [47, 0xFFFFFFFFFFFFFFFF]) ++ [final]).length ≤
      maxSequence := by
    decide +kernel
  have hover : (unfinished marker long ++ [final]).length = maxSequence + 1 := by decide
  obtain ⟨hread, hwritten, hdropped, -⟩ :=
    control_sequence_read decoder marker hmarker final (by decide)
  refine ⟨⟨⟨hmarker, by decide⟩, ⟨htext, hfits⟩, hfits', hlong, hover⟩, ?_, ?_, ?_⟩
  · have haction := hread text htext hfits
    rw [hparams] at haction
    exact haction
  · exact hwritten _ hfits'
  · have hnothing := hdropped long hlong (by omega)
    rwa [List.take_of_length_le hover.le] at hnothing

end Parser

end GlassTty
