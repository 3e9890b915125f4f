import GlassTty.Proofs.Escape.Feed

/-!
# The characters among bytes

The output of a session is text for the most part, but nothing keeps other bytes out of it, and a
character may come in two pieces. What the characters are that a byte string holds is said without
any table, by the encodings of characters alone: reading from left to right, either the encoding of
a character begins, and the character is read, or none does, and one byte is passed over
(`GlassTty.Utf8.Scan`).

The incremental decoder finds just these (`GlassTty.Utf8.scan_iff_feed`), although it does not look
ahead and tells a sequence that encodes nothing only by its last byte. This rests on the shape of
an encoding: its first byte announces its length, and all the others are continuation bytes, with
which no encoding begins (`GlassTty.Utf8.exists_of_encodeChar_prefix`). So nothing is lost with the
bytes of a sequence that the decoder drops, whether it was broken off by another byte
(`GlassTty.Utf8.Scan.broken`) or it turned out to be none.
-/

namespace GlassTty.Utf8

/-! ### The table and the encodings -/

theorem isContinuation_iff {byte : UInt8} :
    isContinuation byte = true ↔ 0x80 ≤ byte.toNat ∧ byte.toNat ≤ 0xBF := by
  rw [isContinuation, Bool.and_eq_true, decide_eq_true_eq, decide_eq_true_eq]

/-- The second byte is a continuation byte, with less freedom behind four of the leads. -/
theorem second_range {lead byte : UInt8} (h : allowsSecond lead byte = true) :
    (0x80 ≤ byte.toNat ∧ byte.toNat ≤ 0xBF) ∧
      (lead.toNat = 0xE0 → 0xA0 ≤ byte.toNat) ∧ (lead.toNat = 0xED → byte.toNat ≤ 0x9F) ∧
      (lead.toNat = 0xF0 → 0x90 ≤ byte.toNat) ∧ (lead.toNat = 0xF4 → byte.toNat ≤ 0x8F) := by
  rw [allowsSecond, Bool.and_eq_true, decide_eq_true_eq, decide_eq_true_eq] at h
  unfold secondRange at h
  split at h <;> dsimp only at h <;> grind

/-- What each announced length says of the lead. -/
theorem lead_range {lead : UInt8} {length : Nat} (h : seqLength? lead = some length) :
    (length = 1 ∧ lead.toNat < 0x80) ∨ (length = 2 ∧ 0xC2 ≤ lead.toNat ∧ lead.toNat ≤ 0xDF) ∨
      (length = 3 ∧ 0xE0 ≤ lead.toNat ∧ lead.toNat ≤ 0xEF) ∨
      (length = 4 ∧ 0xF0 ≤ lead.toNat ∧ lead.toNat ≤ 0xF4) := by
  unfold seqLength? at h
  dsimp only at h
  split at h
  · cases h; omega
  · split at h
    · cases h; omega
    · split at h
      · cases h; omega
      · split at h
        · cases h; omega
        · cases h

/-- A byte is known by its number. -/
theorem byte_eq (byte : UInt8) {n : Nat} (h : n = byte.toNat) : UInt8.ofNat n = byte := by
  rw [h, UInt8.ofNat_toNat]

/-- **A sequence that has a character is the encoding of it.** -/
theorem encodeChar_of_charOf? {bytes : Bytes} {c : Char} (h : charOf? bytes = some c) :
    String.utf8EncodeChar c = bytes := by
  unfold charOf? at h
  split at h
  · next a =>
    rw [Option.ite_none_right_eq_some, Option.some.injEq] at h
    obtain ⟨ha, rfl⟩ := h
    rw [encodeChar_eq]
    dsimp only
    rw [toNat_char (Or.inl (by omega)), if_pos (by omega), byte_eq a rfl]
  · next a b =>
    rw [Option.ite_none_right_eq_some, Option.some.injEq] at h
    obtain ⟨⟨ha, hb⟩, rfl⟩ := h
    have hlead := lead_range ha
    have hsecond := second_range hb
    rw [encodeChar_eq]
    unfold payload
    dsimp only
    rw [toNat_char (Or.inl (by omega)), if_neg (by omega), if_pos (by omega), byte_eq a,
      byte_eq b] <;> omega
  · next a b d =>
    rw [Option.ite_none_right_eq_some, Option.some.injEq] at h
    obtain ⟨⟨ha, hb, hd⟩, rfl⟩ := h
    have hlead := lead_range ha
    have hsecond := second_range hb
    have hthird := isContinuation_iff.mp hd
    rw [encodeChar_eq]
    unfold payload
    dsimp only
    rw [toNat_char (by unfold Nat.isValidChar; omega), if_neg (by omega), if_neg (by omega),
      if_pos (by omega), byte_eq a, byte_eq b, byte_eq d] <;> omega
  · next a b d e =>
    rw [Option.ite_none_right_eq_some, Option.some.injEq] at h
    obtain ⟨⟨ha, hb, hd, he⟩, rfl⟩ := h
    have hlead := lead_range ha
    have hsecond := second_range hb
    have hthird := isContinuation_iff.mp hd
    have hfourth := isContinuation_iff.mp he
    rw [encodeChar_eq]
    unfold payload
    dsimp only
    rw [toNat_char (by unfold Nat.isValidChar; omega), if_neg (by omega), if_neg (by omega),
      if_neg (by omega), byte_eq a, byte_eq b, byte_eq d, byte_eq e] <;> omega
  · cases h

/-- An encoding is a lead and as many continuation bytes as it announces. -/
theorem exists_encodeChar_eq (c : Char) :
    ∃ lead rest, String.utf8EncodeChar c = lead :: rest ∧
      seqLength? lead = some (rest.length + 1) ∧ (∀ byte ∈ rest, isContinuation byte = true) ∧
      charOf? (lead :: rest) = some c := by
  rcases Nat.lt_or_ge c.toNat 0x80 with hlt | hge
  · have hbyte : (UInt8.ofNat c.toNat).toNat = c.toNat := toNat_byte (by omega)
    refine ⟨UInt8.ofNat c.toNat, [], ?_, ?_, by simp, ?_⟩
    · rw [encodeChar_eq]
      exact if_pos (by omega)
    · rw [seqLength?, if_pos (by omega)]
      rfl
    · rw [charOf?, hbyte, if_pos hlt, Char.ofNat_toNat]
  · obtain ⟨lead, rest, hencode, hsequence, hof⟩ := encodeChar_eq_sequence hge
    exact ⟨lead, rest, hencode, hsequence.length, hsequence.continues, hof⟩

/-- **Where an encoding begins**, its first byte announces it, the bytes behind that continue it,
and the table has its character. -/
theorem exists_of_encodeChar_prefix {c : Char} {lead : UInt8} {tail : Bytes}
    (h : String.utf8EncodeChar c <+: lead :: tail) :
    ∃ length, seqLength? lead = some (length + 1) ∧ length ≤ tail.length ∧
      (∀ byte ∈ tail.take length, isContinuation byte = true) ∧
      charOf? (lead :: tail.take length) = some c := by
  obtain ⟨lead', rest, hencode, hlength, hcontinues, hof⟩ := exists_encodeChar_eq c
  rw [hencode, List.cons_prefix_cons] at h
  obtain ⟨rfl, hrest⟩ := h
  have htake : tail.take rest.length = rest := (List.prefix_iff_eq_take.mp hrest).symm
  refine ⟨rest.length, hlength, hrest.length_le, ?_, ?_⟩
  · rwa [htake]
  · rwa [htake]

/-- No encoding begins with a byte that is no lead, as the continuation bytes are. -/
theorem not_prefix_of_seqLength? {byte : UInt8} (h : seqLength? byte = none) (tail : Bytes)
    (c : Char) : ¬String.utf8EncodeChar c <+: byte :: tail := by
  intro hprefix
  obtain ⟨length, hlength, -⟩ := exists_of_encodeChar_prefix hprefix
  rw [h] at hlength
  cases hlength

theorem seqLength?_of_isContinuation {byte : UInt8} (h : isContinuation byte = true) :
    seqLength? byte = none := by
  have hrange := isContinuation_iff.mp h
  cases hlength : seqLength? byte with
  | none => rfl
  | some length =>
    have hlead := lead_range hlength
    omega

/-- No encoding is the beginning of another one. -/
theorem encodeChar_append_inj {c c' : Char} {rest rest' : Bytes}
    (h : String.utf8EncodeChar c ++ rest = String.utf8EncodeChar c' ++ rest') :
    c = c' ∧ rest = rest' := by
  obtain ⟨lead, tail, hbytes⟩ : ∃ lead tail, String.utf8EncodeChar c ++ rest = lead :: tail := by
    obtain ⟨lead, tail, hencode, -⟩ := exists_encodeChar_eq c
    exact ⟨lead, tail ++ rest, by rw [hencode]; rfl⟩
  have hfirst : String.utf8EncodeChar c <+: lead :: tail := ⟨rest, hbytes⟩
  have hsecond : String.utf8EncodeChar c' <+: lead :: tail := ⟨rest', h ▸ hbytes⟩
  obtain ⟨length, hlength, -, -, hof⟩ := exists_of_encodeChar_prefix hfirst
  obtain ⟨length', hlength', -, -, hof'⟩ := exists_of_encodeChar_prefix hsecond
  rw [hlength, Option.some.injEq, Nat.add_right_cancel_iff] at hlength'
  subst hlength'
  rw [hof, Option.some.injEq] at hof'
  subst hof'
  exact ⟨rfl, List.append_cancel_left h⟩

/-! ### Reading from left to right -/

/-- **The characters of a byte string**, read from left to right: where the encoding of a character
begins, the character is read and its encoding left behind, and where none begins a byte is passed
over. -/
inductive Scan : Bytes → List Char → Prop where
  | nil : Scan [] []
  | char (c : Char) {rest : Bytes} {chars : List Char} (h : Scan rest chars) :
    Scan (String.utf8EncodeChar c ++ rest) (c :: chars)
  | skip {byte : UInt8} {rest : Bytes} {chars : List Char}
    (none : ∀ c, ¬String.utf8EncodeChar c <+: byte :: rest) (h : Scan rest chars) :
    Scan (byte :: rest) chars

namespace Scan

variable {bytes rest : Bytes} {chars : List Char}

/-- There is one way to read a byte string. -/
theorem unique (h : Scan bytes chars) {chars' : List Char} (h' : Scan bytes chars') :
    chars = chars' := by
  have hne : ∀ (c : Char) (rest : Bytes), String.utf8EncodeChar c ++ rest ≠ [] := fun c rest => by
    obtain ⟨lead, tail, hencode, -⟩ := exists_encodeChar_eq c
    simp [hencode]
  induction h generalizing chars' with
  | nil =>
    generalize hbytes : ([] : Bytes) = bytes at h'
    cases h' with
    | nil => rfl
    | char c _ => exact absurd hbytes.symm (hne c _)
    | skip _ _ => cases hbytes
  | char c h ih =>
    generalize hbytes : String.utf8EncodeChar c ++ _ = bytes at h'
    cases h' with
    | nil => exact absurd hbytes (hne c _)
    | char c' h' =>
      obtain ⟨rfl, rfl⟩ := encodeChar_append_inj hbytes
      rw [ih h']
    | skip none _ => exact absurd ⟨_, hbytes⟩ (none c)
  | skip none h ih =>
    generalize hbytes : _ :: _ = bytes at h'
    cases h' with
    | nil => cases hbytes
    | char c _ => exact absurd ⟨_, hbytes.symm⟩ (none c)
    | skip _ h' =>
      cases hbytes
      exact ih h'

/-- Continuation bytes that no lead stands before are passed over. -/
theorem passOver {before : Bytes} (hbefore : ∀ byte ∈ before, isContinuation byte = true)
    (h : Scan rest chars) : Scan (before ++ rest) chars := by
  induction before with
  | nil => exact h
  | cons byte before ih =>
    have hbyte := seqLength?_of_isContinuation (hbefore byte List.mem_cons_self)
    exact skip (not_prefix_of_seqLength? hbyte _)
      (ih fun other hother => hbefore other (List.mem_cons_of_mem byte hother))

/-- **A broken sequence** is passed over: a lead and continuation bytes, of which fewer come than it
announces, or as many as that without a character that they encode. -/
theorem broken {lead : UInt8} {before : Bytes}
    (hbefore : ∀ byte ∈ before, isContinuation byte = true)
    (hnone : ∀ c, ¬String.utf8EncodeChar c <+: lead :: (before ++ rest)) (h : Scan rest chars) :
    Scan (lead :: before ++ rest) chars :=
  skip hnone (passOver hbefore h)

end Scan

/-! ### The decoder -/

namespace Decoder

/-- **What may be pending**: nothing, or a lead with continuation bytes behind it, but fewer than it
announces. -/
inductive Proper : Decoder → Prop where
  | between : Proper {}
  | inside {lead : UInt8} {before : Bytes} {length : Nat}
    (announced : seqLength? lead = some length) (missing : before.length + 1 < length)
    (continues : ∀ byte ∈ before, isContinuation byte = true) :
    Proper { pending := lead :: before }

/-- A byte that is read on its own. -/
theorem scan_start (byte : UInt8) :
    (start byte).2.Proper ∧ ∀ rest chars, Scan ((start byte).2.pending ++ rest) chars →
      Scan (byte :: rest) ((start byte).1.toList ++ chars) := by
  unfold start
  split
  · next hnone => exact ⟨.between, fun rest chars h => .skip (not_prefix_of_seqLength? hnone _) h⟩
  · next hone =>
    have hlead : byte.toNat < 0x80 := by
      have := lead_range hone
      omega
    have hencode : String.utf8EncodeChar (Char.ofNat byte.toNat) = [byte] :=
      encodeChar_of_charOf? (by rw [charOf?, if_pos hlead])
    refine ⟨.between, fun rest chars h => ?_⟩
    have hscan := Scan.char (Char.ofNat byte.toNat) h
    rwa [hencode] at hscan
  · next length hother hlength =>
    have hlead := lead_range hlength
    refine ⟨.inside hlength ?_ (by simp), fun rest chars h => h⟩
    have hne : length ≠ 1 := fun hone => hother (hone ▸ rfl)
    simp only [List.length_nil]
    omega

/-- A byte that continues nothing is read on its own, whatever is pending. -/
theorem push_of_not_continuation {byte : UInt8} (h : isContinuation byte = false) (d : Decoder) :
    d.push byte = start byte := by
  unfold push
  split
  · rfl
  · rw [if_neg (by rw [h]; exact Bool.false_ne_true)]

/-- A continuation byte is the last one that a sequence waits for, or one of several. -/
theorem push_of_continuation {lead byte : UInt8} {before : Bytes} {length : Nat}
    (announced : seqLength? lead = some length) (h : isContinuation byte = true) :
    ({ pending := lead :: before } : Decoder).push byte =
      if before.length + 2 = length then (charOf? (lead :: (before ++ [byte])), {})
      else (none, { pending := lead :: (before ++ [byte]) }) := by
  have hsize : (lead :: (before ++ [byte])).length = before.length + 2 := by simp
  unfold push
  simp only [if_pos h, announced, List.cons_append, hsize, Option.some.injEq]

/-- **One byte.** What is pending is proper again, and the decoder reads what there is to read,
from what was pending on. -/
theorem Proper.scan_push {d : Decoder} (hd : d.Proper) (byte : UInt8) :
    (d.push byte).2.Proper ∧ ∀ rest chars, Scan ((d.push byte).2.pending ++ rest) chars →
      Scan (d.pending ++ byte :: rest) ((d.push byte).1.toList ++ chars) := by
  cases hd with
  | between => exact scan_start byte
  | @inside lead before length announced missing continues =>
    cases hbyte : isContinuation byte with
    | true =>
      have hcontinues : ∀ other ∈ before ++ [byte], isContinuation other = true :=
        List.forall_mem_append.mpr ⟨continues, List.forall_mem_singleton.mpr hbyte⟩
      have hsize : (before ++ [byte]).length = before.length + 1 := by simp
      have hjoined : ∀ rest, lead :: before ++ byte :: rest = lead :: (before ++ [byte]) ++ rest :=
        fun rest => by simp
      rw [push_of_continuation announced hbyte]
      simp only [hjoined]
      split
      · next hcomplete =>
        refine ⟨.between, fun rest chars h => ?_⟩
        cases hof : charOf? (lead :: (before ++ [byte])) with
        | some c => exact encodeChar_of_charOf? hof ▸ Scan.char c h
        | none =>
          -- an encoding that begins here would be as long, so it would be what has no character
          refine Scan.broken hcontinues (fun c hprefix => ?_) h
          obtain ⟨length', hlength', -, -, hof'⟩ := exists_of_encodeChar_prefix hprefix
          rw [announced, Option.some.injEq] at hlength'
          rw [show length' = (before ++ [byte]).length by omega, List.take_left, hof] at hof'
          cases hof'
      · next hshort => exact ⟨.inside announced (by omega) hcontinues, fun rest chars h => h⟩
    | false =>
      rw [push_of_not_continuation hbyte]
      refine ⟨(scan_start byte).1, fun rest chars h => ?_⟩
      -- an encoding that begins at the lead would go on with the byte that continues nothing
      refine Scan.broken continues (fun c hprefix => ?_) ((scan_start byte).2 rest chars h)
      obtain ⟨length', hlength', -, hcontinues, -⟩ := exists_of_encodeChar_prefix hprefix
      rw [announced, Option.some.injEq] at hlength'
      obtain ⟨more, hmore⟩ : ∃ more, length' = before.length + (more + 1) :=
        ⟨length' - before.length - 1, by omega⟩
      have hnext := hcontinues byte (by rw [hmore, List.take_length_add_append]; simp)
      rw [hbyte] at hnext
      cases hnext

/-- What is still pending at the end is no character. -/
theorem Proper.scan_pending {d : Decoder} (hd : d.Proper) : Scan d.pending [] := by
  cases hd with
  | between => exact .nil
  | @inside lead before length announced missing continues =>
    have hnone : ∀ c, ¬String.utf8EncodeChar c <+: lead :: (before ++ []) := by
      intro c hprefix
      obtain ⟨length', hlength', hle, -⟩ := exists_of_encodeChar_prefix hprefix
      rw [announced, Option.some.injEq] at hlength'
      rw [List.append_nil] at hle
      omega
    have hscan := Scan.broken continues hnone .nil
    rwa [List.append_nil] at hscan

/-- **All bytes**: the decoder reads what there is to read, from what is pending on. -/
theorem Proper.scan_feed {d : Decoder} (hd : d.Proper) (bytes : Bytes) :
    Scan (d.pending ++ bytes) (d.feed bytes).1 := by
  induction bytes generalizing d with
  | nil =>
    rw [List.append_nil]
    exact hd.scan_pending
  | cons byte rest ih =>
    obtain ⟨hproper, hscan⟩ := hd.scan_push byte
    exact hscan rest _ (ih hproper)

end Decoder

/-- **The decoder finds the characters that there are**, and no others. -/
theorem scan_iff_feed (bytes : Bytes) (chars : List Char) :
    Scan bytes chars ↔ (({} : Decoder).feed bytes).1 = chars := by
  have hscan : Scan bytes (({} : Decoder).feed bytes).1 := Decoder.Proper.between.scan_feed bytes
  exact ⟨hscan.unique, fun h => h ▸ hscan⟩

/-! ### Text in pieces -/

namespace Decoder

theorem feed_append (d : Decoder) (x y : Bytes) :
    d.feed (x ++ y) = ((d.feed x).1 ++ ((d.feed x).2.feed y).1, ((d.feed x).2.feed y).2) := by
  induction x generalizing d with
  | nil => rfl
  | cons byte x ih =>
    simp only [List.cons_append, feed]
    rw [ih]
    simp only [List.append_assoc]

/-- The bytes that a sequence still waits for complete it. -/
theorem feed_rest {lead : UInt8} {before after : Bytes} (h : IsSequence lead (before ++ after))
    (hafter : after ≠ []) :
    ({ pending := lead :: before } : Decoder).feed after =
      ((charOf? (lead :: (before ++ after))).toList, {}) := by
  induction after generalizing before with
  | nil => exact absurd rfl hafter
  | cons byte after ih =>
    cases after with
    | nil =>
      rw [feed, push_last h]
      simp [feed]
    | cons next after =>
      have h' : IsSequence lead (before ++ [byte] ++ next :: after) := by
        rwa [List.append_assoc, List.singleton_append]
      rw [feed, push_more h (List.cons_ne_nil _ _)]
      dsimp only
      rw [ih h' (List.cons_ne_nil _ _), List.append_assoc]
      rfl

/-- **A character is read whatever is pending**: its first byte drops that, and its last one leaves
nothing. -/
theorem feed_encodeChar (d : Decoder) (c : Char) :
    d.feed (String.utf8EncodeChar c) = ([c], {}) := by
  obtain ⟨lead, rest, hencode, hlength, hcontinues, hof⟩ := exists_encodeChar_eq c
  have hlead : isContinuation lead = false := by
    rw [Bool.eq_false_iff]
    intro hcontinuation
    rw [seqLength?_of_isContinuation hcontinuation] at hlength
    cases hlength
  rw [hencode, feed, push_of_not_continuation hlead]
  cases rest with
  | nil =>
    rw [charOf?, Option.ite_none_right_eq_some, Option.some.injEq] at hof
    rw [start, hlength, ← hof.2]
    rfl
  | cons byte rest =>
    have hsequence : IsSequence lead ([] ++ byte :: rest) :=
      ⟨hlength, hcontinues, List.cons_ne_nil _ _⟩
    have hopened : start lead = (none, { pending := [lead] }) := push_lead hsequence
    rw [hopened]
    dsimp only
    rw [feed_rest hsequence (List.cons_ne_nil _ _), List.nil_append, hof]
    rfl

/-- A text is read as it is, and nothing is pending behind it. -/
theorem feed_encode (text : List Char) : ({} : Decoder).feed (encode text) = (text, {}) := by
  induction text with
  | nil => rfl
  | cons c text ih =>
    have hencode : encode (c :: text) = String.utf8EncodeChar c ++ encode text := rfl
    rw [hencode, feed_append, feed_encodeChar, ih]
    rfl

/-- Read a byte string that comes in pieces, one after the other. -/
def feedPieces (d : Decoder) : List Bytes → List Char × Decoder
  | [] => ([], d)
  | piece :: rest =>
    let (chars, d) := d.feed piece
    let (more, d) := d.feedPieces rest
    (chars ++ more, d)

/-- It makes no difference where the pieces end. -/
theorem feedPieces_eq (d : Decoder) (pieces : List Bytes) :
    d.feedPieces pieces = d.feed pieces.flatten := by
  induction pieces generalizing d with
  | nil => rfl
  | cons piece rest ih =>
    rw [List.flatten_cons, feed_append, feedPieces]
    simp only [ih]

end Decoder

/-- **The decoder finds the characters among the bytes.** Let any bytes be read, one at a time.

* What comes out are the characters that reading from left to right finds, in their order.
* If the bytes are the encoding of a text, it is this text that comes out, in whatever pieces the
  bytes come, and nothing is pending at the end.
* Whatever has been read, also a sequence that is broken off, the encoding of a character behind it
  is read as this character, and so is what follows. -/
theorem decoder_finds_characters (bytes : Bytes) :
    (∀ chars, Scan bytes chars ↔ (({} : Decoder).feed bytes).1 = chars) ∧
    (∀ text pieces, pieces.flatten = bytes → bytes = encode text →
      ({} : Decoder).feedPieces pieces = (text, {})) ∧
    ∀ c rest, (({} : Decoder).feed (bytes ++ String.utf8EncodeChar c ++ rest)).1 =
      (({} : Decoder).feed bytes).1 ++ c :: (({} : Decoder).feed rest).1 := by
  refine ⟨scan_iff_feed bytes, ?_, fun c rest => ?_⟩
  · rintro text pieces hpieces rfl
    rw [Decoder.feedPieces_eq, hpieces, Decoder.feed_encode]
  · rw [List.append_assoc, Decoder.feed_append, Decoder.feed_append, Decoder.feed_encodeChar]
    rfl

/-- Characters of two, three and four bytes, each of them cut in the middle, with a piece in between
that has no byte. -/
theorem decoder_finds_characters_cut :
    let text := ['é', '✓', '🦀']
    let pieces : List Bytes := [[0xC3], [0xA9, 0xE2, 0x9C], [0x93, 0xF0], [], [0x9F, 0xA6], [0x80]]
    pieces.flatten = encode text ∧ ({} : Decoder).feedPieces pieces = (text, {}) := by
  intro text pieces
  have hencode : pieces.flatten = encode text := by decide
  exact ⟨hencode, (decoder_finds_characters _).2.1 text pieces rfl hencode⟩

end GlassTty.Utf8
