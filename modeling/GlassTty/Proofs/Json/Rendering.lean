import GlassTty.Json.Printer
import GlassTty.Json.Reader
import GlassTty.Proofs.Json.Object
import GlassTty.Proofs.Text.Scan
import Mathlib.Data.List.TakeWhile

/-!
# Strings and objects are read as they are printed

A value made of strings and objects (`GlassTty.Json.IsTextual`) is read back from its text
(`GlassTty.Json.parse_render`), and no line ends within that text
(`GlassTty.Json.IsTextual.not_mem_chars`).

The printer works on characters and the reader on bytes. A string is where this matters: the reader
takes it byte by byte, and an escape for the bytes of the character it stands for, so the two meet
at the characters of the string (`GlassTty.Json.readStringFrom_escaped`). At its end the bytes are
read as UTF-8, which gives the string back because nothing in it was broken
(`GlassTty.Utf8.lossy_encode`). An object is walked member by member; that the members come out in
their order is the order they have (`GlassTty.Json.Object.ofList_eq_self`).
-/

namespace GlassTty

/-! ### Texts among bytes -/

namespace Utf8

theorem allowsSecond_of_charOf? {lead second : UInt8} {tail : Bytes} {c : Char}
    (h : charOf? (lead :: second :: tail) = some c) : allowsSecond lead second = true := by
  unfold charOf? at h
  split at h
  · next heq => cases heq
  · next heq => cases heq; exact (Option.ite_none_right_eq_some.mp h).1.2
  · next heq => cases heq; exact (Option.ite_none_right_eq_some.mp h).1.2.1
  · next heq => cases heq; exact (Option.ite_none_right_eq_some.mp h).1.2.1
  · cases h

/-- The bytes that continue an encoding are those it has. -/
theorem continuationOf_append {lead : UInt8} {rest : Bytes} {c : Char}
    (hcontinues : ∀ byte ∈ rest, isContinuation byte = true)
    (hof : charOf? (lead :: rest) = some c) (more : Bytes) :
    continuationOf lead rest.length (rest ++ more) = rest := by
  cases rest with
  | nil => simp [continuationOf]
  | cons second tail =>
    have htail : tail.takeWhile isContinuation = tail :=
      List.takeWhile_eq_self_iff.mpr fun byte hbyte =>
        hcontinues byte (List.mem_cons_of_mem second hbyte)
    rw [List.length_cons, List.cons_append, continuationOf, if_pos (allowsSecond_of_charOf? hof),
      List.take_left, htail]

/-- **The encoding of a text is read as that text**, also where replacement characters would come
in for what is none. -/
theorem lossy_encode (text : List Char) : lossy (encode text) = text := by
  induction text with
  | nil => rw [encode, List.flatMap_nil, lossy]
  | cons c text ih =>
    obtain ⟨lead, rest, hencode, hlength, hcontinues, hof⟩ := exists_encodeChar_eq c
    have hbytes : encode (c :: text) = lead :: (rest ++ encode text) := by
      rw [encode, List.flatMap_cons, hencode]
      rfl
    have hfirst : firstLossy lead (rest ++ encode text) = (c, rest.length) := by
      simp only [firstLossy, hlength, Nat.add_sub_cancel, continuationOf_append hcontinues hof, hof]
    rw [hbytes, lossy, hfirst]
    dsimp only
    rw [List.drop_left, ih]

theorem encode_append (x y : List Char) : encode (x ++ y) = encode x ++ encode y :=
  List.flatMap_append

theorem length_le_length_encode (text : List Char) : text.length ≤ (encode text).length := by
  induction text with
  | nil => exact Nat.zero_le _
  | cons c text ih =>
    obtain ⟨lead, rest, hencode, -⟩ := exists_encodeChar_eq c
    rw [encode, List.flatMap_cons, hencode, List.length_append, List.length_cons, List.length_cons]
    rw [encode] at ih
    omega

end Utf8

namespace Json

open Utf8 (encode encode_append)

/-! ### Strings -/

/-- A byte that stands for itself in a string. -/
def IsPlain (byte : UInt8) : Prop :=
  0x20 ≤ byte.toNat ∧ byte ≠ ascii '"' ∧ byte ≠ ascii '\\'

/-- A character that is not escaped is made of bytes that stand for themselves. -/
theorem isPlain_of_mem_encodeChar {c : Char} (hlow : 0x20 ≤ c.toNat) (hquote : c ≠ '"')
    (hbackslash : c ≠ '\\') {byte : UInt8} (h : byte ∈ String.utf8EncodeChar c) : IsPlain byte := by
  rcases Nat.lt_or_ge c.toNat 0x80 with hlt | hge
  · have hbyte : (ascii c).toNat = c.toNat := Utf8.toNat_byte (by omega)
    have hencode : String.utf8EncodeChar c = [ascii c] := by
      rw [Utf8.encodeChar_eq]
      exact if_pos (by omega)
    rw [hencode, List.mem_singleton] at h
    subst h
    refine ⟨by omega, fun heq => hquote ?_, fun heq => hbackslash ?_⟩
    · rw [← Char.ofNat_toNat c, ← hbyte, heq]
      rfl
    · rw [← Char.ofNat_toNat c, ← hbyte, heq]
      rfl
  · -- all bytes of a longer encoding are above those of ASCII
    obtain ⟨lead, rest, hencode, hsequence, -⟩ := Utf8.encodeChar_eq_sequence hge
    have hhigh : 0x80 ≤ byte.toNat := by
      rw [hencode] at h
      rcases List.mem_cons.mp h with rfl | hrest
      · have hne := List.length_pos_iff.mpr hsequence.nonempty
        have hrange := Utf8.lead_range hsequence.length
        omega
      · exact (Utf8.isContinuation_iff.mp (hsequence.continues byte hrest)).1
    refine ⟨by omega, ?_, ?_⟩
    · rintro rfl
      exact absurd hhigh (by decide)
    · rintro rfl
      exact absurd hhigh (by decide)

/-- The number of a control is written with two zeros and two digits. -/
theorem encode_fourHexDigits {n : Nat} (h : n < 0x20) :
    let high := ascii (n / 0x10).digitChar
    let low := ascii (n % 0x10).digitChar
    encode (fourHexDigits n) = [ascii '0', ascii '0', high, low] ∧
      hexValue? high = some (n / 0x10) ∧ hexValue? low = some (n % 0x10) := by
  have hall : ∀ n : Fin 0x20,
      encode (fourHexDigits n) =
          [ascii '0', ascii '0', ascii (n.val / 0x10).digitChar, ascii (n.val % 0x10).digitChar] ∧
        hexValue? (ascii (n.val / 0x10).digitChar) = some (n.val / 0x10) ∧
        hexValue? (ascii (n.val % 0x10).digitChar) = some (n.val % 0x10) := by decide +kernel
  exact hall ⟨n, h⟩

theorem readEscape_control {n : Nat} (h : n < 0x20) (rest : Bytes) :
    readEscape (encode ('u' :: fourHexDigits n) ++ rest) = .ok (Char.ofNat n, rest) := by
  obtain ⟨hdigits, hhigh, hlow⟩ := encode_fourHexDigits h
  have hzero : hexValue? (ascii '0') = some 0 := rfl
  have hsum : 0 * 0x1000 + 0 * 0x100 + n / 0x10 * 0x10 + n % 0x10 = n := by omega
  have hhex : readHex (encode (fourHexDigits n) ++ rest) = .ok (n, rest) := by
    rw [hdigits]
    simp only [List.cons_append, List.nil_append, readHex, hzero, hhigh, hlow, hsum]
  have hread : readEscape (encode ('u' :: fourHexDigits n) ++ rest) =
      readHex (encode (fourHexDigits n) ++ rest) >>= fun read =>
        if 0xDC00 ≤ read.1 ∧ read.1 ≤ 0xDFFF then refuse .loneSurrogate read.2
        else if read.1 < 0xD800 ∨ 0xDBFF < read.1 then .ok (Char.ofNat read.1, read.2)
        else readLowHalf read.1 read.2 := rfl
  rw [hread, hhex]
  change (if 0xDC00 ≤ n ∧ n ≤ 0xDFFF then _ else _) = _
  rw [if_neg (by omega), if_pos (by omega)]

/-- **A character as it stands in a string** is escaped in a way that is read back, or it is one
that stands for itself. -/
theorem escapeChar_cases (c : Char) :
    (∃ tail, escapeChar c = '\\' :: tail ∧
      ∀ rest, readEscape (encode tail ++ rest) = .ok (c, rest)) ∨
    (escapeChar c = [c] ∧ 0x20 ≤ c.toNat ∧ c ≠ '"' ∧ c ≠ '\\') := by
  unfold escapeChar
  split
  · exact .inl ⟨_, rfl, fun rest => rfl⟩
  · exact .inl ⟨_, rfl, fun rest => rfl⟩
  · exact .inl ⟨_, rfl, fun rest => rfl⟩
  · exact .inl ⟨_, rfl, fun rest => rfl⟩
  · exact .inl ⟨_, rfl, fun rest => rfl⟩
  · exact .inl ⟨_, rfl, fun rest => rfl⟩
  · exact .inl ⟨_, rfl, fun rest => rfl⟩
  · split
    · refine .inl ⟨_, rfl, fun rest => ?_⟩
      next hcontrol => rw [readEscape_control hcontrol, Char.ofNat_toNat]
    · refine .inr ⟨rfl, ?_, ?_, ?_⟩
      · omega
      · assumption
      · assumption

/-- Bytes that stand for themselves are read one by one. -/
theorem readStringFrom_plain {bytes : Bytes} (h : ∀ byte ∈ bytes, IsPlain byte) (fuel : Nat)
    (read rest : Bytes) :
    readStringFrom (fuel + bytes.length) read (bytes ++ rest) =
      readStringFrom fuel (bytes.reverse ++ read) rest := by
  induction bytes generalizing read with
  | nil => rfl
  | cons byte bytes ih =>
    obtain ⟨⟨hcontrol, hquote, hbackslash⟩, hbytes⟩ := List.forall_mem_cons.mp h
    have hlow : ¬byte < 0x20 := by
      rw [UInt8.not_lt]
      exact UInt8.le_iff_toNat_le.mpr hcontrol
    rw [List.length_cons, ← Nat.add_assoc, List.cons_append, readStringFrom, if_neg hquote,
      if_neg hbackslash, if_neg hlow, ih hbytes, List.reverse_cons, List.append_assoc]
    rfl

/-- **The characters of a string are read one by one**, each as it stands in the string. -/
theorem readStringFrom_escaped (text : List Char) {fuel : Nat} (read rest : Bytes)
    (hfuel : (encode (text.flatMap escapeChar)).length < fuel) :
    readStringFrom fuel read (encode (text.flatMap escapeChar) ++ ascii '"' :: rest) =
      .ok (read.reverse ++ encode text, rest) := by
  induction text generalizing fuel read with
  | nil =>
    obtain ⟨fuel, rfl⟩ := Nat.exists_eq_add_of_lt hfuel
    rw [List.flatMap_nil]
    simp [encode, readStringFrom]
  | cons c text ih =>
    have hencode : encode (c :: text) = String.utf8EncodeChar c ++ encode text := rfl
    have hreversed : ((String.utf8EncodeChar c).reverse ++ read).reverse ++ encode text =
        read.reverse ++ encode (c :: text) := by
      rw [List.reverse_append, List.reverse_reverse, List.append_assoc, hencode]
    rw [List.flatMap_cons, encode_append, List.length_append] at hfuel
    rw [List.flatMap_cons, encode_append, List.append_assoc]
    rcases escapeChar_cases c with ⟨tail, hescape, hread⟩ | ⟨hescape, hcontrol, hquote, hbackslash⟩
    · have hbytes : encode (escapeChar c) = ascii '\\' :: encode tail := by
        rw [hescape]
        rfl
      rw [hbytes, List.length_cons] at hfuel
      obtain ⟨fuel, rfl⟩ : ∃ k, fuel = k + 1 := ⟨fuel - 1, by omega⟩
      rw [hbytes, List.cons_append, readStringFrom, if_neg (by decide), if_pos rfl, hread]
      change readStringFrom fuel _ _ = _
      rw [ih _ (by omega), hreversed]
    · have hbytes : encode (escapeChar c) = String.utf8EncodeChar c := by
        rw [hescape]
        exact List.flatMap_singleton _ c
      rw [hbytes] at hfuel ⊢
      obtain ⟨fuel, rfl⟩ : ∃ k, fuel = k + (String.utf8EncodeChar c).length :=
        ⟨fuel - (String.utf8EncodeChar c).length, by omega⟩
      have hplain : ∀ byte ∈ String.utf8EncodeChar c, IsPlain byte := fun byte hbyte =>
        isPlain_of_mem_encodeChar hcontrol hquote hbackslash hbyte
      rw [readStringFrom_plain hplain, ih _ (by omega), hreversed]

/-- **A string is read as it is printed**, behind its opening quotation mark. -/
theorem readString_escaped (text : String) (rest : Bytes) :
    readString (encode (text.toList.flatMap escapeChar) ++ ascii '"' :: rest) =
      .ok (text, rest) := by
  rw [readString, readStringFrom_escaped text.toList [] rest (by rw [List.length_append]; omega)]
  change Except.ok (Utf8.lossyString (encode text.toList), rest) = _
  rw [Utf8.lossyString, Utf8.lossy_encode, String.ofList_toList]

/-! ### Values -/

/-- A value is read as it is printed, whatever stands behind it, where containers may be nested so
deep. -/
def Reads (nesting : Nat) (value : Value) : Prop :=
  ∀ rest, readValue nesting (encode value.chars ++ rest) = .ok (value, rest)

/-- A string that is printed begins with a quotation mark, and is read behind it. -/
theorem exists_encode_renderString (text : String) (rest : Bytes) :
    ∃ more, encode (renderString text) ++ rest = ascii '"' :: more ∧
      readString more = .ok (text, rest) := by
  refine ⟨_, ?_, readString_escaped text rest⟩
  have hquotes : encode (renderString text) =
      ascii '"' :: (encode (text.toList.flatMap escapeChar) ++ [ascii '"']) := by
    rw [renderString, List.cons_append]
    change ascii '"' :: encode (_ ++ _) = _
    rw [encode_append]
    rfl
  rw [hquotes, List.cons_append, List.append_assoc, List.singleton_append]

theorem reads_string (nesting : Nat) (text : String) : Reads nesting (.string text) := by
  intro rest
  obtain ⟨more, hbytes, hread⟩ := exists_encode_renderString text rest
  have hatom : readValue nesting (ascii '"' :: more) = readAtom (ascii '"') more := by
    cases nesting <;> rfl
  rw [Value.chars, hbytes, hatom]
  change (readString more >>= fun read => Except.ok (Value.string read.1, read.2)) = _
  rw [hread]
  rfl

/-- A member as it is printed. -/
def memberText (member : String × Value) : List Char :=
  renderString member.1 ++ ':' :: member.2.chars

theorem memberChars_cons (member : String × Value) (members : List (String × Value)) :
    Value.memberChars (member :: members) =
      memberText member ++ members.flatMap fun other => ',' :: memberText other := by
  induction members generalizing member with
  | nil => rw [Value.memberChars, List.flatMap_nil, List.append_nil, memberText]
  | cons next members ih =>
    obtain ⟨name, value⟩ := member
    rw [Value.memberChars, ih next]
    · simp [memberText]
    · exact nofun

/-- The name of a first member. -/
theorem readKey?_first (name : String) (rest : Bytes) :
    readKey? true (encode (renderString name) ++ rest) = .ok (some name, rest) := by
  obtain ⟨more, hbytes, hread⟩ := exists_encode_renderString name rest
  rw [hbytes]
  change (readString more >>= fun read => Except.ok (some read.1, read.2)) = _
  rw [hread]
  rfl

/-- The name of a member behind another one. -/
theorem readKey?_next (name : String) (rest : Bytes) :
    readKey? false (ascii ',' :: (encode (renderString name) ++ rest)) = .ok (some name, rest) := by
  obtain ⟨more, hbytes, hread⟩ := exists_encode_renderString name rest
  rw [hbytes]
  change (readString more >>= fun read => Except.ok (some read.1, read.2)) = _
  rw [hread]
  rfl

/-- The value of a member, behind its name. -/
theorem readMember_value {nesting : Nat} {value : Value} (h : Reads nesting value)
    (members : Object) (name : String) (rest : Bytes) :
    readMember (readValue nesting) members name (ascii ':' :: (encode value.chars ++ rest)) =
      .ok (members.insert name value, rest) := by
  change (readValue nesting _ >>= fun read =>
    Except.ok (Object.insert name read.1 members, read.2)) = _
  rw [h rest]
  rfl

theorem encode_memberText (name : String) (value : Value) :
    encode (memberText (name, value)) =
      encode (renderString name) ++ ascii ':' :: encode value.chars := by
  rw [memberText, encode_append]
  rfl

/-- **The members behind the first** are read up to the brace that closes the object. -/
theorem readMembers_next {nesting : Nat} (members : List (String × Value))
    (h : ∀ member ∈ members, Reads nesting member.2) (read : Object) {fuel : Nat}
    (hfuel : members.length < fuel) (rest : Bytes) :
    readMembers (readMember (readValue nesting)) fuel false read
        (encode (members.flatMap fun other => ',' :: memberText other) ++ ascii '\x7d' :: rest) =
      .ok (members.foldl (fun o (name, value) => o.insert name value) read,
        ascii '\x7d' :: rest) := by
  induction members generalizing read fuel with
  | nil =>
    obtain ⟨fuel, rfl⟩ : ∃ k, fuel = k + 1 := ⟨fuel - 1, by omega⟩
    rfl
  | cons member members ih =>
    obtain ⟨name, value⟩ := member
    obtain ⟨hvalue, hrest⟩ := List.forall_mem_cons.mp h
    rw [List.length_cons] at hfuel
    obtain ⟨fuel, rfl⟩ : ∃ k, fuel = k + 1 := ⟨fuel - 1, by omega⟩
    have hbytes :
        encode (((name, value) :: members).flatMap fun other => ',' :: memberText other) ++
          ascii '\x7d' :: rest =
        ascii ',' :: (encode (renderString name) ++ (ascii ':' :: (encode value.chars ++
          (encode (members.flatMap fun other => ',' :: memberText other) ++
            ascii '\x7d' :: rest)))) := by
      rw [List.flatMap_cons, encode_append, List.append_assoc]
      change ascii ',' :: (encode (memberText (name, value)) ++ _) = _
      rw [encode_memberText, List.append_assoc]
      rfl
    rw [hbytes, readMembers, readKey?_next]
    change (readMember _ read name _ >>= fun next =>
      readMembers (readMember (readValue nesting)) fuel false next.1 next.2) = _
    rw [readMember_value hvalue]
    exact ih hrest _ (by omega)

/-- **All members are read**, up to the brace that closes the object. -/
theorem readMembers_first {nesting : Nat} (members : List (String × Value))
    (h : ∀ member ∈ members, Reads nesting member.2) {fuel : Nat} (hfuel : members.length < fuel)
    (rest : Bytes) :
    readMembers (readMember (readValue nesting)) fuel true []
        (encode (Value.memberChars members) ++ ascii '\x7d' :: rest) =
      .ok (Object.ofList members, ascii '\x7d' :: rest) := by
  obtain ⟨fuel, rfl⟩ : ∃ k, fuel = k + 1 := ⟨fuel - 1, by omega⟩
  cases members with
  | nil => rfl
  | cons member members =>
    obtain ⟨name, value⟩ := member
    obtain ⟨hvalue, hrest⟩ := List.forall_mem_cons.mp h
    rw [List.length_cons] at hfuel
    rw [memberChars_cons, encode_append, encode_memberText, List.append_assoc, List.append_assoc,
      readMembers, readKey?_first, List.cons_append]
    change (readMember _ [] name _ >>= fun next =>
      readMembers (readMember (readValue nesting)) fuel false next.1 next.2) = _
    rw [readMember_value hvalue]
    exact readMembers_next members hrest _ (by omega) rest

theorem length_le_length_flatMap (members : List (String × Value)) :
    members.length ≤ (members.flatMap fun other => ',' :: memberText other).length := by
  induction members with
  | nil => exact Nat.le_refl 0
  | cons member members ih =>
    rw [List.flatMap_cons, List.length_append, List.length_cons, List.length_cons]
    omega

theorem length_le_length_memberChars (members : List (String × Value)) :
    members.length ≤ (Value.memberChars members).length := by
  cases members with
  | nil => exact Nat.zero_le _
  | cons member members =>
    have hrest := length_le_length_flatMap members
    rw [memberChars_cons, List.length_append, List.length_cons, memberText, renderString,
      List.length_append, List.length_append, List.length_cons]
    omega

/-- **An object is read as it is printed**, if its members are. -/
theorem reads_object {nesting : Nat} {members : Object} (horder : members.InOrder)
    (h : ∀ member ∈ members, Reads nesting member.2) :
    Reads (nesting + 1) (.object members) := by
  intro rest
  have hbytes : encode (Value.object members).chars ++ rest =
      ascii '\x7b' :: (encode (Value.memberChars members) ++ ascii '\x7d' :: rest) := by
    rw [Value.chars, List.cons_append]
    change ascii '\x7b' :: (encode (_ ++ _) ++ _) = _
    rw [encode_append, List.append_assoc]
    rfl
  have hfuel : members.length <
      (encode (Value.memberChars members) ++ ascii '\x7d' :: rest).length + 1 := by
    have hchars := length_le_length_memberChars members
    have hbytes := Utf8.length_le_length_encode (Value.memberChars members)
    rw [List.length_append]
    omega
  rw [hbytes]
  change (readMembers (readMember (readValue nesting)) _ true [] _ >>= fun read =>
    readObjectEnd read.2 >>= fun ended => Except.ok (Value.object read.1, ended.2)) = _
  rw [readMembers_first members h hfuel, Object.ofList_eq_self horder]
  rfl

/-- A value made of strings and objects, which are nested so deep at most. -/
inductive IsTextual : Nat → Value → Prop where
  | string (nesting : Nat) (text : String) : IsTextual nesting (.string text)
  | object {nesting : Nat} {members : Object} (inOrder : members.InOrder)
    (isTextual : ∀ member ∈ members, IsTextual nesting member.2) :
    IsTextual (nesting + 1) (.object members)

variable {value : Value}

theorem IsTextual.reads {nesting : Nat} (h : IsTextual nesting value) : Reads nesting value := by
  induction h with
  | string nesting text => exact reads_string nesting text
  | object horder _ ih => exact reads_object horder ih

/-- **A text is read as the value it is printed from**, which may be any of strings and objects. -/
theorem parse_render (h : IsTextual maxNesting value) : parse value.render = .ok value := by
  have hbytes : utf8Bytes value.render = encode value.chars ++ [] := by
    rw [utf8Bytes, Value.render, String.toList_ofList, List.append_nil]
  rw [parse, parseWith, hbytes, h.reads]
  rfl

/-! ### Line ends -/

/-- Line ends are escaped. -/
theorem not_mem_escapeChar {c : Char} (hc : c = '\r' ∨ c = '\n') (d : Char) : c ∉ escapeChar d := by
  have hcontrols : ∀ n : Fin 0x20, '\r' ∉ fourHexDigits n ∧ '\n' ∉ fourHexDigits n := by
    decide +kernel
  unfold escapeChar
  split
  any_goals rcases hc with rfl | rfl <;> decide
  · next hfeed hreturn _ =>
    split
    · next hlow =>
      obtain ⟨hreturn, hfeed⟩ := hcontrols ⟨d.toNat, hlow⟩
      rcases hc with rfl | rfl <;> simpa
    · rw [List.mem_singleton]
      rintro rfl
      exact hc.elim hreturn hfeed

theorem not_mem_renderString {c : Char} (hc : c = '\r' ∨ c = '\n') (text : String) :
    c ∉ renderString text := by
  have htext : c ∉ text.toList.flatMap escapeChar := by
    rw [List.mem_flatMap]
    rintro ⟨d, -, hmem⟩
    exact not_mem_escapeChar hc d hmem
  rcases hc with rfl | rfl <;> simp [renderString, htext]

/-- **No line ends within a value** that is printed. -/
theorem IsTextual.not_mem_chars {nesting : Nat} (h : IsTextual nesting value) {c : Char}
    (hc : c = '\r' ∨ c = '\n') : c ∉ value.chars := by
  induction h with
  | string nesting text =>
    rw [Value.chars]
    exact not_mem_renderString hc text
  | @object nesting members _ _ ih =>
    have hmember : ∀ member ∈ members, c ∉ memberText member := by
      intro member hmem
      have hname := not_mem_renderString hc member.1
      have hvalue := ih member hmem
      rcases hc with rfl | rfl <;> simp [memberText, hname, hvalue]
    have hmembers : c ∉ Value.memberChars members := by
      cases members with
      | nil => simp [Value.memberChars]
      | cons first rest =>
        obtain ⟨hfirst, hrest⟩ := List.forall_mem_cons.mp hmember
        have hbehind : c ∉ rest.flatMap fun other => ',' :: memberText other := by
          rw [List.mem_flatMap]
          rintro ⟨other, hother, hmem⟩
          rcases List.mem_cons.mp hmem with rfl | hmem
          · simp at hc
          · exact hrest other hother hmem
        rw [memberChars_cons, List.mem_append]
        exact not_or.mpr ⟨hfirst, hbehind⟩
    rcases hc with rfl | rfl <;> simp [Value.chars, hmembers]

end Json

end GlassTty
