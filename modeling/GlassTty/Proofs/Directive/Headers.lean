import GlassTty.Directive.Headers
import GlassTty.Proofs.Json.Object
import GlassTty.Proofs.Text.Lines
import GlassTty.Proofs.Text.Parts

/-!
# Headers on lines are read as they were written

Headers are written one a line, a name, a colon, a space and a value (`GlassTty.Headers.Written`),
with an empty line behind them and then a body. What is read is what was written: the body as it
is, and each value under its name as it is compared (`GlassTty.Headers.parse_written`).

There are three ways to write the empty line and the reader looks for all of them, in the headers,
where the one meets the other and in the body. The one that was written comes first. A name is
never empty, so none begins within the headers, and none of the three is the beginning of another
(`GlassTty.Headers.cutBody_append`).
-/

namespace GlassTty.Headers

open Text (IsLineEnd Tight)

/-! ### Headers that are written -/

/-- The characters of which a name is made. -/
def IsNameChar (c : Char) : Prop :=
  c.isAlphanum = true ∨ c = '-' ∨ c = '_'

instance (c : Char) : Decidable (IsNameChar c) :=
  inferInstanceAs (Decidable (_ ∨ _))

/-- A name is a word over these characters. -/
structure IsName (name : List Char) : Prop where
  ne_nil : name ≠ []
  isNameChar : ∀ c ∈ name, IsNameChar c

instance (name : List Char) : Decidable (IsName name) :=
  decidable_of_iff (name.isEmpty = false ∧ name.all (decide <| IsNameChar ·) = true)
    ⟨fun h => ⟨by simpa using h.1, by simpa using h.2⟩,
      fun h => ⟨by simpa using h.ne_nil, by simpa using h.isNameChar⟩⟩

/-- A header: a name, and a value that fits on a line. -/
structure Field where
  name : List Char
  value : List Char
  isName : IsName name
  return_not_mem : '\r' ∉ value
  lineFeed_not_mem : '\n' ∉ value
  tight : Tight value

namespace Field

/-- The name as it is compared. -/
def key (f : Field) : String :=
  String.ofList (f.name.map fun c => if c = '-' then '_' else c.toLower)

/-- The header as a member of an object. -/
def member (f : Field) : String × Json.Value :=
  (f.key, .string (String.ofList f.value))

/-- The header on a line. -/
def line (f : Field) : List Char :=
  f.name ++ ':' :: ' ' :: f.value

end Field

/-- **Headers are written** on lines of their own, with line ends of either kind between them. -/
inductive Written : List Field → List Char → Prop where
  | last (f : Field) : Written [f] f.line
  | cons (f : Field) {lineEnd : List Char} (hend : IsLineEnd lineEnd) {fields : List Field}
    {head : List Char} (rest : Written fields head) :
    Written (f :: fields) (f.line ++ (lineEnd ++ head))

/-- The three ways to write an empty line behind the headers. -/
def IsEmptyLine (text : List Char) : Prop :=
  text = ['\r', '\n', '\r', '\n'] ∨ text = ['\n', '\n'] ∨ text = ['\r', '\r']

/-- The value that is given to a name, and the empty text if none is. -/
def given (fields : List Field) (key : String) : String :=
  ((fields.find? (·.key = key)).map fun f => String.ofList f.value).getD ""

/-- The headers but for the two that have a field of their own. -/
def others (fields : List Field) : List Field :=
  fields.filter fun f => f.key ≠ "content_type" ∧ f.key ≠ "x_term_response"

/-! ### Names -/

namespace IsNameChar

variable {c : Char}

theorem toNat_lt (h : IsNameChar c) : c.toNat < 128 := by
  rcases h with h | rfl | rfl
  · delta Char.isAlphanum Char.isAlpha Char.isUpper Char.isLower Char.isDigit at h
    simp only [Bool.or_eq_true, Bool.and_eq_true, decide_eq_true_eq, ge_iff_le,
      UInt32.le_iff_toNat_le] at h
    have hval : c.val.toNat = c.toNat := rfl
    have hupper : 'Z'.val.toNat = 90 := rfl
    have hlower : 'z'.val.toNat = 122 := rfl
    have hdigit : '9'.val.toNat = 57 := rfl
    omega
  · decide
  · decide

/-- What holds of all characters of names is found out by trying them. -/
theorem elim {P : Char → Prop} (h : IsNameChar c)
    (hall : ∀ n < 128, IsNameChar (Char.ofNat n) → P (Char.ofNat n)) : P c := by
  rw [← Char.ofNat_toNat c] at h ⊢
  exact hall c.toNat (by simpa using h.toNat_lt) h

theorem ne {d : Char} (h : IsNameChar c) (hd : ¬IsNameChar d) : c ≠ d := by
  rintro rfl
  exact hd h

theorem isBlank_eq_false (h : IsNameChar c) : isBlank c = false :=
  h.elim (P := fun c => isBlank c = false) (by decide)

theorem lower (h : IsNameChar c) :
    (if c.toLower = '-' then '_' else c.toLower) = if c = '-' then '_' else c.toLower :=
  h.elim (P := fun c => (if c.toLower = '-' then '_' else c.toLower) =
    if c = '-' then '_' else c.toLower) (by decide)

end IsNameChar

namespace Field

variable (f : Field)

theorem not_mem_name {c : Char} (h : ¬IsNameChar c) : c ∉ f.name :=
  fun hmem => h (f.isName.isNameChar c hmem)

theorem tight_name : Tight f.name where
  head c hc := (f.isName.isNameChar c (List.mem_of_mem_head? hc)).isBlank_eq_false
  last c hc := (f.isName.isNameChar c (List.mem_of_getLast? hc)).isBlank_eq_false

/-- A name is read as it is compared. -/
theorem normalName_name : normalName f.name = f.key := by
  rw [normalName, f.tight_name.trim_eq_self, Text.asciiLower, List.map_map, key]
  exact congrArg String.ofList (List.map_congr_left fun c hc => (f.isName.isNameChar c hc).lower)

/-- No line end stands on the line of a header. -/
theorem not_mem_line {c : Char} (h : c = '\r' ∨ c = '\n') : c ∉ f.line := by
  have hvalue : c ∉ f.value := by
    rcases h with rfl | rfl
    · exact f.return_not_mem
    · exact f.lineFeed_not_mem
  have hname : c ∉ f.name := f.not_mem_name (by rcases h with rfl | rfl <;> decide)
  rcases h with rfl | rfl <;> simp [line, hname, hvalue]

theorem exists_line_eq_cons : ∃ c rest, f.line = c :: rest ∧ IsNameChar c := by
  obtain ⟨c, tail, hname⟩ := List.exists_cons_of_ne_nil f.isName.ne_nil
  exact ⟨c, _, by rw [line, hname, List.cons_append],
    f.isName.isNameChar c (hname ▸ List.mem_cons_self)⟩

end Field

/-! ### The end of the headers -/

theorem mem_separators_iff {text : List Char} : text ∈ separators ↔ IsEmptyLine text := by
  simp [separators, IsEmptyLine]

namespace IsEmptyLine

variable {part other : List Char}

/-- An empty line begins with a character that ends a line. -/
theorem exists_eq_cons (h : IsEmptyLine part) :
    ∃ c tail, part = c :: tail ∧ (c = '\r' ∨ c = '\n') := by
  rcases h with rfl | rfl | rfl
  · exact ⟨_, _, rfl, .inl rfl⟩
  · exact ⟨_, _, rfl, .inr rfl⟩
  · exact ⟨_, _, rfl, .inl rfl⟩

theorem ne_nil (h : IsEmptyLine part) : part ≠ [] := by
  obtain ⟨c, tail, rfl, -⟩ := h.exists_eq_cons
  exact List.cons_ne_nil c tail

/-- No way to write an empty line is the beginning of another. -/
theorem eq_of_prefix_append (h : IsEmptyLine part) (hother : IsEmptyLine other)
    {rest : List Char} (hbegins : other <+: part ++ rest) : other = part := by
  rcases h with rfl | rfl | rfl <;> rcases hother with rfl | rfl | rfl <;>
    first | rfl | simp at hbegins

/-- No empty line begins at the end of a line that a name follows. -/
theorem cut?_lineEnd (h : IsEmptyLine part) {lineEnd : List Char} (hend : IsLineEnd lineEnd)
    {c : Char} (hc : IsNameChar c) (rest : List Char) :
    Text.cut? part (lineEnd ++ c :: rest) =
      (Text.cut? part (c :: rest)).map fun (before, after) => (lineEnd ++ before, after) := by
  have hreturn : '\r' ≠ c := (hc.ne (by decide)).symm
  have hfeed : '\n' ≠ c := (hc.ne (by decide)).symm
  have hskip : ∀ d ∈ ['\r', '\n'], ¬part <+: d :: c :: rest := by
    rcases h with rfl | rfl | rfl <;> simp [hreturn, hfeed]
  have hskip' : ¬part <+: '\r' :: '\n' :: c :: rest := by
    rcases h with rfl | rfl | rfl <;> simp [hreturn]
  rcases hend with rfl | rfl
  · exact Text.cut?_cons (hskip '\n' (by simp))
  · have hwhole : ['\r', '\n'] ++ c :: rest = '\r' :: '\n' :: c :: rest := rfl
    rw [hwhole, Text.cut?_cons hskip', Text.cut?_cons (hskip '\n' (by simp)), Option.map_map]
    rfl

end IsEmptyLine

namespace Written

variable {fields : List Field} {head : List Char}

theorem exists_eq_cons (h : Written fields head) : ∃ c rest, head = c :: rest ∧ IsNameChar c := by
  cases h with
  | last f => exact f.exists_line_eq_cons
  | cons f hend rest =>
    obtain ⟨c, tail, hline, hc⟩ := f.exists_line_eq_cons
    exact ⟨c, _, by rw [hline, List.cons_append], hc⟩

/-- **No empty line begins within the headers.** -/
theorem cut?_append (h : Written fields head) {part : List Char} (hpart : IsEmptyLine part)
    (rest : List Char) :
    Text.cut? part (head ++ rest) =
      (Text.cut? part rest).map fun (before, after) => (head ++ before, after) := by
  obtain ⟨d, tail, rfl, hd⟩ := hpart.exists_eq_cons
  induction h with
  | last f => exact Text.cut?_append_of_not_mem (f.not_mem_line hd) rest
  | cons f hend hrest ih =>
    obtain ⟨c, more, rfl, hc⟩ := hrest.exists_eq_cons
    rw [List.append_assoc, Text.cut?_append_of_not_mem (f.not_mem_line hd), List.append_assoc,
      List.cons_append, hpart.cut?_lineEnd hend hc, ← List.cons_append, ih, Option.map_map,
      Option.map_map]
    congr 1
    funext ⟨before, after⟩
    simp

end Written

theorem earlier_eq {cut x y : List Char × List Char} (hmem : cut = x ∨ cut = y)
    (hx : x = cut ∨ cut.1.length < x.1.length) (hy : y = cut ∨ cut.1.length < y.1.length) :
    earlier x y = cut := by
  unfold earlier
  rcases hx with rfl | hx
  · rcases hy with rfl | hy
    · exact ite_self _
    · exact if_neg hy.not_gt
  · obtain rfl : cut = y := hmem.resolve_left (by rintro rfl; exact lt_irrefl _ hx)
    exact if_pos hx

/-- The earliest of several cuts is the one that is taken. -/
theorem foldl_earlier_eq {cut first : List Char × List Char} {cuts : List (List Char × List Char)}
    (hmem : cut ∈ first :: cuts)
    (hleast : ∀ other ∈ first :: cuts, other = cut ∨ cut.1.length < other.1.length) :
    cuts.foldl earlier first = cut := by
  induction cuts generalizing first with
  | nil => exact (List.mem_singleton.mp hmem).symm
  | cons second cuts ih =>
    obtain ⟨hfirst, hrest⟩ := List.forall_mem_cons.mp hleast
    obtain ⟨hsecond, hcuts⟩ := List.forall_mem_cons.mp hrest
    rw [List.foldl_cons]
    by_cases hone : cut = first ∨ cut = second
    · rw [earlier_eq hone hfirst hsecond]
      exact ih List.mem_cons_self (List.forall_mem_cons.mpr ⟨.inl rfl, hcuts⟩)
    · -- it is further behind, whichever of the two is kept
      obtain ⟨hnotFirst, hnotSecond⟩ := not_or.mp hone
      have hbehind : cut ∈ cuts := by simpa [hnotFirst, hnotSecond] using hmem
      have hkept : earlier first second = cut ∨ cut.1.length < (earlier first second).1.length := by
        unfold earlier
        split_ifs
        · exact hsecond
        · exact hfirst
      exact ih (List.mem_cons_of_mem _ hbehind) (List.forall_mem_cons.mpr ⟨hkept, hcuts⟩)

/-- **The body begins behind the headers**, whatever it is, if no empty line begins within them. -/
theorem cutBody_append {head separator : List Char}
    (hcut : ∀ part, IsEmptyLine part → ∀ rest, Text.cut? part (head ++ rest) =
      (Text.cut? part rest).map fun (before, after) => (head ++ before, after))
    (hseparator : IsEmptyLine separator) (body : List Char) :
    cutBody (head ++ separator ++ body) = (head, body) := by
  have hmem : (head, body) ∈ separators.filterMap (Text.cut? · (head ++ separator ++ body)) := by
    refine List.mem_filterMap.mpr ⟨separator, mem_separators_iff.mpr hseparator, ?_⟩
    rw [List.append_assoc, hcut separator hseparator, Text.cut?_append hseparator.ne_nil]
    simp
  have hleast : ∀ cut ∈ separators.filterMap (Text.cut? · (head ++ separator ++ body)),
      cut = (head, body) ∨ head.length < cut.1.length := by
    intro cut hfound
    obtain ⟨part, hpart, hsome⟩ := List.mem_filterMap.mp hfound
    rw [List.append_assoc, hcut part (mem_separators_iff.mp hpart)] at hsome
    obtain ⟨⟨before, after⟩, hbehind, rfl⟩ := Option.map_eq_some_iff.mp hsome
    cases before with
    | cons c before => exact .inr (by simp)
    | nil =>
      have hbegins : part <+: separator ++ body := ⟨after, (Text.eq_append_of_cut? hbehind).symm⟩
      obtain rfl := hseparator.eq_of_prefix_append (mem_separators_iff.mp hpart) hbegins
      rw [Text.cut?_append hseparator.ne_nil] at hbehind
      cases hbehind
      exact .inl (by simp)
  unfold cutBody
  split
  · next hnone => rw [hnone] at hmem; cases hmem
  · next first rest hsome =>
    rw [hsome] at hmem hleast
    exact foldl_earlier_eq hmem hleast

theorem cutBody_written {fields : List Field} {head separator : List Char}
    (h : Written fields head) (hseparator : IsEmptyLine separator) (body : List Char) :
    cutBody (head ++ separator ++ body) = (head, body) :=
  cutBody_append (fun _ hpart rest => h.cut?_append hpart rest) hseparator body

/-! ### Lines that are read -/

/-- A line on which a header stands: what is behind the colon is its value when it is trimmed. -/
def Holds (f : Field) (line : List Char) : Prop :=
  ∃ text, line = f.name ++ ':' :: text ∧ Text.trim text = f.value

theorem Field.holds_line (f : Field) : Holds f f.line :=
  ⟨_, rfl, by rw [Text.trim_cons_of_blank (by decide), f.tight.trim_eq_self]⟩

theorem Field.holds_trimEnd_line (f : Field) : Holds f (Text.trimEnd f.line) := by
  have hline : Text.trimEnd f.line = f.name ++ ':' :: Text.trimEnd (' ' :: f.value) := by
    rw [line, Text.trimEnd_append ⟨':', List.mem_cons_self, by decide⟩,
      Text.trimEnd_cons (by decide)]
  refine ⟨_, hline, ?_⟩
  cases hvalue : f.value with
  | nil => decide
  | cons c rest =>
    have hlast : ∀ d ∈ (' ' :: c :: rest).getLast?, isBlank d = false := by
      rw [List.getLast?_cons_cons, ← hvalue]
      exact f.tight.last
    rw [Text.trimEnd_eq_self hlast, Text.trim_cons_of_blank (by decide), ← hvalue,
      f.tight.trim_eq_self]

/-- Headers begin with a name, and so nothing is trimmed there. -/
theorem Written.trim_eq_trimEnd {fields : List Field} {head : List Char} (h : Written fields head) :
    Text.trim head = Text.trimEnd head := by
  obtain ⟨c, rest, rfl, hc⟩ := h.exists_eq_cons
  rw [Text.trim, Text.trimStart_eq_self]
  rintro _ ⟨⟩
  exact hc.isBlank_eq_false

/-- **Each header stands on a line of its own**, and all lines are such. -/
theorem Written.forall₂_holds {fields : List Field} {head : List Char} (h : Written fields head) :
    List.Forall₂ Holds fields (Text.lines (Text.trim head)) := by
  rw [h.trim_eq_trimEnd]
  induction h with
  | last f =>
    obtain ⟨text, htext, hvalue⟩ := f.holds_trimEnd_line
    have hfeed : '\n' ∉ Text.trimEnd f.line := fun hmem =>
      f.not_mem_line (.inr rfl) (Text.mem_of_mem_trimEnd hmem)
    have hne : Text.trimEnd f.line ≠ [] := by simp [htext]
    rw [Text.lines_eq_singleton hfeed hne]
    exact .cons f.holds_trimEnd_line .nil
  | cons f hend rest ih =>
    obtain ⟨c, more, rfl, hc⟩ := rest.exists_eq_cons
    rw [Text.trimEnd_append ⟨c, by simp, hc.isBlank_eq_false⟩,
      Text.trimEnd_append ⟨c, by simp, hc.isBlank_eq_false⟩,
      Text.lines_append hend (f.not_mem_line (.inr rfl)) (f.not_mem_line (.inl rfl))]
    exact .cons f.holds_line ih

/-- A line with a header is read as its member. -/
theorem readLines_of_forall₂_holds {fields : List Field} {lines : List (List Char)}
    (h : List.Forall₂ Holds fields lines) (hfree : ∀ f ∈ fields, f.key ≠ parametersKey)
    (o : Json.Object) :
    readLines o lines =
      .ok ((fields.map Field.member).foldl (fun o (name, value) => o.insert name value) o) := by
  induction h generalizing o with
  | nil => rfl
  | @cons f line fields lines hline hlines ih =>
    obtain ⟨text, rfl, htext⟩ := hline
    obtain ⟨hf, hfields⟩ := List.forall_mem_cons.mp hfree
    have hcut : Text.cut? [':'] (f.name ++ ':' :: text) = some (f.name, text) := by
      have hcolon := Text.cut?_append (List.cons_ne_nil ':' []) text
      rw [List.singleton_append] at hcolon
      rw [Text.cut?_append_of_not_mem (f.not_mem_name (by decide)), hcolon]
      simp
    rw [readLines, hcut]
    dsimp only
    rw [f.normalName_name, lineValue, if_neg hf, htext, ih hfields]
    rfl

/-! ### What the headers say -/

/-- The text under a name is the value given to it. -/
theorem textOf_get? {fields : List Field} {o : Json.Object}
    (hperm : o.Perm (fields.map Field.member)) (horder : o.InOrder) (key : String) :
    textOf (o.get? key) = given fields key := by
  rw [given]
  cases hfind : fields.find? (·.key = key) with
  | none =>
    have hnone : o.get? key = none := by
      rw [Json.Object.get?_eq_none_iff, Json.Object.names, (hperm.map Prod.fst).mem_iff]
      simpa [Field.member] using List.find?_eq_none.mp hfind
    rw [hnone]
    rfl
  | some f =>
    have hkey : f.key = key := by simpa using List.find?_some hfind
    have hsome : o.get? key = some (.string (String.ofList f.value)) := by
      rw [Json.Object.get?_eq_some_iff horder.nodup_names, hperm.mem_iff, ← hkey]
      exact List.mem_map_of_mem (List.mem_of_find?_eq_some hfind)
    rw [hsome]
    rfl

theorem erase_map_member (fields : List Field) (name : String) :
    Json.Object.erase (fields.map Field.member) name =
      (fields.filter (·.key ≠ name)).map Field.member := by
  rw [Json.Object.erase, List.filter_map]
  rfl

/-- The members that are left are those of the other headers. -/
theorem erase_map_member_eq_others {fields : List Field}
    (hfree : ∀ f ∈ fields, f.key ≠ parametersKey) :
    ((Json.Object.erase (fields.map Field.member) "content_type").erase responseKey).erase
      parametersKey = (others fields).map Field.member := by
  have hresponse : responseKey = "x_term_response" := rfl
  rw [hresponse, erase_map_member, erase_map_member, erase_map_member, List.filter_filter,
    List.filter_filter, others]
  refine congrArg (List.map Field.member) (List.filter_congr fun f hf => ?_)
  simp [hfree f hf, Bool.and_comm]

/-- What is read of an object that has the headers as its members. -/
theorem ofObject_of_perm {fields : List Field} {o : Json.Object}
    (hperm : o.Perm (fields.map Field.member)) (horder : o.InOrder)
    (hfree : ∀ f ∈ fields, f.key ≠ parametersKey) :
    ∃ extra : Json.Object,
      ofObject o =
        { contentType := given fields "content_type"
          response := given fields "x_term_response"
          parameters := []
          extra } ∧
      extra.Perm ((others fields).map Field.member) ∧ extra.InOrder := by
  have hnone : o.get? parametersKey = none := by
    rw [Json.Object.get?_eq_none_iff, Json.Object.names, (hperm.map Prod.fst).mem_iff]
    simpa [Field.member] using hfree
  refine ⟨_, ?_, ?_, ((horder.erase "content_type").erase responseKey).erase parametersKey⟩
  · rw [ofObject, hnone, textOf_get? hperm horder, textOf_get? hperm horder]
    rfl
  · rw [← erase_map_member_eq_others hfree]
    exact ((hperm.filter _).filter _).filter _

/-- **Headers on lines are read as they were written**, behind them the body as it is. -/
theorem parse_written {fields : List Field} {head separator : List Char}
    (hhead : Written fields head) (hkeys : (fields.map Field.key).Nodup)
    (hfree : "x_term_parameters" ∉ fields.map Field.key) (hseparator : IsEmptyLine separator)
    (body : List Char) :
    ∃ extra : Json.Object,
      parse (head ++ separator ++ body) =
        ({ contentType := given fields "content_type"
           response := given fields "x_term_response"
           parameters := []
           extra }, body) ∧
      extra.Perm ((others fields).map Field.member) ∧ extra.InOrder := by
  have hfree' : ∀ f ∈ fields, f.key ≠ parametersKey := fun f hf hkey =>
    hfree (List.mem_map.mpr ⟨f, hf, hkey⟩)
  have hnames : (Json.Object.names (fields.map Field.member)).Nodup := by
    rw [Json.Object.names, List.map_map]
    exact hkeys
  obtain ⟨extra, hread, hextra, horder⟩ := ofObject_of_perm (Json.Object.ofList_perm hnames)
    (Json.Object.inOrder_ofList _) hfree'
  have hlines : readLines [] (Text.lines (Text.trim head)) =
      .ok (Json.Object.ofList (fields.map Field.member)) :=
    readLines_of_forall₂_holds hhead.forall₂_holds hfree' []
  obtain ⟨c, rest, hcons, hc⟩ := hhead.exists_eq_cons
  have hmarkup : (head ++ separator ++ body).head? ≠ some '<' := by
    simpa [hcons] using hc.ne (by decide)
  have hjson : (Text.trim head).head? ≠ some '\x7b' := by
    rw [hhead.trim_eq_trimEnd, hcons, Text.trimEnd_cons hc.isBlank_eq_false]
    simpa using hc.ne (by decide)
  refine ⟨extra, ?_, hextra, horder⟩
  rw [parse, if_neg hmarkup, cutBody_written hhead hseparator]
  dsimp only
  rw [if_neg hjson, hlines]
  dsimp only
  rw [hread]

/-- The line ends differ, the last value is empty, and the body begins with line ends of its own. -/
theorem parse_written_mixed :
    ∃ extra : Json.Object,
      parse "Content-Type: text/html\r\nA-b: c: d\nX-Term-Response: \r\r\n\r\rbody".toList =
        ({ contentType := "text/html", response := "", parameters := [], extra },
          "\n\r\rbody".toList) ∧
      extra.Perm [("a_b", .string "c: d")] ∧ extra.InOrder := by
  let contentType : Field := ⟨"Content-Type".toList, "text/html".toList, by decide, by decide,
    by decide, by decide⟩
  let other : Field := ⟨"A-b".toList, "c: d".toList, by decide, by decide, by decide, by decide⟩
  let response : Field := ⟨"X-Term-Response".toList, [], by decide, by decide, by decide,
    by decide⟩
  have hwritten := Written.cons contentType (.inr rfl) (.cons other (.inl rfl) (.last response))
  exact parse_written hwritten (by decide) (by decide) (.inr (.inr rfl)) "\n\r\rbody".toList

end GlassTty.Headers
