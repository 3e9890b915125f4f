import GlassTty.Directive.Interpret
import GlassTty.Proofs.Json.Object
import GlassTty.Proofs.Text.Base64
import GlassTty.Proofs.Text.Lines

/-!
# The length that is stated of a body

Two kinds of events state a length. An event that shows something states it among the headers it
reports, one that stores a blob among its parameters. In both, the names come from the payload, and
a payload may give a length of its own. It does not count: the length is put in last and is that of
the content which goes along (`GlassTty.DirectiveEvent.StatesLength`).

Content goes along in two ways, too. What is shown is written in Base64 on the way out, and an empty
content is left out. A blob is in Base64 already and goes out as it came, blanks removed. Reading
the body gives the content back in either case (`GlassTty.DirectiveEvent.Carries`).
-/

namespace GlassTty

/-! ### Contents and their lengths -/

namespace DirectiveEvent

/-- A content goes along with an event: it is read from the body, and where there is no body, there
is no content. -/
def Carries (e : DirectiveEvent) (content : Bytes) : Prop :=
  e.decodedBody? = some content ∨ (e.body = none ∧ content = [])

/-- The length among the given members is that of the content which goes along. -/
def StatesLengthIn (e : DirectiveEvent) (o : Json.Object) : Prop :=
  ∃ content, e.Carries content ∧ o.get? "content_length" = some (.nat content.length)

/-- **An event states the length of its body**, if it is of a kind that states one. -/
structure StatesLength (e : DirectiveEvent) : Prop where
  /-- What is shown has its length among the headers. -/
  shown : e.kind = .graphtermOutput →
    ∃ headers, e.params.get? "headers" = some (.object headers) ∧ e.StatesLengthIn headers
  /-- A blob has it among the parameters. -/
  blob : e.kind = .createBlob → e.StatesLengthIn e.params

variable {e : DirectiveEvent}

theorem StatesLength.of_kind (hshown : e.kind ≠ .graphtermOutput) (hblob : e.kind ≠ .createBlob) :
    e.StatesLength :=
  ⟨fun h => absurd h hshown, fun h => absurd h hblob⟩

theorem statesLength_alert (message : String) : (alert message).StatesLength :=
  .of_kind nofun nofun

theorem decodedBody?_withEncodedBody (e : DirectiveEvent) (text : List Char) :
    (e.withEncodedBody (String.ofList text)).decodedBody? = Base64.decode? text := by
  rw [decodedBody?, withEncodedBody, Option.bind_some, String.toList_ofList]

/-- What is put in as a body is read back. -/
theorem decodedBody?_withBody (e : DirectiveEvent) (content : Bytes) :
    (e.withBody content).decodedBody? = if content.isEmpty then none else some content := by
  rw [decodedBody?, withBody]
  split_ifs
  · rfl
  · rw [Option.bind_some, String.toList_ofList, Base64.decode?_encode]

theorem carries_withBody (e : DirectiveEvent) (content : Bytes) :
    (e.withBody content).Carries content := by
  cases content with
  | nil => exact .inr ⟨rfl, rfl⟩
  | cons b rest => exact .inl (decodedBody?_withBody e (b :: rest))

end DirectiveEvent

namespace Directive

open DirectiveEvent

/-! ### The uses of a payload -/

theorem get?_headers_output (validated : Bool) (headers : Headers) (content : Bytes) :
    (output validated headers content).params.get? "headers" =
      some (.object (headers.toObject content.length)) :=
  rfl

theorem get?_contentLength_toObject (headers : Headers) (length : Nat) :
    (headers.toObject length).get? "content_length" = some (.nat length) :=
  (Json.Object.get?_insert _).trans (if_pos rfl)

/-- What is shown states the length of its content, whatever its headers are. -/
theorem statesLength_output (validated : Bool) (headers : Headers) (content : Bytes) :
    (output validated headers content).StatesLength where
  shown _ := ⟨_, get?_headers_output validated headers content, content,
    carries_withBody _ content, get?_contentLength_toObject headers content.length⟩
  blob h := nomatch h

/-- **A body that is Base64**, blanks not counting, is stored. -/
theorem createBlob_of_encoded {headers : Headers} {blobId : String} {body : List Char}
    {content : Bytes} (hid : headers.parameter? "blob_id" = some blobId)
    (hbody : body.filter (!isBlank ·) = Base64.encode content) :
    (createBlob headers body).kind = .createBlob ∧
      (createBlob headers body).decodedBody? = some content ∧
      (createBlob headers body).params.get? "content_length" = some (.nat content.length) := by
  have hdecode : Base64.decode? (Text.words body).flatten = some content := by
    rw [Text.flatten_words, hbody, Base64.decode?_encode]
  simp only [createBlob, hid, hdecode]
  refine ⟨rfl, ?_, (Json.Object.get?_insert _).trans (if_pos rfl)⟩
  rw [decodedBody?_withEncodedBody, hdecode]

/-- A blob that is stored states the length of its content, and all else is a message. -/
theorem statesLength_createBlob (headers : Headers) (body : List Char) :
    (createBlob headers body).StatesLength := by
  cases hid : headers.parameter? "blob_id" with
  | none =>
    simp only [createBlob, hid]
    exact statesLength_alert _
  | some blobId =>
    cases hdecode : Base64.decode? (Text.words body).flatten with
    | none =>
      simp only [createBlob, hid, hdecode]
      exact statesLength_alert _
    | some content =>
      have hbody : body.filter (!isBlank ·) = Base64.encode content := by
        rw [← Text.flatten_words, Base64.decode?_eq_some_iff.mp hdecode]
      obtain ⟨hkind, hcontent, hlength⟩ := createBlob_of_encoded hid hbody
      refine ⟨fun h => ?_, fun _ => ⟨content, .inl hcontent, hlength⟩⟩
      rw [hkind] at h
      cases h

theorem statesLength_editFile (files : FileSystem) (headers : Headers) (maxFileBytes : Nat) :
    (editFile files headers maxFileBytes).StatesLength := by
  unfold editFile
  split
  · exact statesLength_alert _
  · split
    · exact statesLength_output _ _ _
    · exact statesLength_output _ _ _

/-- **Every use of a payload** comes to an event that states the length of its body. -/
theorem statesLength_interpretValidated (files : FileSystem) (headers : Headers)
    (content : List Char) (maxFileBytes : Nat) :
    (interpretValidated files headers content maxFileBytes).1.StatesLength := by
  unfold interpretValidated
  split
  · exact statesLength_createBlob headers content
  · exact statesLength_editFile files headers maxFileBytes
  · split
    · exact .of_kind nofun nofun
    · exact statesLength_alert _
  · exact .of_kind nofun nofun
  · exact statesLength_output _ _ _

/-- **The length that is stated is that of the body**, whatever the payload says about it. And a
blob goes out as it was written: with blanks put anywhere into its Base64, it is stored and has the
length that it had. -/
theorem interpret_states_length :
    (∀ (files : FileSystem) (payload : List Char) (validated : Bool) (maxFileBytes : Nat)
        (extract : TextExtractor),
      (interpret files payload validated maxFileBytes extract).1.StatesLength) ∧
    ∀ (files : FileSystem) (payload : List Char) (maxFileBytes : Nat) (extract : TextExtractor)
      (headers : Headers) (body : List Char) (blobId : String) (content : Bytes),
      Headers.parse (Text.trimStart payload) = (headers, body) →
      headers.response = "create_blob" → headers.parameter? "blob_id" = some blobId →
      body.filter (!isBlank ·) = Base64.encode content →
      let event := (interpret files payload true maxFileBytes extract).1
      event.kind = .createBlob ∧ event.decodedBody? = some content ∧
        event.params.get? "content_length" = some (.nat content.length) := by
  constructor
  · intro files payload validated maxFileBytes extract
    cases validated with
    | true => exact statesLength_interpretValidated files _ _ maxFileBytes
    | false => exact statesLength_output false _ _
  · intro files payload maxFileBytes extract headers body blobId content hparse hresponse hid hbody
    have hevent : (interpret files payload true maxFileBytes extract).1 =
        createBlob headers body := by
      rw [interpret, hparse]
      simp only [if_true, interpretValidated, hresponse]
    simp only [hevent]
    exact createBlob_of_encoded hid hbody

/-- The payload states a length of its own, and the Base64 of two bytes is cut by blanks. -/
theorem interpret_states_length_blob :
    let payload := ("X-Term-Response: create_blob\ncontent-length: 8\n" ++
      "X-Term-Parameters: \x7b\"blob_id\":\"b\"\x7d\n\n\n aG\nk\t=").toList
    let content : Bytes := [0x68, 0x69]
    let parsed := Headers.parse (Text.trimStart payload)
    let event := (interpret default payload true 0 PlainText.refuse).1
    (parsed.1.response = "create_blob" ∧ parsed.1.parameter? "blob_id" = some "b" ∧
        parsed.2.filter (!isBlank ·) = Base64.encode content) ∧
      event.kind = .createBlob ∧ event.decodedBody? = some content ∧
        event.params.get? "content_length" = some (.nat 2) := by
  intro payload content parsed event
  have hparsed : parsed.1.response = "create_blob" ∧ parsed.1.parameter? "blob_id" = some "b" ∧
      parsed.2.filter (!isBlank ·) = Base64.encode content := by decide +kernel
  obtain ⟨hresponse, hid, hbody⟩ := hparsed
  exact ⟨⟨hresponse, hid, hbody⟩,
    interpret_states_length.2 default payload 0 PlainText.refuse parsed.1 parsed.2 "b" content rfl
      hresponse hid hbody⟩

end Directive

end GlassTty
