import GlassTty.Proofs.Directive.JsonHeaders
import GlassTty.Proofs.Directive.Lengths
import GlassTty.Proofs.Host.Files

/-!
# A file that is saved and opened again

A validated payload may save its body under a name, and another may open the file of that name in
the editor. What is opened is what was saved, byte for byte, if it is not larger than the limit, and
otherwise a message that tells the limit and nothing of the file
(`GlassTty.Directive.saved_file_opens`).

The body passes through the reading of the payload on the way in, where neither line ends nor what
looks like headers may be taken for more than they are (`GlassTty.Headers.parse_json`), and through
Base64 on the way out (`GlassTty.DirectiveEvent.decodedBody?_withBody`). In between it lies in a
file (`GlassTty.FileSystem.KeepsFile`), of which one byte more than the limit is read.
-/

namespace GlassTty

/-- Headers that ask for something to be done with the file of a name. -/
structure Headers.Asks (h : Headers) (response path : String) : Prop where
  response_eq : h.response = response
  filepath_eq : h.parameter? "filepath" = some path

/-- The headers that ask for it, as members of an object. -/
def Headers.asking (response path : String) : Json.Object :=
  [("x_term_parameters", .object [("filepath", .string path)]),
    ("x_term_response", .string response)]

theorem Headers.asks_asking (response path : String) :
    (ofObject (asking response path)).Asks response path :=
  ⟨rfl, rfl⟩

/-- Whatever the name is, there are headers for it. -/
theorem Headers.isJson_asking (response path : String) :
    IsJson (Json.Value.object (asking response path)).chars (asking response path) := by
  have hparameters : Json.IsTextual 126 (.object [("filepath", .string path)]) :=
    .object (List.pairwise_singleton _ _) (by simpa using .string 125 path)
  refine isJson_chars (.object ?_ ?_)
  · have hnames : "x_term_parameters" < "x_term_response" := by decide
    exact List.pairwise_pair.mpr hnames
  · simpa [asking] using ⟨hparameters, .string 126 response⟩

namespace Directive

variable {files : FileSystem} {headers : Headers} {path : String} {place : Place}

/-! ### Saving -/

/-- The event that tells that a file is saved. -/
def savedEvent (path : String) : DirectiveEvent where
  kind := .saveStatus
  params := [("filepath", .string path), ("status", .string "")]

theorem saveFile_eq (hfile : files.KeepsFile path.toList place) (data : Bytes) :
    ∃ executable, saveFile files path data =
      (savedEvent path, files.put place (.file data executable)) := by
  obtain ⟨executable, hwrite⟩ := hfile.write data
  refine ⟨executable, ?_⟩
  rw [saveFile, hwrite]
  rfl

/-- **A payload that saves its body** comes to a file with this body. -/
theorem interpret_of_asks_save {payload body : List Char} (maxFileBytes : Nat)
    (extract : TextExtractor) (hparse : Headers.parse (Text.trimStart payload) = (headers, body))
    (hasks : headers.Asks "save_file" path) (hfile : files.KeepsFile path.toList place) :
    ∃ executable, interpret files payload true maxFileBytes extract =
      (savedEvent path, files.put place (.file (Utf8.encode body) executable)) := by
  obtain ⟨executable, hsave⟩ := saveFile_eq hfile (Utf8.encode body)
  refine ⟨executable, ?_⟩
  rw [interpret, hparse]
  simp only [if_true, interpretValidated, hasks.response_eq, hasks.filepath_eq, hsave]

/-! ### Opening -/

/-- **A payload that opens a file** changes none. -/
theorem interpret_of_response_edit {payload : List Char} (files : FileSystem) (validated : Bool)
    (maxFileBytes : Nat) (extract : TextExtractor)
    (h : (Headers.parse (Text.trimStart payload)).1.response = "edit_file") :
    (interpret files payload validated maxFileBytes extract).2 = files := by
  cases validated with
  | true =>
    rw [interpret]
    simp only [if_true, interpretValidated, h]
  | false => rfl

theorem interpret_of_asks_edit {payload : List Char} (files : FileSystem) (maxFileBytes : Nat)
    (extract : TextExtractor)
    (h : (Headers.parse (Text.trimStart payload)).1.Asks "edit_file" path) :
    (interpret files payload true maxFileBytes extract).1 =
      editFile files (Headers.parse (Text.trimStart payload)).1 maxFileBytes := by
  rw [interpret]
  simp only [if_true, interpretValidated, h.response_eq]

/-- The message in place of a file that is larger than the limit. -/
def tooLargeEvent (path : String) (limit : Nat) : DirectiveEvent :=
  output true .errorMessage (utf8Bytes
    ("ERROR in opening file '" ++ path ++ "': " ++ (DirectiveError.tooLarge limit).message))

theorem readCapped_put (hfile : files.KeepsFile path.toList place) (data : Bytes)
    (executable : Bool) (limit : Nat) :
    readCapped (files.put place (.file data executable)) path limit =
      if limit < data.length then .error (.tooLarge limit) else .ok data := by
  rw [readCapped, hfile.readUpTo_put]
  dsimp only
  by_cases h : limit < data.length
  · rw [if_pos h, if_pos (by rw [List.length_take]; omega)]
  · rw [if_neg h, if_neg (by rw [List.length_take]; omega), List.take_of_length_le (by omega)]

/-- **A file that is not too large** is shown in the editor. -/
theorem editFile_put_of_le (hfile : files.KeepsFile path.toList place)
    (hpath : headers.parameter? "filepath" = some path) {data : Bytes} (executable : Bool)
    {limit : Nat} (h : data.length ≤ limit) :
    ∃ shown, editFile (files.put place (.file data executable)) headers limit =
      output true shown data := by
  unfold editFile
  simp only [hpath, readCapped_put hfile, if_neg h.not_gt]
  exact ⟨_, rfl⟩

/-- **A file that is too large** comes to a message that does not depend on it. -/
theorem editFile_put_of_lt (hfile : files.KeepsFile path.toList place)
    (hpath : headers.parameter? "filepath" = some path) {data : Bytes} (executable : Bool)
    {limit : Nat} (h : limit < data.length) :
    editFile (files.put place (.file data executable)) headers limit =
      tooLargeEvent path limit := by
  unfold editFile
  simp only [hpath, readCapped_put hfile, if_pos h]
  rfl

/-! ### One after the other -/

/-- **What is saved is opened again**, unchanged up to the limit. Let a payload of an object, an
empty line and a content save this content under a name, and another payload open the file.

* The first tells that all went well, and of all places only that of the file changes.
* The second shows the content, if it is within the limit, and then there is a body only if there
  is a content. If it is not, there is a message which is the same for all contents over the limit.
* No payload that opens a file changes any. -/
theorem saved_file_opens :
    (∀ (files : FileSystem) (path : String) (place : Place) (saving separator content : List Char)
        (members : Json.Object) (opening : List Char) (maxFileBytes limit : Nat)
        (extract : TextExtractor),
      files.KeepsFile path.toList place → Headers.IsJson saving members →
      (Headers.ofObject members).Asks "save_file" path → Headers.IsEmptyLine separator →
      (Headers.parse (Text.trimStart opening)).1.Asks "edit_file" path →
      let saved := interpret files (saving ++ separator ++ content) true maxFileBytes extract
      let opened := interpret saved.2 opening true limit extract
      (saved.1.kind = .saveStatus ∧ saved.1.params.get? "filepath" = some (.string path) ∧
          saved.1.params.get? "status" = some (.string "")) ∧
        (saved.2.workingDirectory = files.workingDirectory ∧
          ∀ other, other ≠ place → saved.2.nodeAt? other = files.nodeAt? other) ∧
        ((Utf8.encode content).length ≤ limit →
          opened.1.kind = .graphtermOutput ∧
            opened.1.params.get? "validated" = some (.bool true) ∧
            opened.1.decodedBody? = if content = [] then none else some (Utf8.encode content)) ∧
        (limit < (Utf8.encode content).length → opened.1 = tooLargeEvent path limit)) ∧
    ∀ (files : FileSystem) (payload : List Char) (validated : Bool) (limit : Nat)
      (extract : TextExtractor),
      (Headers.parse (Text.trimStart payload)).1.response = "edit_file" →
      (interpret files payload validated limit extract).2 = files := by
  refine ⟨?_, fun files payload validated limit extract =>
    interpret_of_response_edit files validated limit extract⟩
  intro files path place saving separator content members opening maxFileBytes limit extract hfile
    hsaving hsave hseparator hopen saved opened
  obtain ⟨executable, hsaved⟩ := interpret_of_asks_save maxFileBytes extract
    (Headers.parse_json hsaving hseparator content) hsave hfile
  have hfiles : saved.2 = files.put place (.file (Utf8.encode content) executable) :=
    congrArg Prod.snd hsaved
  have hopened : opened.1 = editFile (files.put place (.file (Utf8.encode content) executable))
      (Headers.parse (Text.trimStart opening)).1 limit := by
    rw [← hfiles]
    exact interpret_of_asks_edit saved.2 limit extract hopen
  refine ⟨?_, ⟨?_, fun other hother => ?_⟩, fun hsmall => ?_, fun hlarge => ?_⟩
  · rw [show saved.1 = savedEvent path from congrArg Prod.fst hsaved]
    exact ⟨rfl, rfl, rfl⟩
  · rw [hfiles]
    rfl
  · rw [hfiles, FileSystem.nodeAt?_put hfile.place_ne_nil, if_neg hother]
  · obtain ⟨shown, hshown⟩ := editFile_put_of_le hfile hopen.filepath_eq executable hsmall
    rw [hopened, hshown]
    refine ⟨rfl, rfl, ?_⟩
    rw [output, DirectiveEvent.decodedBody?_withBody]
    cases content with
    | nil => rfl
    | cons c rest =>
      have hlength := Utf8.length_le_length_encode (c :: rest)
      rw [List.length_cons] at hlength
      have hbytes : (Utf8.encode (c :: rest)).isEmpty = false :=
        List.isEmpty_eq_false_iff.mpr (List.ne_nil_of_length_pos (by omega))
      rw [hbytes, if_neg (List.cons_ne_nil c rest)]
      rfl
  · rw [hopened]
    exact editFile_put_of_lt hfile hopen.filepath_eq executable hlarge

/-- A content that begins with line ends and looks like headers behind them, as large as the limit
and by one byte larger than it. -/
theorem saved_file_opens_at_limit :
    let saving := (Json.Value.object (Headers.asking "save_file" "f")).chars
    let separator := ['\r', '\r']
    let content := ['\n', '\r', '\r', '\x7b']
    let opening := (Json.Value.object (Headers.asking "edit_file" "f")).chars ++ separator ++ []
    let saved := interpret default (saving ++ separator ++ content) true 0 PlainText.refuse
    (saved.1.params.get? "status" = some (.string "") ∧
        ∀ other, other ≠ [['f']] → saved.2.nodeAt? other = (default : FileSystem).nodeAt? other) ∧
      (interpret saved.2 opening true 4 PlainText.refuse).1.decodedBody? =
        some (Utf8.encode content) ∧
      (interpret saved.2 opening true 3 PlainText.refuse).1 = tooLargeEvent "f" 3 ∧
      (interpret saved.2 opening true 3 PlainText.refuse).2 = saved.2 := by
  intro saving separator content opening saved
  have hfile : (default : FileSystem).KeepsFile "f".toList [['f']] := ⟨rfl, nofun⟩
  have hseparator : Headers.IsEmptyLine separator := .inr (.inr rfl)
  have hasks : (Headers.parse (Text.trimStart opening)).1.Asks "edit_file" "f" := by
    rw [Headers.parse_json (Headers.isJson_asking "edit_file" "f") hseparator]
    exact Headers.asks_asking "edit_file" "f"
  have hsaved :
      interpret default (saving ++ separator ++ content) true 0 PlainText.refuse = saved := rfl
  have hlength : (Utf8.encode content).length = 4 := rfl
  have hopened (limit : Nat) := saved_file_opens.1 default "f" [['f']] saving separator content _
    opening 0 limit PlainText.refuse hfile (Headers.isJson_asking "save_file" "f")
    (Headers.asks_asking "save_file" "f") hseparator hasks
  obtain ⟨⟨-, -, hstatus⟩, ⟨-, hother⟩, hshown, -⟩ := hopened 4
  obtain ⟨-, -, -, hmessage⟩ := hopened 3
  rw [hsaved] at hstatus hother hshown hmessage
  obtain ⟨-, -, hbody⟩ := hshown hlength.le
  rw [if_neg (List.cons_ne_nil _ _)] at hbody
  exact ⟨⟨hstatus, hother⟩, hbody, hmessage (by rw [hlength]; decide),
    saved_file_opens.2 saved.2 opening true 3 PlainText.refuse hasks.response_eq⟩

end Directive

end GlassTty
