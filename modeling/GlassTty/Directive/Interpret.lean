import GlassTty.Directive.Headers
import GlassTty.Directive.PlainText
import GlassTty.Host.FileSystem
import GlassTty.Report.Event

/-!
# What a payload comes to

A complete payload is turned into one event for the viewer (`GlassTty.Directive.interpret`). If it
is validated its headers decide: it may store a blob, open or save a file, send a message to a
frame, or be shown. If it is not, it is shown as plain text whatever it says, and no file is
touched.
-/

namespace GlassTty

/-- Why a file cannot be shown or saved. -/
inductive DirectiveError where
  | tooLarge (limit : Nat)
  | file (path : String) (cause : FileError)
  deriving DecidableEq, Repr, Inhabited

/-- The wording of a failure. -/
def DirectiveError.message : DirectiveError → String
  | .tooLarge limit => "directive payload exceeded " ++ toString limit ++ " bytes"
  | .file path cause => "I/O error on " ++ path ++ ": " ++ cause.message

namespace Directive

/-- The greatest size of a file that is opened, unless another is asked for. -/
def defaultFileLimit : Nat := 1024 * 1024

/-! ### Showing -/

/-- **The event that shows a content** with its headers. -/
def output (validated : Bool) (headers : Headers) (content : Bytes) : DirectiveEvent :=
  DirectiveEvent.withBody
    { kind := .graphtermOutput
      params := Json.Object.ofList
        [("validated", .bool validated), ("headers", .object (headers.toObject content.length))] }
    content

/-- The event for a payload that passed the limit. -/
def overflowOutput (validated : Bool) (limit : Nat) : DirectiveEvent :=
  output validated .errorMessage (utf8Bytes (DirectiveError.tooLarge limit).message)

/-! ### The uses of a payload -/

/-- Store a blob: the body is Base64, blanks in it not counting. -/
def createBlob (headers : Headers) (content : List Char) : DirectiveEvent :=
  match headers.parameter? "blob_id" with
  | none => .alert "create_blob requires a blob_id"
  | some blobId =>
    let encoded := (Text.words content).flatten
    match Base64.decode? encoded with
    | none => .alert ("create_blob " ++ blobId ++ ": body is not base64")
    | some decoded =>
      DirectiveEvent.withEncodedBody
        { kind := .createBlob
          params := headers.parameters
            |> Json.Object.insert "blob_id" (.string blobId)
            |> Json.Object.insert "content_type" (.string headers.contentType)
            |> Json.Object.insert "content_length" (.nat decoded.length) }
        (String.ofList encoded)

/-- The kinds of files an editor knows, by the extensions of their names. -/
def fileTypes : List (String × String) :=
  [("css", "css"), ("htm", "html"), ("html", "html"), ("js", "javascript"), ("py", "python"),
    ("xml", "xml")]

/-- The kind of a file, from the extension of its name in small letters. -/
def fileType? (path : String) : Option String := do
  let extension ← Path.extension? path.toList
  fileTypes.lookup (String.ofList (Text.asciiLower extension))

/-- The content of a file, if it is not larger than `limit`: one byte more is asked for, and there
must be none. -/
def readCapped (files : FileSystem) (path : String) (limit : Nat) : Except DirectiveError Bytes :=
  match files.readUpTo (limit + 1) path.toList with
  | .error cause => .error (.file path cause)
  | .ok content => if limit < content.length then .error (.tooLarge limit) else .ok content

/-- Open a file in the editor. -/
def editFile (files : FileSystem) (headers : Headers) (maxFileBytes : Nat) : DirectiveEvent :=
  match headers.parameter? "filepath" with
  | none => .alert "edit_file requires a filepath"
  | some path =>
    match readCapped files path maxFileBytes with
    | .ok content =>
      let parameters :=
        match fileType? path with
        | some fileType => headers.parameters.insert "filetype" (.string fileType)
        | none => headers.parameters
      output true { headers with parameters } content
    | .error cause =>
      output true .errorMessage
        (utf8Bytes ("ERROR in opening file '" ++ path ++ "': " ++ cause.message))

/-- **Save a file** and tell how it went: the status is empty, or says what went wrong. -/
def saveFile (files : FileSystem) (path : String) (content : Bytes) : DirectiveEvent × FileSystem :=
  let (status, files) :=
    match files.write path.toList content with
    | .ok files => ("", files)
    | .error cause => ((DirectiveError.file path cause).message, files)
  ({ kind := .saveStatus
     params := Json.Object.ofList [("filepath", .string path), ("status", .string status)] },
   files)

/-! ### Interpretation -/

/-- What a validated payload comes to. -/
def interpretValidated (files : FileSystem) (headers : Headers) (content : List Char)
    (maxFileBytes : Nat) : DirectiveEvent × FileSystem :=
  match headers.response with
  | "create_blob" => (createBlob headers content, files)
  | "edit_file" => (editFile files headers maxFileBytes, files)
  | "save_file" =>
    match headers.parameter? "filepath" with
    | some path => saveFile files path (Utf8.encode content)
    | none => (.alert "save_file requires a filepath", files)
  | "frame_msg" =>
    (DirectiveEvent.withBody { kind := .frameMsg, params := headers.parameters }
      (Utf8.encode content), files)
  | _ => (output true headers (Utf8.encode content), files)

/-- **What a payload comes to**: the event for the viewer, and the files after it. -/
def interpret (files : FileSystem) (payload : List Char) (validated : Bool) (maxFileBytes : Nat)
    (extract : TextExtractor) : DirectiveEvent × FileSystem :=
  let (headers, content) := Headers.parse (Text.trimStart payload)
  if validated then interpretValidated files headers content maxFileBytes
  else
    (output false (.pagelet "text/plain") (Utf8.encode ((extract content).getD content)), files)

end Directive

end GlassTty
