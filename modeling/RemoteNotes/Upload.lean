import RemoteNotes.Attachment
import RemoteNotes.Error
import RemoteNotes.Http.MediaType
import RemoteNotes.Http.Multipart
import RemoteNotes.Text.Diagnostic
import RemoteNotes.Upload.Chunk
import RemoteNotes.Upload.File

/-!
# Uploads

A file on its way to the service. Its content can be read as often as it has to be sent.
-/

namespace RemoteNotes

open Number (natText)
open Text (quote)
open Text.Utf8 (Octets)

inductive UploadSource
  | file (path : String)
  | memory (content : Octets)
  deriving DecidableEq

structure AttachmentUpload where
  source : UploadSource
  filename : String
  mimeType : String
  deriving DecidableEq

namespace AttachmentUpload

def subject : String := "attachment upload"

def operation : String := "upload_attachment"

/-- An upload of a file that takes its name from the path, and its media type from that name. -/
def ofPath (path : String) (known : String → Option String := fun _ => none) :
    Except ValidationError AttachmentUpload :=
  match Upload.fileName? path with
  | some filename =>
    .ok { source := .file path, filename, mimeType := Upload.guessMediaType known filename }
  | none => .error (.single subject "path" s!"'{path}' has no usable file name")

def ofOctets (filename : String) (content : Octets)
    (known : String → Option String := fun _ => none) : AttachmentUpload :=
  { source := .memory content, filename, mimeType := Upload.guessMediaType known filename }

def isSeparator (c : Char) : Bool := c == '/' || c == '\\'

def filenameViolations (filename : String) : List Violation :=
  if Text.isBlankText filename then [⟨"filename", "must not be empty"⟩]
  else if (Text.trim filename.toList).any isSeparator then
    [⟨"filename", "must not contain path separators"⟩]
  else []

/-- What is wrong with an upload, as far as it shows without a look at the file. -/
def check (u : AttachmentUpload) : Checked Unit :=
  .withViolations
    (filenameViolations u.filename ++
      if isMimeType u.mimeType then [] else [⟨"mime_type", s!"'{u.mimeType}' is not a MIME type"⟩])
    ()

def validate (u : AttachmentUpload) : Except ValidationError Unit := u.check.toExcept subject

/-- The content of a file, if it is one and can be read. -/
def readFile (files : String → Upload.FileEntry) (path : String) : Except Error Octets :=
  match files path with
  | .missing => .error (.io operation Upload.missingMessage)
  | .directory =>
    .error (.validation (.single subject "path" s!"'{path}' is not a regular file"))
  | .regular content => .ok content

def content (files : String → Upload.FileEntry) (u : AttachmentUpload) : Except Error Octets :=
  match u.source with
  | .memory content => .ok content
  | .file path => readFile files path

def checkSize (limit : Nat) (content : Octets) : Except Error Unit :=
  if limit < content.length then
    .error (.validation (.single subject "size"
      (natText content.length ++ " bytes exceeds the " ++ natText limit ++ " byte upload limit")))
  else .ok ()

/-- The parts of the form in which an upload is sent. If the file cannot be read in chunks of
the size, the request breaks off with the fault that is given. -/
def parts (files : String → Upload.FileEntry) (brokenOff : TransportFault)
    (chunkSize limit : Nat) (u : AttachmentUpload) : Except Error (List Http.Multipart.Part) := do
  let content ← u.content files
  checkSize limit content
  match Http.MediaType.normalize? u.mimeType with
  | none => throw (.validation (.single subject "mime_type" TransportFault.building.message))
  | some mediaType =>
    match Upload.Source.chunkStream chunkSize ⟨content, []⟩ with
    | none => throw (.transport operation (some u.filename) brokenOff)
    | some chunks =>
      return [
        { name := "filename", content := Text.Utf8.ofString u.filename },
        { name := "type", content := Text.Utf8.ofString u.mimeType },
        { name := "file", file := some (u.filename, mediaType), content := chunks.flatten }]

def UploadSource.diagnostic : UploadSource → String
  | .file path => Text.Diagnostic.tuple "File" (Text.quoteWith .path path)
  | .memory content =>
    Text.Diagnostic.tuple "Memory"
      (Text.Diagnostic.list (content.map fun b => natText b.toNat))

def diagnostic (u : AttachmentUpload) : String :=
  Text.Diagnostic.record "AttachmentUpload"
    [("source", UploadSource.diagnostic u.source), ("filename", quote u.filename),
      ("mime_type", quote u.mimeType)]

end AttachmentUpload

end RemoteNotes
