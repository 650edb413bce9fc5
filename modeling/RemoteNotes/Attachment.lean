import RemoteNotes.Name
import RemoteNotes.Text.LowerCase
import RemoteNotes.Text.Percent
import RemoteNotes.Wire.Model

/-!
# Attachments

What the service tells of a stored file. The file itself is transferred apart from it.
-/

namespace RemoteNotes

open Json (Fields)
open Time (Instant)

structure Attachment where
  name : AttachmentName
  createTime : Instant
  filename : String
  mimeType : String
  sizeBytes : Int
  /-- Where the file is if another host keeps it. -/
  externalLink : Option String
  memo : Option MemoName
  deriving DecidableEq

/-- A text is taken for a media type as soon as it holds a slash. -/
def isMimeType (s : String) : Bool := s.toList.contains '/'

namespace Attachment

/-- The path of the file itself: the file name is one segment, whatever it holds. -/
def filePath (a : Attachment) : String :=
  "/file/" ++ a.name.text ++ "/" ++ Text.Percent.encode Text.Percent.isUnreserved a.filename

def isImage (a : Attachment) : Bool := Text.startsWith "image/" a.mimeType

def afterLastPoint? (cs : List Char) : Option (List Char) :=
  (Text.cut? '.' cs.reverse).map fun (after, _) => after.reverse

/-- The lower case of the extension, empty where the file name has none. -/
def extension (a : Attachment) : String :=
  match afterLastPoint? a.filename.toList with
  | some cs => Text.lowerCase (String.ofList cs)
  | none => ""

def parseFilename (raw : String) : Except String String :=
  match Text.nonBlank? raw with
  | some filename => .ok filename
  | none => .error "filename must not be empty"

def parseMimeType (raw : String) : Except String String :=
  if isMimeType raw then .ok raw else .error s!"'{raw}' is not a MIME type"

def checkSize (o : Fields) : Checked Int :=
  (Wire.int64OrZero (.plain "size") o).andThen fun size =>
    if size < 0 then
      .violation "size" ("size must be non-negative, found " ++ Number.intText size)
    else .ok size

def ofFields (o : Fields) : Checked Attachment :=
  Attachment.mk
    <$> Wire.required (.plain "name") ResourceName.parseStrict o
    <*> Wire.instant ⟨"createTime", "create_time"⟩ o
    <*> Wire.required (.plain "filename") parseFilename o
    <*> Wire.required (.plain "type") parseMimeType o
    <*> checkSize o
    <*> Wire.nonEmptyText? ⟨"externalLink", "external_link"⟩ o
    <*> Wire.optional (.plain "memo") ResourceName.parseStrict o

def toWire (a : Attachment) : Json :=
  Json.ofFields <|
    [("name", .text a.name.text),
      ("createTime", .text a.createTime.text),
      ("filename", .text a.filename),
      ("type", .text a.mimeType),
      ("size", .text (Number.intText a.sizeBytes))] ++
    (a.externalLink.map fun s => ("externalLink", .text s)).toList ++
    (a.memo.map fun n => ("memo", .text n.text)).toList

instance : WireModel Attachment where
  kind := "attachment"
  ofFields := ofFields
  toWire := toWire

end Attachment

end RemoteNotes
