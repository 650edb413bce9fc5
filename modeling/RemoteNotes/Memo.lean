import RemoteNotes.Name
import RemoteNotes.Tag
import RemoteNotes.Wire.Model

/-!
# Memos
-/

namespace RemoteNotes

open Json (Fields)
open Number (Double)
open Time (Instant)

/-- Who may read a memo. -/
inductive Visibility
  | creatorOnly
  | members
  | everyone
  deriving DecidableEq

namespace Visibility

def text : Visibility → String
  | .creatorOnly => "PRIVATE"
  | .members => "PROTECTED"
  | .everyone => "PUBLIC"

def all : List Visibility := [.creatorOnly, .members, .everyone]

def parse (raw : String) : Except String Visibility :=
  match all.find? (·.text == raw) with
  | some v => .ok v
  | none => .error s!"unknown visibility '{raw}' (expected PRIVATE, PROTECTED or PUBLIC)"

end Visibility

/-- Whether a memo is in use or put away. -/
inductive MemoState
  | normal
  | archived
  deriving DecidableEq

namespace MemoState

def text : MemoState → String
  | .normal => "NORMAL"
  | .archived => "ARCHIVED"

def all : List MemoState := [.normal, .archived]

def parse (raw : String) : Except String MemoState :=
  match all.find? (·.text == raw) with
  | some s => .ok s
  | none => .error s!"unknown state '{raw}' (expected NORMAL or ARCHIVED)"

end MemoState

/-- A place on earth, in degrees. -/
structure Location where
  placeholder : String
  latitude : Double
  longitude : Double
  deriving DecidableEq

namespace Location

/-- Whether a coordinate lies between a bound and its negative. No number lies nowhere. -/
def withinDegrees (bound : Nat) (x : Double) : Bool :=
  (Double.ofRatio true bound 1).le x && x.le (Double.ofNat bound)

/-- The coordinates that are out of range. -/
def violations (l : Location) : List Violation :=
  (if withinDegrees 90 l.latitude then [] else
    [⟨"location.latitude", "latitude must be between -90 and 90"⟩]) ++
  (if withinDegrees 180 l.longitude then [] else
    [⟨"location.longitude", "longitude must be between -180 and 180"⟩])

/-- A place as a program compares it: zero and negative zero are one coordinate. -/
def same (a b : Location) : Bool :=
  a.placeholder == b.placeholder && a.latitude.same b.latitude && a.longitude.same b.longitude

def toWire (l : Location) : Json :=
  Json.ofFields [
    ("placeholder", .text l.placeholder),
    ("latitude", .num (.float l.latitude)),
    ("longitude", .num (.float l.longitude))]

/-- Violations inside a location carry its name once. -/
def nestedField (field : String) : String :=
  if Text.startsWith "location" field then field else "location." ++ field

/-- The range of the coordinates is checked only where both are numbers. -/
def ofFields (o : Fields) : Checked Location :=
  let placeholder := Wire.textOrEmpty (.plain "placeholder") o
  let latitude := Wire.double? (.plain "latitude") o
  let longitude := Wire.double? (.plain "longitude") o
  let ranges := match latitude, longitude with
    | .ok latitude, .ok longitude =>
      violations ⟨"", latitude.getD Double.zero, longitude.getD Double.zero⟩
    | _, _ => []
  let location := ((placeholder.map fun p lat long =>
    ⟨p, lat.getD Double.zero, long.getD Double.zero⟩).and latitude).and longitude
  (location.and' (.withViolations ranges ())).relabel nestedField

end Location

structure Memo where
  name : MemoName
  state : MemoState
  creator : UserName
  createTime : Instant
  updateTime : Instant
  displayTime : Option Instant
  content : String
  /-- Plain text that the server derives from the content. -/
  snippet : String
  visibility : Visibility
  pinned : Bool
  parent : Option MemoName
  tags : TagSet
  attachments : List AttachmentName
  location : Option Location
  deriving DecidableEq

namespace Memo

/-- The text up to the end of the first line. A carriage return in front of the line feed
belongs to the end. -/
def firstLine (cs : List Char) : List Char :=
  let line := cs.takeWhile (· != '\n')
  if line.length < cs.length ∧ line.getLast? = some '\r' then line.dropLast else line

/-- The start of the first line. -/
def titlePreview (m : Memo) (maxLength : Nat) : String :=
  String.ofList ((firstLine m.content.toList).take maxLength)

def hasTag (m : Memo) (tag : String) : Bool := m.tags.contains tag

def checkTag (i : Nat) : Json → Checked String
  | .text raw => .ofExcept (Wire.itemLabel "tags" i) (Tag.validate raw)
  | _ => .violation (Wire.itemLabel "tags" i) "expected a string"

/-- The name in a reference to an attachment: a text, or an object that holds one. -/
def attachmentReference? : Json → Option String
  | .text raw => some raw
  | .object fields => (Json.lookup "name" fields).bind Json.asText?
  | _ => none

def checkAttachment (i : Nat) (v : Json) : Checked AttachmentName :=
  match attachmentReference? v with
  | some raw => .ofExcept (Wire.itemLabel "attachments" i ++ ".name") (ResourceName.parseStrict raw)
  | none =>
    .violation (Wire.itemLabel "attachments" i) "expected an attachment name or object with a name"

def checkLocation (o : Fields) : Checked (Option Location) :=
  (Wire.object? (.plain "location") o).andThen fun
    | none => .ok none
    | some fields => (Location.ofFields fields).map some

def ofFields (o : Fields) : Checked Memo :=
  Memo.mk
    <$> Wire.required (.plain "name") ResourceName.parseStrict o
    <*> Wire.required (.plain "state") MemoState.parse o
    <*> Wire.required (.plain "creator") ResourceName.parseStrict o
    <*> Wire.instant ⟨"createTime", "create_time"⟩ o
    <*> Wire.instant ⟨"updateTime", "update_time"⟩ o
    <*> Wire.instant? ⟨"displayTime", "display_time"⟩ o
    <*> Wire.textOrEmpty (.plain "content") o
    <*> Wire.textOrEmpty (.plain "snippet") o
    <*> Wire.required (.plain "visibility") Visibility.parse o
    <*> Wire.boolOrFalse (.plain "pinned") o
    <*> Wire.optional (.plain "parent") ResourceName.parseStrict o
    <*> TagSet.ofList <$> Wire.items (.plain "tags") checkTag o
    <*> Wire.items (.plain "attachments") checkAttachment o
    <*> checkLocation o

def toWire (m : Memo) : Json :=
  Json.ofFields <|
    [("name", .text m.name.text),
      ("state", .text m.state.text),
      ("creator", .text m.creator.text),
      ("createTime", .text m.createTime.text),
      ("updateTime", .text m.updateTime.text)] ++
    (m.displayTime.map fun t => ("displayTime", .text t.text)).toList ++
    [("content", .text m.content),
      ("snippet", .text m.snippet),
      ("visibility", .text m.visibility.text),
      ("tags", .array (m.tags.toList.map .text)),
      ("pinned", .bool m.pinned),
      ("attachments", .array (m.attachments.map fun n => Json.ofFields [("name", .text n.text)]))] ++
    (m.parent.map fun n => ("parent", .text n.text)).toList ++
    (m.location.map fun l => ("location", l.toWire)).toList

instance : WireModel Memo where
  kind := "memo"
  ofFields := ofFields
  toWire := toWire

/-- Whether two memos have the same fields; locations count as the same place. -/
def same (a b : Memo) : Bool :=
  decide ({ a with location := none } = { b with location := none }) &&
    match a.location, b.location with
    | none, none => true
    | some l, some k => l.same k
    | _, _ => false

end Memo

/-- One page of search results. -/
structure MemoPage where
  memos : List Memo
  /-- Absent on the last page. -/
  nextPageToken : Option String

namespace MemoPage

def pageTokenKeys : List String := ["nextPageToken", "next_page_token"]

/-- The first of the two names that occurs decides. -/
def pageToken? (v : Json) : Option String :=
  ((pageTokenKeys.findSome? v.get?).bind Json.asText?).filter (· != "")

def ofWire (v : Json) : Except ValidationError MemoPage := do
  let memos ← WireModel.ofWireList "memos" v
  return { memos, nextPageToken := pageToken? v }

end MemoPage

end RemoteNotes
