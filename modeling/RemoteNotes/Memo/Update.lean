import RemoteNotes.Memo.New

/-!
# Updates of memos

The fields of a memo that are to change. Fields that are not set stay as they are.
-/

namespace RemoteNotes

open Time (Instant)

structure MemoUpdate where
  content : Option String := none
  /-- Written into the content, which has to be set for them. -/
  tags : List String := []
  visibility : Option Visibility := none
  state : Option MemoState := none
  pinned : Option Bool := none
  location : Option Location := none
  displayTime : Option Instant := none
  deriving DecidableEq

namespace MemoUpdate

def subject : String := "update_memo request"

/-- A changed field: its name in the mask, its name in the memo, and its new value. -/
structure Change where
  path : String
  field : String
  value : Json

/-- A field with one name for both. -/
def Change.plain (name : String) (value : Json) : Change := ⟨name, name, value⟩

/-- The changes, in a fixed order. -/
def changes (u : MemoUpdate) : List Change :=
  (u.content.map fun c => .plain "content" (.text (Tag.append c (Tag.valid u.tags)))).toList ++
    (u.visibility.map fun v => .plain "visibility" (.text v.text)).toList ++
    (u.state.map fun s => .plain "state" (.text s.text)).toList ++
    (u.pinned.map fun b => .plain "pinned" (.bool b)).toList ++
    (u.location.map fun l => .plain "location" l.toWire).toList ++
    (u.displayTime.map fun t => ⟨"display_time", "displayTime", .text t.text⟩).toList

def contentViolations (u : MemoUpdate) : List Violation :=
  match u.content with
  | some content => NewMemo.contentViolations content
  | none =>
    if (Tag.valid u.tags).isEmpty then []
    else [⟨"tags", "tags are stored in the content, so content must be set"⟩]

/-- What is wrong with the single fields. -/
def fieldViolations (u : MemoUpdate) : List Violation :=
  Tag.violations u.tags ++ u.contentViolations ++ NewMemo.locationViolations u.location

/-- An update without any fault has to change something. -/
def violations (u : MemoUpdate) : List Violation :=
  if u.fieldViolations.isEmpty ∧ u.changes.isEmpty then
    [⟨"update", "at least one field must be set"⟩]
  else u.fieldViolations

/-- The body of the request. -/
def body (u : MemoUpdate) (name : MemoName) : Json :=
  Json.ofFields [
    ("memo", Json.ofFields
      (("name", .text name.text) :: u.changes.map fun c => (c.field, c.value))),
    ("updateMask", Json.ofFields [("paths", .array (u.changes.map fun c => .text c.path))])]

def prepare (u : MemoUpdate) (name : MemoName) : Except ValidationError Json :=
  (Checked.withViolations u.violations (u.body name)).toExcept subject

end MemoUpdate

end RemoteNotes
