import RemoteNotes.Memo.Tagging

/-!
# New memos

A memo that is to be created. It is checked as a whole before anything is sent.
-/

namespace RemoteNotes

open Time (Instant)

structure NewMemo where
  content : String
  visibility : Visibility := .creatorOnly
  /-- Written into the content where it does not hold them. -/
  tags : List String := []
  /-- Names or ids of attachments. -/
  attachments : List String := []
  location : Option Location := none
  displayTime : Option Instant := none
  /-- A name or an id for the memo. -/
  memoId : Option String := none
  deriving DecidableEq

/-- What is sent for a new memo, and the attachments that are linked to it afterwards. -/
structure PreparedMemo where
  body : Json
  attachments : List AttachmentName

namespace NewMemo

def subject : String := "create_memo request"

def contentViolations (content : String) : List Violation :=
  if Text.isBlankText content then [⟨"content", "must not be empty"⟩] else []

def checkAttachments (raw : List String) : Checked (List AttachmentName) :=
  .all (raw.mapIdx fun i name =>
    .ofExcept (Wire.itemLabel "attachments" i) (ResourceName.parseMessage name))

def locationViolations : Option Location → List Violation
  | none => []
  | some l => l.violations

def checkMemoId : Option String → Checked (Option MemoName)
  | none => .ok none
  | some raw => (Checked.ofExcept "memo_id" (ResourceName.parseMessage raw)).map some

/-- The body of the request, given the id of the memo. -/
def body (m : NewMemo) (id : Option MemoName) : Json :=
  let memo := Json.ofFields <|
    [("content", .text (Tag.append m.content (Tag.valid m.tags))),
      ("visibility", .text m.visibility.text)] ++
    (m.displayTime.map fun t => ("displayTime", .text t.text)).toList ++
    (m.location.map fun l => ("location", l.toWire)).toList
  Json.ofFields (("memo", memo) :: (id.map fun name => ("memoId", .text name.id)).toList)

def check (m : NewMemo) : Checked PreparedMemo :=
  ((((Checked.withViolations (contentViolations m.content ++ Tag.violations m.tags)
    fun attachments id => PreparedMemo.mk (m.body id) attachments).and
      (checkAttachments m.attachments)).and'
        (.withViolations (locationViolations m.location) ())).and
          (checkMemoId m.memoId))

def prepare (m : NewMemo) : Except ValidationError PreparedMemo := m.check.toExcept subject

end NewMemo

end RemoteNotes
