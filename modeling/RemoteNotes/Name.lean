import RemoteNotes.Text.Blank
import RemoteNotes.Validation

/-!
# Resource names

Memos, attachments and users are known by names such as `memos/abc`: a collection, a slash
and an id. A name is kept as its id, and an id is never empty and holds neither a slash nor
a blank.
-/

namespace RemoteNotes

inductive ResourceKind
  | memo
  | attachment
  | user
  deriving DecidableEq

namespace ResourceKind

def label : ResourceKind → String
  | .memo => "memo"
  | .attachment => "attachment"
  | .user => "user"

def collection : ResourceKind → String
  | .memo => "memos"
  | .attachment => "attachments"
  | .user => "users"

/-- What the text of every name of a kind starts with. -/
def lead (k : ResourceKind) : String := k.collection ++ "/"

end ResourceKind

/-- A character that an id may hold. -/
def isIdChar (c : Char) : Bool := c != '/' && !Text.isBlank c

def IsId (id : String) : Prop := id ≠ "" ∧ id.toList.all isIdChar = true

instance (id : String) : Decidable (IsId id) :=
  if h : id = "" then .isFalse fun hid => hid.1 h
  else match hc : id.toList.all isIdChar with
    | true => .isTrue ⟨h, hc⟩
    | false => .isFalse fun hid => Bool.noConfusion (hc.symm.trans hid.2)

theorem isId_iff (id : String) :
    IsId id ↔ id ≠ "" ∧ ∀ c ∈ id.toList, c ≠ '/' ∧ Text.isBlank c = false := by
  simp [IsId, isIdChar, List.all_eq_true]

structure ResourceName (kind : ResourceKind) where
  id : String
  isId : IsId id
  deriving DecidableEq

abbrev MemoName := ResourceName .memo
abbrev AttachmentName := ResourceName .attachment
abbrev UserName := ResourceName .user

namespace ResourceName

variable {kind : ResourceKind}

def text (n : ResourceName kind) : String := kind.lead ++ n.id

def ofId (id : String) : Except String (ResourceName kind) :=
  if h : IsId id then .ok ⟨id, h⟩
  else if id = "" then .error "id must not be empty"
  else .error s!"id '{id}' must not contain '/' or whitespace"

/-- The name in a text that has to start with the collection. -/
def parseStrict (raw : String) : Except String (ResourceName kind) :=
  match Text.dropLead? kind.lead raw with
  | none => .error s!"must start with '{kind.lead}'"
  | some id => ofId id

/-- The name in a text that a person typed: blanks around it are dropped, and a text
without the collection is taken for an id. -/
def parseMessage (raw : String) : Except String (ResourceName kind) :=
  let raw := Text.trimmed raw
  ofId ((Text.dropLead? kind.lead raw).getD raw)

def parse (raw : String) : Except ValidationError (ResourceName kind) :=
  (parseMessage raw).mapError fun message =>
    .single (kind.label ++ " name") "name" message

end ResourceName

end RemoteNotes
