import RemoteNotes.Name
import RemoteNotes.Wire.Model

/-!
# Users
-/

namespace RemoteNotes

open Json (Fields)
open Time (Instant)

inductive Role
  | host
  | admin
  | user
  deriving DecidableEq

namespace Role

def text : Role → String
  | .host => "HOST"
  | .admin => "ADMIN"
  | .user => "USER"

def all : List Role := [.host, .admin, .user]

def parse (raw : String) : Except String Role :=
  match all.find? (·.text == raw) with
  | some r => .ok r
  | none => .error s!"unknown role '{raw}' (expected HOST, ADMIN or USER)"

end Role

structure User where
  name : UserName
  username : String
  email : String
  nickname : String
  avatarUrl : String
  description : String
  role : Role
  createTime : Instant
  updateTime : Instant
  deriving DecidableEq

namespace User

def displayName (u : User) : String := if u.nickname = "" then u.username else u.nickname

def isAdmin (u : User) : Bool := u.role == .host || u.role == .admin

def parseUsername (raw : String) : Except String String :=
  match Text.nonBlank? raw with
  | some username => .ok username
  | none => .error "username must not be empty"

/-- A trimmed address, which may be missing but needs its at sign. -/
def parseEmail (raw : String) : Except String String :=
  let email := Text.trimmed raw
  if email = "" ∨ email.toList.contains '@' then .ok email
  else .error s!"'{email}' is not an email address"

def ofFields (o : Fields) : Checked User :=
  User.mk
    <$> Wire.required (.plain "name") ResourceName.parseStrict o
    <*> Wire.required (.plain "username") parseUsername o
    <*> ((Wire.textOrEmpty (.plain "email") o).andThen fun raw =>
      .ofExcept "email" (parseEmail raw))
    <*> Wire.textOrEmpty (.plain "nickname") o
    <*> Wire.textOrEmpty ⟨"avatarUrl", "avatar_url"⟩ o
    <*> Wire.textOrEmpty (.plain "description") o
    <*> Wire.required (.plain "role") Role.parse o
    <*> Wire.instant ⟨"createTime", "create_time"⟩ o
    <*> Wire.instant ⟨"updateTime", "update_time"⟩ o

def toWire (u : User) : Json :=
  Json.ofFields [
    ("name", .text u.name.text),
    ("username", .text u.username),
    ("email", .text u.email),
    ("nickname", .text u.nickname),
    ("avatarUrl", .text u.avatarUrl),
    ("description", .text u.description),
    ("role", .text u.role.text),
    ("createTime", .text u.createTime.text),
    ("updateTime", .text u.updateTime.text)]

instance : WireModel User where
  kind := "user"
  ofFields := ofFields
  toWire := toWire

end User

end RemoteNotes
