import RemoteNotes.Wire.Field
import RemoteNotes.Json.Reader

/-!
# Wire messages

The objects of the service have one form on the wire. Reading reports every violation of
an object at once, and a list reports the violations of all its elements.
-/

namespace RemoteNotes

open Json (Fields)

class WireModel (α : Type) where
  /-- What an object of this kind is called in errors. -/
  kind : String
  ofFields : Fields → Checked α
  toWire : α → Json

namespace WireModel

variable {α : Type} [WireModel α]

def checkWire : Json → Checked α
  | .object fields => ofFields fields
  | _ => .violation "$" "expected a JSON object"

def ofWire (v : Json) : Except ValidationError α :=
  (checkWire v).toExcept (kind α)

/-- Reads an object from the text of a JSON document. -/
def decode (raw : String) : Except ValidationError α :=
  match Json.parse raw with
  | .ok v => ofWire v
  | .error fault => .error (.single (kind α) "$" ("invalid JSON: " ++ fault.message))

def encode (a : α) : String := (toWire a).write

/-- The objects in the array under a key of a reply. -/
def ofWireList (key : String) (v : Json) : Except ValidationError (List α) :=
  let subject := kind α ++ " list"
  match v.get? key with
  | none => .ok []
  | some .null => .ok []
  | some (.array items) =>
    (Checked.all (items.mapIdx fun i item =>
      (checkWire item).relabel fun field => Wire.itemLabel key i ++ "." ++ field)).toExcept subject
  | some _ => .error (.single subject key "expected an array")

end WireModel

end RemoteNotes
