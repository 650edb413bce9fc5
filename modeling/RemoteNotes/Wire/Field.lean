import RemoteNotes.Json.Value
import RemoteNotes.Time.Rfc3339
import RemoteNotes.Validation

/-!
# Fields of wire messages

A message of the service is a JSON object. Each field is read on its own, under its wire
name or its alternative, and a null counts as absent. What is wrong with a field is reported
under its wire name.
-/

namespace RemoteNotes.Wire

open Json (Fields)
open Number (Double)
open Time (Instant)

/-- The name of a field on the wire, and the spelling with underscores. -/
structure Key where
  name : String
  alternative : String
  deriving DecidableEq

def Key.plain (name : String) : Key := ⟨name, name⟩

/-- The value of a field. The alternative counts only where the wire name does not occur. -/
def find? (k : Key) (o : Fields) : Option Json :=
  ((Json.lookup k.name o).or (Json.lookup k.alternative o)).filter fun v => !v.isNull

variable {α : Type}

def mismatch (k : Key) (expected : String) (found : Json) : Checked α :=
  .violation k.name ("expected " ++ expected ++ ", found " ++ found.write)

def text? (k : Key) (o : Fields) : Checked (Option String) :=
  match find? k o with
  | none => .ok none
  | some (.text s) => .ok (some s)
  | some other => mismatch k "a string" other

def requiredText (k : Key) (o : Fields) : Checked String :=
  (text? k o).andThen fun
    | some s => .ok s
    | none => .violation k.name "is required"

def textOrEmpty (k : Key) (o : Fields) : Checked String :=
  (text? k o).map (·.getD "")

/-- An optional text, of which the empty one counts as absent. -/
def nonEmptyText? (k : Key) (o : Fields) : Checked (Option String) :=
  (text? k o).map fun s => s.filter (· != "")

def required (k : Key) (parse : String → Except String α) (o : Fields) : Checked α :=
  (requiredText k o).andThen fun s => .ofExcept k.name (parse s)

/-- An optional field. An empty text counts as absent. -/
def optional (k : Key) (parse : String → Except String α) (o : Fields) : Checked (Option α) :=
  (nonEmptyText? k o).andThen fun
    | none => .ok none
    | some s => (Checked.ofExcept k.name (parse s)).map some

def parseInstant (raw : String) : Except String Instant :=
  (Time.Rfc3339.parse raw).mapError fun fault =>
    s!"invalid RFC 3339 timestamp '{raw}': {fault.message}"

def instant (k : Key) (o : Fields) : Checked Instant := required k parseInstant o

def instant? (k : Key) (o : Fields) : Checked (Option Instant) := optional k parseInstant o

def boolOrFalse (k : Key) (o : Fields) : Checked Bool :=
  match find? k o with
  | none => .ok false
  | some (.bool b) => .ok b
  | some other => mismatch k "a boolean" other

/-- A 64-bit whole number, written as a number or as a text with its digits. -/
def int64OrZero (k : Key) (o : Fields) : Checked Int :=
  match find? k o with
  | none => .ok 0
  | some (.num n) =>
    match n.int64? with
    | some i => .ok i
    | none => mismatch k "an integer" (.num n)
  | some (.text raw) =>
    match Number.readInt Number.maxInt64 (Text.trimmed raw) with
    | .ok i => .ok i
    | .error _ => .violation k.name s!"expected an integer, found '{raw}'"
  | some other => mismatch k "an integer" other

def double? (k : Key) (o : Fields) : Checked (Option Double) :=
  match find? k o with
  | none => .ok none
  | some (.num n) => .ok (some n.toDouble)
  | some other => mismatch k "a number" other

def array (k : Key) (o : Fields) : Checked (List Json) :=
  match find? k o with
  | none => .ok []
  | some (.array items) => .ok items
  | some other => mismatch k "an array" other

def object? (k : Key) (o : Fields) : Checked (Option Fields) :=
  match find? k o with
  | none => .ok none
  | some (.object fields) => .ok (some fields)
  | some other => mismatch k "an object" other

/-- The items of an array, each with its own check. -/
def items (k : Key) (check : Nat → Json → Checked α) (o : Fields) : Checked (List α) :=
  (array k o).andThen fun vs => .all (vs.mapIdx check)

def itemLabel (field : String) (i : Nat) : String := field ++ "[" ++ toString i ++ "]"

end RemoteNotes.Wire
