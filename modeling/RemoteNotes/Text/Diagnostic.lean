import RemoteNotes.Text.Quoted

/-!
# Diagnostic text

How the parts of a value are put together when it is shown to a developer. Secrets are
shown as one fixed text.
-/

namespace RemoteNotes.Text.Diagnostic

/-- What stands in the place of a secret. -/
def redacted : String := quote "[REDACTED]"

def bool (b : Bool) : String := if b then "true" else "false"

def tuple (label part : String) : String := label ++ "(" ++ part ++ ")"

def optional : Option String → String
  | none => "None"
  | some part => tuple "Some" part

def list (parts : List String) : String := "[" ++ String.intercalate ", " parts ++ "]"

def fields (parts : List (String × String)) : String :=
  String.intercalate ", " (parts.map fun (name, part) => name ++ ": " ++ part)

def record (label : String) (parts : List (String × String)) : String :=
  label ++ " \x7b " ++ fields parts ++ " \x7d"

/-- A record that does not show all its parts. -/
def partialRecord (label : String) (parts : List (String × String)) : String :=
  label ++ " \x7b " ++ fields parts ++ ", .. \x7d"

end RemoteNotes.Text.Diagnostic
