import RemoteNotes.Text.Utf8

/-!
# Forms with files

A form whose fields are sent one after another, each with a header of its own, between
lines that hold a boundary.
-/

namespace RemoteNotes.Http.Multipart

open Text.Utf8 (Octets)

structure Part where
  name : String
  /-- The name and the media type of a file. -/
  file : Option (String × String) := none
  content : Octets
  deriving DecidableEq

def lineEnd : String := "\r\n"

/-- Quotes, backslashes and line ends in the name of a file get a backslash. -/
def escapeChar (c : Char) : List Char :=
  if c = '\\' ∨ c = '"' ∨ c = '\r' ∨ c = '\n' then ['\\', c] else [c]

def escaped (s : String) : String := String.ofList (s.toList.flatMap escapeChar)

def Part.header (p : Part) : String :=
  "Content-Disposition: form-data; name=\"" ++ p.name ++ "\"" ++
    match p.file with
    | none => ""
    | some (filename, mediaType) =>
      "; filename=\"" ++ escaped filename ++ "\"" ++ lineEnd ++ "Content-Type: " ++ mediaType

def Part.write (boundary : String) (p : Part) : Octets :=
  Text.Utf8.ofString ("--" ++ boundary ++ lineEnd ++ p.header ++ lineEnd ++ lineEnd) ++
    p.content ++ Text.Utf8.ofString lineEnd

/-- The body of a form. -/
def write (boundary : String) (parts : List Part) : Octets :=
  parts.flatMap (Part.write boundary) ++ Text.Utf8.ofString ("--" ++ boundary ++ "--" ++ lineEnd)

def mediaType (boundary : String) : String := "multipart/form-data; boundary=" ++ boundary

end RemoteNotes.Http.Multipart
