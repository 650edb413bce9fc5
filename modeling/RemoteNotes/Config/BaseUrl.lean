import RemoteNotes.Text.Blank

/-!
# Base addresses

The address of a server, under which all paths of the service lie.
-/

namespace RemoteNotes.BaseUrl

inductive Fault
  | empty
  | noScheme
  | noHost
  deriving DecidableEq

def Fault.message : Fault → String
  | .empty => "base URL must not be empty"
  | .noScheme => "base URL must include http:// or https://"
  | .noHost => "base URL must include a host"

def isHttpUrl (s : String) : Bool :=
  Text.startsWith "http://" s || Text.startsWith "https://" s

/-- An address with a host is longer than this many octets. -/
def longestScheme : Nat := "https://".utf8ByteSize

/-- The address without blanks around it and without slashes at its end. -/
def normalize (raw : String) : Except Fault String :=
  let base := String.ofList (Text.dropEndWhile (· == '/') (Text.trim raw.toList))
  if base.isEmpty then .error .empty
  else if !isHttpUrl base then .error .noScheme
  else if base.utf8ByteSize ≤ longestScheme then .error .noHost
  else .ok base

end RemoteNotes.BaseUrl
