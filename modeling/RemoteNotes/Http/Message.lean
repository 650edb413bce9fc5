import RemoteNotes.Http.Header
import RemoteNotes.Http.Url
import RemoteNotes.Retry

/-!
# Requests and replies

What goes to the server and what can come back. A connection may be lost before a reply
or in the middle of one, and either may keep the client waiting.
-/

namespace RemoteNotes.Http

open Text.Utf8 (Octets)

structure Request where
  method : Method
  url : Url
  /-- Names in lower case, each at most once. -/
  headers : List (String × String)
  body : Octets
  deriving DecidableEq

namespace Request

def header? (r : Request) (name : String) : Option String := r.headers.lookup name

def authorization? (r : Request) : Option String := r.header? "authorization"

end Request

/-- How the body of a reply ended. -/
inductive BodyEnd
  | complete
  /-- The connection was lost. -/
  | cutShort
  /-- Nothing more came until the time was over. -/
  | stalled
  deriving DecidableEq

structure Response where
  status : Nat
  headers : List (String × Octets)
  /-- The octets that arrived. -/
  body : Octets
  ending : BodyEnd
  deriving DecidableEq

inductive Reply
  /-- The connection was lost before a reply. -/
  | lost
  | timedOut
  | answered (response : Response)
  deriving DecidableEq

namespace Response

def isSuccess (r : Response) : Bool := 200 ≤ r.status && r.status < 300

def isUnauthorized (r : Response) : Bool := r.status == 401

def isServerError (r : Response) : Bool := 500 ≤ r.status && r.status < 600

/-- The values of a header field, in their order. -/
def headerValues (r : Response) (name : String) : List Octets :=
  (r.headers.filter fun (n, _) => Text.asciiCaseEq n name).map (·.2)

/-- Statuses whose replies end with the header. -/
def isBodiless (status : Nat) : Bool := status == 204 || status == 304

/-- The reply as it counts for a request: some replies have no body, whatever is sent
after the header. -/
def forMethod (r : Response) (method : Method) : Response :=
  if method = .head ∨ isBodiless r.status then { r with body := [], ending := .complete } else r

end Response

def Reply.forMethod (reply : Reply) (method : Method) : Reply :=
  match reply with
  | .answered r => .answered (r.forMethod method)
  | other => other

end RemoteNotes.Http
