import RemoteNotes.Client.State
import RemoteNotes.Http.Failure
import RemoteNotes.Number.Decimal

/-!
# Building requests and reading replies

What every request of a client carries, and which errors become of replies that do not
arrive or do not arrive whole.
-/

namespace RemoteNotes

open Number (natText)
open Text.Utf8 (Octets)

structure Payload where
  mediaType : String
  content : Octets
  deriving DecidableEq

def Payload.json (v : Json) : Payload := ⟨"application/json", Text.Utf8.ofString v.write⟩

namespace ClientPolicy

def setHeader (headers : List (String × String)) (name value : String) : List (String × String) :=
  headers.filter (fun (n, _) => n != name) ++ [(name, value)]

/-- The header fields that every request carries, unless it has its own. -/
def defaultHeaders (p : ClientPolicy) : List (String × String) :=
  p.headers.foldl (fun acc (name, value) => setHeader acc (Text.asciiLower name) value)
    [("accept", "*/*"), ("user-agent", p.userAgent)]

/-- Adds the default fields whose names are not taken. -/
def complete (p : ClientPolicy) (own : List (String × String)) : List (String × String) :=
  own ++ p.defaultHeaders.filter fun (name, _) => !own.any (·.1 == name)

end ClientPolicy

def bearer (secret : String) : String := "Bearer " ++ secret

def Payload.headers : Option Payload → List (String × String)
  | none => []
  | some p => [("content-type", p.mediaType), ("content-length", natText p.content.length)]

namespace Client

/-- A request, unless its address or its token has no form on the wire. -/
def build? (c : Client) (method : Method) (url : String) (pairs : List (String × String))
    (secret : Option String) (payload : Option Payload) : Option Http.Request := do
  let url ← Http.Url.parse? url
  let authorization := secret.map bearer
  if !authorization.all Http.isHeaderValue then none
  let own := (authorization.map fun value => ("authorization", value)).toList ++
    Payload.headers payload
  return {
    method
    url := url.withPairs pairs
    headers := c.config.policy.complete own
    body := (payload.map Payload.content).getD [] }

/-- What an operation is called in errors, and what it works on. -/
structure Subject where
  operation : String
  resource : Option String := none

def transportError (s : Subject) (fault : TransportFault) : Error :=
  .transport s.operation s.resource fault

def timeoutError (c : Client) (s : Subject) : Error :=
  .timeout s.operation s.resource c.config.policy.timeout

def response (c : Client) (s : Subject) (request : Http.Request) :
    Http.Reply → Except Error Http.Response
  | .lost => .error (transportError s (.sending request.url.text))
  | .timedOut => .error (c.timeoutError s)
  | .answered r => .ok r

/-- The body of a reply as text, if all of it arrived. -/
def bodyText (c : Client) (s : Subject) (r : Http.Response) : Except Error String :=
  match r.ending with
  | .complete => .ok (Text.Utf8.toStringLossy r.body)
  | .cutShort => .error (transportError s .receiving)
  | .stalled => .error (c.timeoutError s)

/-- The body of a reply as text, or nothing if it did not arrive. -/
def bodyTextOrEmpty (r : Http.Response) : String :=
  match r.ending with
  | .complete => Text.Utf8.toStringLossy r.body
  | _ => ""

def exchange (c : Client) (purpose : Purpose) (s : Subject) :
    Option Http.Request → Action Http.Response
  | none => throw (transportError s .building)
  | some request => do
    let reply ← c.send purpose request
    .ofExcept (c.response s request reply)

end Client

end RemoteNotes
