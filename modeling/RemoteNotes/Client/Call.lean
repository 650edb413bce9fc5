import RemoteNotes.Client.Session
import RemoteNotes.Json.Reader
import RemoteNotes.Upload

/-!
# Calls

A call sends one request until it is answered: again after a failure that may pass, as far
as its method and its mode allow, and once more with a new token after the server rejected
the first one.
-/

namespace RemoteNotes

open Text.Utf8 (Octets)

inductive RequestBody
  | empty
  | json (v : Json)
  | upload (u : AttachmentUpload)

structure ApiRequest where
  method : Method
  /-- Without a slash in front. -/
  path : String
  query : List (String × String) := []
  body : RequestBody := .empty
  retry : RetryMode := .ifIdempotent
  operation : String
  resource : Option String := none

namespace ApiRequest

/-- A request for a path that may start with slashes. -/
def make (method : Method) (operation path : String) : ApiRequest :=
  { method, operation, path := String.ofList (path.toList.dropWhile (· == '/')) }

def subject (r : ApiRequest) : Client.Subject := ⟨r.operation, r.resource⟩

end ApiRequest

/-- What the server made of an attempt. -/
inductive Answer (α : Type)
  | done (a : α)
  /-- It rejected the token, and this is what it said. -/
  | rejected (message : String)

namespace Client

variable {α : Type}

/-- Runs attempts with a token: first the one at hand, and after a rejection a new one.
All attempts of a call share its retries. -/
def withToken (c : Client) (operation : String) (retries : Nat)
    (attempt : SessionToken → Action (Answer α)) : Action α := do
  let token ← c.getToken
  match ← Action.retrying (attempt token) retries with
  | (.done a, _) => return a
  | (.rejected _, left) =>
    let token ← c.refreshAfterRejection token
    match ← Action.retrying (attempt token) left with
    | (.done a, _) => return a
    | (.rejected message, _) => throw (.authentication operation message (some 401))

/-- What a client notices of an upload whose content cannot be read while it is sent: the
connection is lost before anything of the request is on the wire. -/
def brokenUpload (c : Client) : TransportFault :=
  match Http.Url.parse? (c.config.apiBaseUrl ++ "/attachments") with
  | none => .building
  | some url => .sending url.text

def payload (c : Client) : RequestBody → Except Error (Option Payload)
  | .empty => .ok none
  | .json v => .ok (some (.json v))
  | .upload u => do
    let parts ← u.parts c.world.files c.brokenUpload c.config.policy.chunkSize
      c.config.policy.maxUploadSize
    return some ⟨Http.Multipart.mediaType c.world.boundary,
      Http.Multipart.write c.world.boundary parts⟩

/-- The value in the body of a reply. A blank body stands for an empty object. -/
def decodeBody (operation body : String) : Except Error Json :=
  if Text.isBlankText body then .ok (.object [])
  else (Json.parse body).mapError fun fault =>
    .validation (.single (operation ++ " response") "$" ("invalid JSON: " ++ fault.message))

def answer (s : Subject) (r : Http.Response) (body : String) : Except Error (Answer Json) :=
  if r.isUnauthorized then .ok (.rejected (Http.failureText r.status body))
  else if !r.isSuccess then
    .error (.api s.operation s.resource r.status (Http.failureText r.status body))
  else (decodeBody s.operation body).map .done

def callOnce (c : Client) (request : ApiRequest) (token : SessionToken) : Action (Answer Json) := do
  let payload ← .ofExcept (c.payload request.body)
  let url := c.config.apiBaseUrl ++ "/" ++ request.path
  let message := c.build? request.method url request.query (some token.secret) payload
  let r ← c.exchange .call request.subject message
  let body ← .ofExcept (c.bodyText request.subject r)
  .ofExcept (answer request.subject r body)

def retriesFor (c : Client) (request : ApiRequest) : Nat :=
  if request.retry.allows request.method then c.retries else 0

def call (c : Client) (request : ApiRequest) : Action Json :=
  c.withToken request.operation (c.retriesFor request) (c.callOnce request)

end Client

end RemoteNotes
