import RemoteNotes.Config.BaseUrl
import RemoteNotes.Credential
import RemoteNotes.Http.Header
import RemoteNotes.Retry

/-!
# Settings

What a client needs to know before it can start: the server, one credential and a policy.
Settings are collected in a draft that may hold anything. Only a draft without faults
becomes a configuration, and a configuration keeps the policy of its draft.
-/

namespace RemoteNotes

open Number (Double natText)
open Time (Duration)

inductive BatchMode
  | sequential
  | concurrent (maxInFlight : Nat)
  deriving DecidableEq

structure ClientPolicy where
  /-- The time that a request may take. -/
  timeout : Duration := .ofSeconds 30
  retry : RetryPolicy :=
    { maxAttempts := 3, base := .ofMillis 500, multiplier := .ofNat 2, maxDelay := .ofMillis 30000 }
  verifyTls : Bool := true
  userAgent : String := "memos-client/0.1.0"
  /-- Header fields that every request carries, in the order of their names. -/
  headers : List (String × String) := []
  /-- Octets that are read from a file at once. -/
  chunkSize : Nat := 64 * 1024
  maxUploadSize : Nat := 100 * 1024 * 1024
  batchMode : BatchMode := .sequential
  deriving DecidableEq

structure ClientDraft where
  baseUrl : String
  accessToken : Option String := none
  username : Option String := none
  password : Option String := none
  sso : Option SsoCredentials := none
  policy : ClientPolicy := {}
  deriving DecidableEq

structure ClientConfig where
  /-- Without a slash at its end. -/
  baseUrl : String
  credential : Credential
  policy : ClientPolicy
  deriving DecidableEq

inductive ConfigFault
  | baseUrl (fault : BaseUrl.Fault)
  | halfPassword
  | manyCredentials
  | noCredential
  | zeroTimeout
  | noAttempts
  | badMultiplier
  | backoffOrder
  | zeroChunkSize
  | zeroConcurrency
  | authorizationHeader
  | document (fault : Json.Fault)
  /-- A number of seconds that is no span of time. -/
  | duration (setting : String) (fault : Duration.Fault)
  | number (setting : String) (fault : Number.NumberFault)
  | flag (setting : String)
  | baseUrlRequired
  | nothingSet
  | headerName (name : String)
  | headerValue (name : String)
  | userAgent
  deriving DecidableEq

def ConfigFault.message : ConfigFault → String
  | .baseUrl fault => fault.message
  | .halfPassword => "username and password must be provided together"
  | .manyCredentials =>
    "only one of access_token, username/password, or SSO credentials may be provided"
  | .noCredential => "either access_token, username/password, or SSO credentials must be provided"
  | .zeroTimeout => "timeout must be greater than zero"
  | .noAttempts => "max_attempts must be at least 1"
  | .badMultiplier => "backoff_multiplier must be a finite value >= 1.0"
  | .backoffOrder => "backoff_max must not be smaller than backoff_base"
  | .zeroChunkSize => "chunk_size must be greater than zero"
  | .zeroConcurrency => "batch concurrency must be at least 1"
  | .authorizationHeader => "the Authorization header is managed by the client"
  | .document fault => "invalid config JSON: " ++ fault.message
  | .duration setting fault => "invalid " ++ setting ++ ": " ++ fault.message
  | .number setting fault => "invalid " ++ setting ++ ": " ++ fault.message
  | .flag setting => "invalid " ++ setting ++ ": expected true or false"
  | .baseUrlRequired => "MEMOS_BASE_URL is required when other MEMOS_* variables are set"
  | .nothingSet => "MEMOS_BASE_URL and a credential must be set"
  | .headerName name => s!"invalid header name '{name}': invalid HTTP header name"
  | .headerValue name => s!"invalid value for header '{name}': failed to parse header value"
  | .userAgent => "failed to build HTTP client: builder error"

def ConfigFault.error (fault : ConfigFault) : Error := .configuration fault.message

namespace ClientPolicy

/-- Adds a header field, or replaces the one under that very name. -/
def withHeader (p : ClientPolicy) (name value : String) : ClientPolicy :=
  { p with headers := Json.Form.insertEntry name value p.headers }

def managesAuthorization (p : ClientPolicy) : Bool :=
  p.headers.any fun (name, _) => Text.asciiCaseEq name "authorization"

def fault? (p : ClientPolicy) : Option ConfigFault :=
  if p.timeout.nanos = 0 then some .zeroTimeout
  else if p.retry.maxAttempts = 0 then some .noAttempts
  else if !p.retry.multiplier.isFinite || p.retry.multiplier.lt Double.one then some .badMultiplier
  else if p.retry.maxDelay.nanos < p.retry.base.nanos then some .backoffOrder
  else if p.chunkSize = 0 then some .zeroChunkSize
  else if p.batchMode = .concurrent 0 then some .zeroConcurrency
  else if p.managesAuthorization then some .authorizationHeader
  else none

/-- The first header field, in the order of the names, that no request can carry. -/
def headerFault? (p : ClientPolicy) : Option ConfigFault :=
  p.headers.findSome? fun (name, value) =>
    if !Http.isHeaderName name then some (.headerName name)
    else if !Http.isHeaderValue value then some (.headerValue (Text.asciiLower name))
    else none

def httpFault? (p : ClientPolicy) : Option ConfigFault :=
  p.headerFault?.or (if Http.isHeaderValue p.userAgent then none else some .userAgent)

end ClientPolicy

namespace ClientDraft

/-- The user name and password of a draft, which have to come together. -/
def passwordCredential? (d : ClientDraft) : Except ConfigFault (Option Credential) :=
  match d.username.bind Text.nonBlank?, d.password.filter (· != "") with
  | some username, some password => .ok (some (.password username password))
  | none, none => .ok none
  | _, _ => .error .halfPassword

def credential (d : ClientDraft) : Except ConfigFault Credential := do
  let password ← d.passwordCredential?
  let token := (d.accessToken.bind Text.nonBlank?).map Credential.token
  match token.toList ++ password.toList ++ (d.sso.map Credential.sso).toList with
  | [credential] => return credential
  | [] => throw .noCredential
  | _ => throw .manyCredentials

/-- The configuration that a draft describes, or its first fault. -/
def build (d : ClientDraft) : Except ConfigFault ClientConfig := do
  let baseUrl ← (BaseUrl.normalize d.baseUrl).mapError .baseUrl
  let credential ← d.credential
  match d.policy.fault? with
  | some fault => throw fault
  | none => return { baseUrl, credential, policy := d.policy }

end ClientDraft

namespace ClientConfig

/-- The address under which the operations of the service lie. -/
def apiBaseUrl (c : ClientConfig) : String := c.baseUrl ++ "/api/v1"

def sessionsUrl (c : ClientConfig) : String := c.apiBaseUrl ++ "/auth/sessions"

end ClientConfig

end RemoteNotes
