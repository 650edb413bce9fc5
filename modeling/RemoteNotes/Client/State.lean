import RemoteNotes.Config.Settings
import RemoteNotes.Http.Message
import RemoteNotes.Session.Token
import RemoteNotes.Upload.File

/-!
# The state of a client

A client holds at most one session token and keeps a record of what it has sent. Everything
around it is a world: what the server answers, what the clock shows and what files hold.
A client has no other way to learn anything, so its runs are functions of the world.
-/

namespace RemoteNotes

open Time (Instant)

structure World where
  /-- The reply to a request, given the requests before it. -/
  server : List Http.Request → Http.Request → Http.Reply
  /-- The time at each reading of the clock. -/
  clock : Nat → Instant
  files : String → Upload.FileEntry
  /-- The media types that go with extensions of file names. -/
  mediaTypes : String → Option String := fun _ => none
  /-- The boundary between the parts of a form. -/
  boundary : String
  /-- Which memo of a batch goes on at each turn, counted among those in flight. -/
  schedule : Nat → Nat

/-- What a request is sent for. -/
inductive Purpose
  | login
  | signOut
  | call
  | download
  deriving DecidableEq

/-- A request that was sent, and what came back. -/
structure Exchange where
  purpose : Purpose
  request : Http.Request
  reply : Http.Reply
  /-- The token that the client held when it sent the request. -/
  held : Option SessionToken
  deriving DecidableEq

structure ClientState where
  token : Option SessionToken := none
  closed : Bool := false
  /-- How often the clock has been read. -/
  readings : Nat := 0
  exchanges : List Exchange := []
  deriving DecidableEq

structure Client where
  config : ClientConfig
  world : World

/-- What a client does: it ends in a value or an error, and in both cases in a new state. -/
abbrev Action := ExceptT Error (StateM ClientState)

namespace Action

variable {α : Type}

def ofExcept (r : Except Error α) : Action α := ExceptT.mk (pure r)

/-- The result of an action, be it a value or an error. -/
def result (act : Action α) : Action (Except Error α) := ExceptT.lift act.run

/-- Repeats an action that failed for the time being, up to `retries` times, and tells how
many retries are left. -/
def retrying (act : Action α) : (retries : Nat) → Action (α × Nat)
  | 0 => do return (← act, 0)
  | retries + 1 => do
    match ← act.result with
    | .ok a => return (a, retries + 1)
    | .error e => if e.isTransient then retrying act retries else throw e

end Action

namespace Client

/-- A client that knows how to reach its server. A token that is its own credential is
held from the start. -/
def start (c : Client) : ClientState :=
  match c.config.credential with
  | .token secret => { token := some (SessionToken.ofBearer secret) }
  | _ => {}

def now (c : Client) : Action Instant := do
  let s ← get
  set { s with readings := s.readings + 1 }
  return c.world.clock s.readings

def send (c : Client) (purpose : Purpose) (request : Http.Request) : Action Http.Reply := do
  let s ← get
  let reply := (c.world.server (s.exchanges.map (·.request)) request).forMethod request.method
  let exchange : Exchange := { purpose, request, reply, held := s.token }
  set { s with exchanges := s.exchanges ++ [exchange] }
  return reply

/-- How many failed attempts may be repeated. -/
def retries (c : Client) : Nat := c.config.policy.retry.maxAttempts - 1

end Client

end RemoteNotes
