import RemoteNotes.Name
import RemoteNotes.Time.Duration

/-!
# Errors

Why an operation of the client failed. An error tells which operation failed and on which
resource, and whether another attempt might succeed.
-/

namespace RemoteNotes

open Number (natText)
open Time (Duration)

inductive TransportFault
  /-- No response came back for a request to this address. -/
  | sending (url : String)
  /-- The body of a response broke off. -/
  | receiving
  /-- The request has no form on the wire. -/
  | building
  deriving DecidableEq

def TransportFault.message : TransportFault → String
  | .sending url => "error sending request for url (" ++ url ++ ")"
  | .receiving => "error decoding response body"
  | .building => "builder error"

mutual

inductive Error
  | authentication (operation message : String) (status : Option Nat)
  | validation (fault : ValidationError)
  /-- The server answered with an error status. -/
  | api (operation : String) (resource : Option String) (status : Nat) (message : String)
  | transport (operation : String) (resource : Option String) (fault : TransportFault)
  | timeout (operation : String) (resource : Option String) (limit : Duration)
  | partialBatch (operation : String) (items : List BatchItem)
  | configuration (message : String)
  /-- Reading a file or writing to the receiver of a download failed. -/
  | io (operation message : String)

/-- What became of one memo of a batch. -/
inductive BatchOutcome
  | created (name : MemoName)
  /-- The memo exists, but a later step failed. -/
  | createdWithError (name : MemoName) (error : Error)
  | failed (error : Error)

/-- The outcome for the memo at a place of the input. -/
inductive BatchItem
  | mk (index : Nat) (outcome : BatchOutcome)

end

instance : Coe ValidationError Error := ⟨.validation⟩

namespace BatchOutcome

/-- The name of the memo, if the server created it. -/
def name? : BatchOutcome → Option MemoName
  | .created name => some name
  | .createdWithError name _ => some name
  | .failed _ => none

def error? : BatchOutcome → Option Error
  | .created _ => none
  | .createdWithError _ error => some error
  | .failed error => some error

end BatchOutcome

namespace BatchItem

def index : BatchItem → Nat
  | .mk index _ => index

def outcome : BatchItem → BatchOutcome
  | .mk _ outcome => outcome

end BatchItem

namespace Error

def statusNote : Option Nat → String
  | none => ""
  | some status => " (HTTP " ++ natText status ++ ")"

def resourceNote : Option String → String
  | none => ""
  | some resource => " on " ++ resource

def batchSummary (items : List BatchItem) : String :=
  let created := items.filter fun item => item.outcome.name?.isSome
  let failed := items.filter fun item => item.outcome.error?.isSome
  natText created.length ++ " succeeded, " ++ natText failed.length ++ " failed"

def message : Error → String
  | .authentication operation message status =>
    "Authentication failed during " ++ operation ++ ": " ++ message ++ statusNote status
  | .validation fault => fault.message
  | .api operation resource status message =>
    "API error during " ++ operation ++ resourceNote resource ++ ": " ++ message ++
      statusNote (some status)
  | .transport operation resource fault =>
    "Transport error during " ++ operation ++ resourceNote resource ++ ": " ++ fault.message
  | .timeout operation resource limit =>
    "Request timed out after " ++ limit.text ++ " during " ++ operation ++ resourceNote resource
  | .partialBatch operation items =>
    "Batch " ++ operation ++ " partially failed: " ++ batchSummary items
  | .configuration message => "Configuration error: " ++ message
  | .io operation message => "IO error during " ++ operation ++ ": " ++ message

/-- The status that the server answered with, as far as the error knows it. -/
def status? : Error → Option Nat
  | .authentication _ _ status => status
  | .api _ _ status _ => some status
  | _ => none

def resource? : Error → Option String
  | .api _ resource _ _ => resource
  | .transport _ resource _ => resource
  | .timeout _ resource _ => resource
  | _ => none

/-- Statuses from here on are the server's own failures. -/
def firstServerStatus : Nat := 500

/-- Whether the same request might succeed later. -/
def isTransient : Error → Bool
  | .transport _ _ _ => true
  | .timeout _ _ _ => true
  | .api _ _ status _ => firstServerStatus ≤ status
  | _ => false

/-- An authentication error that the server had no part in. -/
def unauthenticated (operation message : String) : Error := .authentication operation message none

end Error

end RemoteNotes
