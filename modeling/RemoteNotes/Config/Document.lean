import RemoteNotes.Config.Settings

/-!
# Settings in a document

A JSON document with the settings of a client. Only the address of the server has to be
there; names that mean nothing are refused.
-/

namespace RemoteNotes.Config

open Number
open Time (Duration)

/-- The parts of a document. What is absent or null leaves a default in place. -/
structure Document where
  baseUrl : Option String := none
  accessToken : Option String := none
  username : Option String := none
  password : Option String := none
  sso : Option SsoCredentials := none
  timeoutSecs : Option Double := none
  maxAttempts : Option Nat := none
  backoffBaseMs : Option Nat := none
  backoffMultiplier : Option Double := none
  backoffMaxMs : Option Nat := none
  verifyTls : Option Bool := none
  userAgent : Option String := none
  headers : List (String × String) := []
  chunkSize : Option Nat := none
  maxUploadSize : Option Nat := none
  batchConcurrency : Option Nat := none

namespace Document

def natPart (name : String) (limit : Nat) (type : String)
    (put : Option Nat → Document → Document) : Json.Form.Field Document :=
  .part name (.optional (.nat limit type)) put

def layout : Json.Form.Layout Document Document where
  label := "struct ConfigFile"
  closed := true
  start := {}
  fields := [
    { Json.Form.Field.part "base_url" .text fun v d => { d with baseUrl := some v } with
      mayEndBefore := false },
    .part "access_token" (.optional .text) fun v d => { d with accessToken := v },
    .part "username" (.optional .text) fun v d => { d with username := v },
    .part "password" (.optional .text) fun v d => { d with password := v },
    .part "sso" (.optional SsoCredentials.form) fun v d => { d with sso := v },
    .part "timeout_secs" (.optional .double) fun v d => { d with timeoutSecs := v },
    natPart "max_attempts" maxUInt32 "u32" fun v d => { d with maxAttempts := v },
    natPart "backoff_base_ms" maxUInt64 "u64" fun v d => { d with backoffBaseMs := v },
    .part "backoff_multiplier" (.optional .double) fun v d => { d with backoffMultiplier := v },
    natPart "backoff_max_ms" maxUInt64 "u64" fun v d => { d with backoffMaxMs := v },
    .part "verify_tls" (.optional .bool) fun v d => { d with verifyTls := v },
    .part "user_agent" (.optional .text) fun v d => { d with userAgent := v },
    .part "headers" (.entries .text) fun v d => { d with headers := v },
    natPart "chunk_size" maxUInt64 "usize" fun v d => { d with chunkSize := v },
    natPart "max_upload_size" maxUInt64 "u64" fun v d => { d with maxUploadSize := v },
    natPart "batch_concurrency" maxUInt64 "usize" fun v d => { d with batchConcurrency := v }]
  finish d := if d.baseUrl.isSome then .ok d else .error (.missingField "base_url")

def form : Json.Form Document := .record layout

/-- One memo at a time is the same as no concurrency. -/
def batchMode (d : Document) : BatchMode :=
  match d.batchConcurrency with
  | none => .sequential
  | some 1 => .sequential
  | some n => .concurrent n

def draft (d : Document) : Except ConfigFault ClientDraft := do
  let start : ClientPolicy := {}
  let timeout ← match d.timeoutSecs with
    | none => pure start.timeout
    | some secs => (Duration.ofFloatSeconds secs).mapError (.duration "timeout_secs")
  let retry : RetryPolicy := {
    maxAttempts := d.maxAttempts.getD start.retry.maxAttempts
    base := (d.backoffBaseMs.map Duration.ofMillis).getD start.retry.base
    multiplier := d.backoffMultiplier.getD start.retry.multiplier
    maxDelay := (d.backoffMaxMs.map Duration.ofMillis).getD start.retry.maxDelay }
  let policy : ClientPolicy := {
    timeout, retry
    verifyTls := d.verifyTls.getD start.verifyTls
    userAgent := (d.userAgent.bind Text.nonBlank?).getD start.userAgent
    headers := d.headers
    chunkSize := d.chunkSize.getD start.chunkSize
    maxUploadSize := d.maxUploadSize.getD start.maxUploadSize
    batchMode := d.batchMode }
  return {
    baseUrl := d.baseUrl.getD ""
    accessToken := d.accessToken
    username := d.username
    password := d.password
    sso := d.sso
    policy }

end Document

end RemoteNotes.Config

namespace RemoteNotes.ClientConfig

def ofDocument (d : Config.Document) : Except ConfigFault ClientConfig := do
  (← d.draft).build

def ofJson (raw : String) : Except ConfigFault ClientConfig := do
  ofDocument (← (Config.Document.form.read raw).mapError .document)

end RemoteNotes.ClientConfig
