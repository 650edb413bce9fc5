import RemoteNotes.Config.Settings

/-!
# Settings in environment variables

Variables with blank values count as unset. Without an address and a credential there are
no settings at all.
-/

namespace RemoteNotes.Config

open Number
open Time (Duration)

/-- The value of each variable that is set. -/
abbrev Environment := List (String × String)

namespace Environment

/-- The trimmed value of a variable, unless it is blank. -/
def get? (env : Environment) (name : String) : Option String :=
  (env.lookup name).bind Text.nonBlank?

def truths : List String := ["1", "true", "yes", "on"]

def falsehoods : List String := ["0", "false", "no", "off"]

def flag? (raw : String) : Option Bool :=
  let raw := Text.asciiLower raw
  if truths.contains raw then some true
  else if falsehoods.contains raw then some false
  else none

def parseTimeout (name raw : String) : Except ConfigFault Duration := do
  let secs ← (readFloat raw).mapError (.number name)
  (Duration.ofFloatSeconds secs).mapError (.duration name)

def parseNat (limit : Nat) (name raw : String) : Except ConfigFault Nat :=
  (readNat limit raw).mapError (.number name)

def parseFloat (name raw : String) : Except ConfigFault Double :=
  (readFloat raw).mapError (.number name)

def parseFlag (name raw : String) : Except ConfigFault Bool :=
  match flag? raw with
  | some b => .ok b
  | none => .error (.flag name)

/-- A setting that has a default. -/
def setting {α : Type} (env : Environment) (name : String)
    (parse : String → String → Except ConfigFault α) (default : α) : Except ConfigFault α :=
  match env.get? name with
  | none => .ok default
  | some raw => parse name raw

def policy (env : Environment) : Except ConfigFault ClientPolicy := do
  let start : ClientPolicy := {}
  let timeout ← env.setting "MEMOS_TIMEOUT_SECS" parseTimeout start.timeout
  let maxAttempts ← env.setting "MEMOS_MAX_RETRIES" (parseNat maxUInt32) start.retry.maxAttempts
  let base ← env.setting "MEMOS_BACKOFF_BASE_MS"
    (fun name raw => (parseNat maxUInt64 name raw).map Duration.ofMillis) start.retry.base
  let multiplier ← env.setting "MEMOS_BACKOFF_MULTIPLIER" parseFloat start.retry.multiplier
  let verifyTls ← env.setting "MEMOS_VERIFY_TLS" parseFlag start.verifyTls
  return { start with timeout, verifyTls, retry := { start.retry with maxAttempts, base, multiplier } }

/-- The draft that the variables describe, if any of the main ones is set. -/
def draft? (env : Environment) : Except ConfigFault (Option ClientDraft) := do
  let baseUrl := env.get? "MEMOS_BASE_URL"
  let accessToken := env.get? "MEMOS_ACCESS_TOKEN"
  let username := env.get? "MEMOS_USERNAME"
  let password := (env.lookup "MEMOS_PASSWORD").filter (· != "")
  if baseUrl.isNone && accessToken.isNone && username.isNone && password.isNone then
    return none
  match baseUrl with
  | none => throw .baseUrlRequired
  | some baseUrl =>
    return some { baseUrl, accessToken, username, password, policy := ← env.policy }

end Environment

end RemoteNotes.Config

namespace RemoteNotes.ClientConfig

def ofEnvironment (env : Config.Environment) : Except ConfigFault (Option ClientConfig) := do
  match ← env.draft? with
  | none => return none
  | some draft => return some (← draft.build)

end RemoteNotes.ClientConfig
