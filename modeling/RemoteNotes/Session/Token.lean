import RemoteNotes.Json.Form
import RemoteNotes.Text.Base64
import RemoteNotes.Text.Diagnostic

/-!
# Session tokens

What a client shows to the server with every request. A token may carry the time at which
it ends; the client takes it for ended a little earlier.
-/

namespace RemoteNotes

open Number
open Text.Utf8 (Octets)
open Time (Instant)

structure SessionToken where
  secret : String
  expiresAt : Option Instant
  deriving DecidableEq

namespace SessionToken

/-- The claims of a signed token, of which one is of interest. A token is not checked. -/
structure Claims where
  expiry : Option Int := none

def Claims.layout : Json.Form.Layout Claims Claims where
  label := "claims"
  closed := false
  start := {}
  fields := [
    { Json.Form.Field.part "exp" (.optional (.int maxInt64 "i64")) fun v c => { c with expiry := v } with
      mayEndBefore := false }]
  finish := .ok

def Claims.form : Json.Form Claims := .record layout

def claims? (octets : Octets) : Option Claims :=
  (Json.readOctets Claims.form.ofText octets).toOption

/-- The octets of the middle part of a text with exactly three parts. -/
def payload? (secret : String) : Option Octets :=
  match Text.splitOn '.' secret.toList with
  | [_, payload, _] => Text.Base64.decode? Text.Base64.urlSafe (Text.dropEndWhile (· == '=') payload)
  | _ => none

/-- The end that a signed token claims for itself. -/
def claimedExpiry? (secret : String) : Option Instant := do
  let claims ← claims? (← payload? secret)
  Instant.ofSeconds? (← claims.expiry)

/-- A token that tells its own end. -/
def ofBearer (secret : String) : SessionToken := ⟨secret, claimedExpiry? secret⟩

/-- How many seconds before its end a token is taken for ended. -/
def safetyMargin : Nat := 60

def isExpiredAt (t : SessionToken) (now : Instant) : Bool :=
  match t.expiresAt with
  | none => false
  | some expiry => expiry.seconds ≤ now.seconds + safetyMargin

def diagnostic (t : SessionToken) : String :=
  Text.Diagnostic.record "SessionToken"
    [("value", Text.Diagnostic.redacted),
      ("expires_at", Text.Diagnostic.optional (t.expiresAt.map Instant.text))]

end SessionToken

end RemoteNotes
