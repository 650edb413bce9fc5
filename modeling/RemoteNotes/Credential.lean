import RemoteNotes.Json.Form
import RemoteNotes.Text.Diagnostic

/-!
# Credentials

What a client proves its identity with. A token is used as it is; all other credentials
are exchanged for a session, as often as one is needed.
-/

namespace RemoteNotes

open Number (intText twoTo)
open Text (quote)

/-- An assertion of an identity provider. -/
structure SsoCredentials where
  idpId : Int
  code : String
  redirectUri : String
  deriving DecidableEq

inductive Credential
  | token (secret : String)
  | password (username secret : String)
  | sso (assertion : SsoCredentials)
  deriving DecidableEq

namespace SsoCredentials

def diagnostic (c : SsoCredentials) : String :=
  Text.Diagnostic.record "SsoCredentials"
    [("idp_id", intText c.idpId), ("code", Text.Diagnostic.redacted),
      ("redirect_uri", quote c.redirectUri)]

def maxIdpId : Nat := twoTo 31 - 1

/-- The parts of the document form that have been read so far. -/
structure Draft where
  idpId : Option Int := none
  code : Option String := none
  redirectUri : Option String := none

def Draft.finish (d : Draft) : Except Json.Cause SsoCredentials := do
  let idpId ← d.idpId.getDM (throw (.missingField "idp_id"))
  let code ← d.code.getDM (throw (.missingField "code"))
  let redirectUri ← d.redirectUri.getDM (throw (.missingField "redirect_uri"))
  return { idpId, code, redirectUri }

def layout : Json.Form.Layout Draft SsoCredentials where
  label := "struct SsoCredentials"
  closed := true
  start := {}
  fields := [
    { Json.Form.Field.part "idp_id" (.int maxIdpId "i32") fun v d => { d with idpId := some v } with
      mayEndBefore := false },
    { Json.Form.Field.part "code" .text fun v d => { d with code := some v } with
      mayEndBefore := false },
    { Json.Form.Field.part "redirect_uri" .text fun v d => { d with redirectUri := some v } with
      mayEndBefore := false }]
  finish := Draft.finish

def form : Json.Form SsoCredentials := .record layout

end SsoCredentials

namespace Credential

/-- Whether a session that ended can be replaced by a new one. -/
def isRenewable : Credential → Bool
  | .token _ => false
  | _ => true

/-- What is sent to the server in exchange for a session. -/
def loginBody? : Credential → Option Json
  | .token _ => none
  | .password username secret =>
    some (Json.ofFields [("passwordCredentials",
      Json.ofFields [("username", .text username), ("password", .text secret)])])
  | .sso c =>
    some (Json.ofFields [("ssoCredentials",
      Json.ofFields [("idpId", .num (.ofInt c.idpId)), ("code", .text c.code),
        ("redirectUri", .text c.redirectUri)])])

def diagnostic : Credential → String
  | .token _ => Text.Diagnostic.tuple "Token" Text.Diagnostic.redacted
  | .password username _ =>
    Text.Diagnostic.record "Password"
      [("username", quote username), ("password", Text.Diagnostic.redacted)]
  | .sso c => Text.Diagnostic.tuple "Sso" c.diagnostic

end Credential

end RemoteNotes
