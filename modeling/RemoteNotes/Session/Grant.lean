import RemoteNotes.Error
import RemoteNotes.Http.Header
import RemoteNotes.Session.Token
import RemoteNotes.Time.Rfc3339

/-!
# Granted sessions

What a server answers to a login. The token stands in the body or in a cookie, and its end
in the body, in the token itself or nowhere.
-/

namespace RemoteNotes.Session

open Text.Utf8 (Octets)
open Time (Instant)

def loginOperation : String := "login"

def loginFailure (message : String) : Error := .unauthenticated loginOperation message

/-! ### The cookie -/

def cookieName : String := "memos.access-token"

/-- The name and the value at the front of a cookie, without blanks around them. -/
def cookiePair? (cookie : List Char) : Option (List Char × List Char) :=
  let pair := cookie.takeWhile (· != ';')
  (Text.cut? '=' (Text.trim pair)).map fun (name, value) => (Text.trim name, Text.trim value)

/-- The value of a cookie, if it is the one of a session. -/
def sessionValue? (cookie : List Char) : Option String :=
  match cookiePair? cookie with
  | some (name, value) =>
    if name = cookieName.toList then some (String.ofList value) else none
  | none => none

/-- The first session cookie decides. Values that are not plain text are passed over. -/
def cookie? (values : List Octets) : Option String :=
  let cookies := (values.filter Http.isPlainValue).map fun v => v.map fun b => Char.ofNat b.toNat
  (cookies.findSome? sessionValue?).filter (· != "")

/-! ### The body -/

structure Grant where
  accessToken : Option String := none
  expiresAt : Option String := none

namespace Grant

def layout : Json.Form.Layout Grant Grant where
  label := "struct SessionResponse"
  closed := false
  start := {}
  fields := [
    { Json.Form.Field.part "accessToken" (.optional .text)
        fun v g => { g with accessToken := v } with
      aliases := ["access_token"] },
    { Json.Form.Field.part "expiresAt" (.optional .text) fun v g => { g with expiresAt := v } with
      aliases := ["expires_at", "accessTokenExpiresAt"] }]
  finish := .ok

def form : Json.Form Grant := .record layout

/-- A blank body grants nothing of its own. -/
def parse (body : String) : Except Error Grant :=
  if Text.isBlankText body then .ok {}
  else (form.read body).mapError fun fault =>
    loginFailure ("invalid session response: " ++ fault.message)

/-- The secret of the token: the one in the body before the one in the cookie. -/
def secret (g : Grant) (cookie : Option String) : Except Error String :=
  match (g.accessToken.bind Text.nonBlank?).or cookie with
  | some secret => .ok secret
  | none => .error (loginFailure "session response did not include an access token")

def expiry (g : Grant) : Except Error (Option Instant) :=
  match g.expiresAt.bind Text.nonBlank? with
  | none => .ok none
  | some raw =>
    match Time.Rfc3339.parse raw with
    | .ok t => .ok (some t)
    | .error fault => .error (loginFailure s!"invalid session expiry '{raw}': {fault.message}")

def defaultDays : Nat := 14

def toToken (g : Grant) (cookie : Option String) (now : Instant) : Except Error SessionToken := do
  let secret ← g.secret cookie
  let expiry ← g.expiry
  let expiresAt := (expiry.or (SessionToken.claimedExpiry? secret)).getD (now.addDays defaultDays)
  return { secret, expiresAt := some expiresAt }

end Grant

end RemoteNotes.Session
