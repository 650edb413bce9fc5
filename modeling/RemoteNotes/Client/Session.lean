import RemoteNotes.Client.Request
import RemoteNotes.Session.Grant

/-!
# Sessions of a client

Getting a token, replacing one that the server no longer accepts, and giving it back. Only
what is done here changes the token that a client holds.
-/

namespace RemoteNotes.Client

open Session (loginOperation)

def loginSubject : Subject := { operation := loginOperation }

/-- The token in a whole reply to a login. A failure of the server may pass. -/
def grantedToken (c : Client) (r : Http.Response) (body : String) : Action SessionToken := do
  if r.isServerError then
    throw (.api loginOperation none r.status (Http.failureText r.status body))
  if !r.isSuccess then
    throw (.authentication loginOperation (Http.failureText r.status body) (some r.status))
  let grant ← .ofExcept (Session.Grant.parse body)
  let now ← c.now
  .ofExcept (grant.toToken (Session.cookie? (r.headerValues "set-cookie")) now)

def loginOnce (c : Client) (body : Json) : Action SessionToken := do
  let request := c.build? .post c.config.sessionsUrl [] none (some (.json body))
  let r ← c.exchange .login loginSubject request
  c.grantedToken r (← .ofExcept (c.bodyText loginSubject r))

/-- Whatever ends a login is reported as a failure to authenticate. -/
def asAuthentication (e : Error) : Error :=
  match e with
  | .authentication operation message status => .authentication operation message status
  | other => .authentication loginOperation other.message other.status?

/-- Exchanges a credential for a token. The token that the client holds stays as it is. -/
def authenticate (c : Client) (credential : Credential) : Action SessionToken :=
  match credential, credential.loginBody? with
  | .token secret, _ => return SessionToken.ofBearer secret
  | _, none => throw (Session.loginFailure "credential has no login payload")
  | _, some body => do
    match ← (Action.retrying (c.loginOnce body) c.retries).result with
    | .ok (token, _) => return token
    | .error e => throw (asAuthentication e)

/-- The token that the client holds, if it lasts for a while. -/
def validToken? (c : Client) : Action (Option SessionToken) := do
  match (← get).token with
  | none => return none
  | some token =>
    let now ← c.now
    return if token.isExpiredAt now then none else some token

def tokenOperation : String := "get_token"

def ensureOpen : Action Unit := do
  if (← get).closed then throw (.unauthenticated tokenOperation "client has been closed")

def renew (c : Client) : Action SessionToken := do
  let token ← c.authenticate c.config.credential
  modify fun s => { s with token := some token }
  return token

/-- Why a client without a valid token cannot get one. -/
def noTokenMessage (s : ClientState) : String :=
  if s.token.isSome then "access token has expired and cannot be renewed"
  else "no access token is available"

/-- Logs in, unless the client holds a valid token by the time it is its turn to do so. -/
def getTokenInTurn (c : Client) : Action SessionToken := do
  ensureOpen
  match ← c.validToken? with
  | some token => return token
  | none =>
    if !c.config.credential.isRenewable then
      throw (.unauthenticated tokenOperation (noTokenMessage (← get)))
    c.renew

/-- A valid token: the one that the client holds, or a new one. -/
def getToken (c : Client) : Action SessionToken := do
  ensureOpen
  match ← c.validToken? with
  | some token => return token
  | none => c.getTokenInTurn

/-- A token in the place of one that the server rejected. If the client holds another valid
one by now, that is the one. -/
def refreshAfterRejection (c : Client) (stale : SessionToken) : Action SessionToken := do
  ensureOpen
  match (← c.validToken?).filter (· != stale) with
  | some current => return current
  | none =>
    if !c.config.credential.isRenewable then
      throw (.authentication "refresh"
        "server rejected the access token and it cannot be renewed" (some 401))
    c.renew

def signOutSubject : Subject := { operation := "sign_out" }

/-- Ends the session on the server. The client drops its token whatever the server says. -/
def signOut (c : Client) : Action Unit := do
  let held := (← get).token
  modify fun s => { s with token := none }
  match held with
  | none => return
  | some token =>
    let request :=
      c.build? .delete (c.config.sessionsUrl ++ "/current") [] (some token.secret) none
    let r ← c.exchange .signOut signOutSubject request
    if r.isSuccess || r.isUnauthorized then return
    throw (.api signOutSubject.operation none r.status
      (Http.failureText r.status (bodyTextOrEmpty r)))

/-- Drops the token and refuses to get another one. -/
def close : Action Unit := modify fun s => { s with token := none, closed := true }

end RemoteNotes.Client
