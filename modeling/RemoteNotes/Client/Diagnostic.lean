import RemoteNotes.Client.State
import RemoteNotes.Config.Diagnostic

/-!
# Clients in diagnostic text

What a developer sees of a client: its credential and its token without their secrets.
-/

namespace RemoteNotes.Client

open Text (quote)
open Text.Diagnostic

def storeDiagnostic (token : Option SessionToken) : String :=
  record "CredentialStore" [("token", optional (token.map SessionToken.diagnostic))]

def diagnostic (c : Client) (s : ClientState) : String :=
  partialRecord "AuthManager" [
    ("credential", c.config.credential.diagnostic),
    ("store", storeDiagnostic s.token),
    ("sessions_url", quote c.config.sessionsUrl),
    ("closed", bool s.closed)]

end RemoteNotes.Client
