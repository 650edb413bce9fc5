import RemoteNotes.Config.Settings
import RemoteNotes.Number.Shortest

/-!
# Settings in diagnostic text

Settings are shown without their secrets: of a header field only the name, and of a
credential only that it is there.
-/

namespace RemoteNotes

open Number (natText)
open Text (quote)
open Text.Diagnostic

/-- Points are written out from 0.0001 up to sixteen digits before the point. -/
def diagnosticFloat : Number.FloatFormat := { firstPoint := -3, lastPoint := 16, plusSign := false }

def BatchMode.diagnostic : BatchMode → String
  | .sequential => "Sequential"
  | .concurrent n => record "Concurrent" [("max_in_flight", natText n)]

def ClientConfig.diagnostic (c : ClientConfig) : String :=
  let p := c.policy
  record "ClientConfig" [
    ("base_url", quote c.baseUrl),
    ("credential", c.credential.diagnostic),
    ("timeout", p.timeout.text),
    ("max_attempts", natText p.retry.maxAttempts),
    ("backoff_base", p.retry.base.text),
    ("backoff_multiplier", diagnosticFloat.write p.retry.multiplier),
    ("backoff_max", p.retry.maxDelay.text),
    ("verify_tls", bool p.verifyTls),
    ("user_agent", quote p.userAgent),
    ("headers", list (p.headers.map fun (name, _) => quote name)),
    ("chunk_size", natText p.chunkSize),
    ("max_upload_size", natText p.maxUploadSize),
    ("batch_mode", p.batchMode.diagnostic)]

def ClientDraft.diagnostic (d : ClientDraft) : String :=
  let p := d.policy
  partialRecord "ClientConfigBuilder" [
    ("base_url", quote d.baseUrl),
    ("access_token", optional (d.accessToken.map fun _ => redacted)),
    ("username", optional (d.username.map quote)),
    ("password", optional (d.password.map fun _ => redacted)),
    ("sso", optional (d.sso.map SsoCredentials.diagnostic)),
    ("timeout", p.timeout.text),
    ("max_attempts", natText p.retry.maxAttempts),
    ("verify_tls", bool p.verifyTls),
    ("batch_mode", p.batchMode.diagnostic)]

end RemoteNotes
