import RemoteNotes.Proofs.LoginAttempts

/-!
# Runs in lockstep

Two runs are compared step by step: from states that are related, two actions end alike and leave
states that are related again. What a client does about its token goes in lockstep in front of
two servers, as long as both give the same replies to logins (`Mirrors`).
-/

namespace RemoteNotes

namespace Action

variable {α β γ δ : Type} {R : ClientState → ClientState → Prop}

/-- From related states, two actions end alike in related states. -/
def Lockstep (R : ClientState → ClientState → Prop) (Q : Except Error α → Except Error β → Prop)
    (act : Action α) (act' : Action β) : Prop :=
  ∀ s s', R s s' → Q (act.runFrom s).1 (act'.runFrom s').1 ∧
    R (act.runFrom s).2 (act'.runFrom s').2

namespace Lockstep

theorem throw (e : Error) : Lockstep R Eq (throw e : Action α) (throw e) :=
  fun _ _ h => ⟨rfl, h⟩

theorem pure (a : α) : Lockstep R Eq (pure a : Action α) (pure a) := fun _ _ h => ⟨rfl, h⟩

theorem ofExcept (r : Except Error α) : Lockstep R Eq (ofExcept r) (ofExcept r) :=
  fun _ _ h => ⟨rfl, h⟩

/-- Actions go in lockstep if their first parts come to the same and their rests do so too. -/
theorem bind {act act' : Action α} {f f' : α → Action β} (hact : Lockstep R Eq act act')
    (hf : ∀ a, Lockstep R Eq (f a) (f' a)) : Lockstep R Eq (act >>= f) (act' >>= f') := by
  intro s s' h
  obtain ⟨hsame, hafter⟩ := hact s s' h
  rw [runFrom_bind, runFrom_bind]
  revert hsame hafter
  rcases act.runFrom s with ⟨e | a, t⟩ <;> rcases act'.runFrom s' with ⟨e' | a', t'⟩ <;>
    rintro ⟨⟩ hafter
  · exact ⟨rfl, hafter⟩
  · exact hf a t t' hafter

theorem result {act act' : Action α} (hact : Lockstep R Eq act act') :
    Lockstep R Eq act.result act'.result := by
  intro s s' h
  obtain ⟨hsame, hafter⟩ := hact s s' h
  exact ⟨congrArg Except.ok hsame, hafter⟩

theorem retrying {act act' : Action α} (hact : Lockstep R Eq act act') (retries : Nat) :
    Lockstep R Eq (act.retrying retries) (act'.retrying retries) := by
  induction retries with
  | zero => exact bind hact fun a => pure (a, 0)
  | succ retries ih =>
    refine bind hact.result fun r => ?_
    cases r with
    | ok a => exact pure (a, retries + 1)
    | error e =>
      simp only
      split
      · exact ih
      · exact throw e

end Lockstep

end Action

namespace Client

open RemoteNotes.Action (Lockstep runFrom runFrom_bind)

/-- The same client in front of another server. -/
def withServer (c : Client) (server : List Http.Request → Http.Request → Http.Reply) : Client :=
  { c with world := { c.world with server } }

@[simp] theorem withServer_config (c : Client)
    (server : List Http.Request → Http.Request → Http.Reply) :
    (c.withServer server).config = c.config := rfl

/-- States of a client in front of two servers that differ in nothing that the client goes by, and
go on so whatever it does about its token. -/
structure Mirrors (c : Client) (server : List Http.Request → Http.Request → Http.Reply)
    (R : ClientState → ClientState → Prop) : Prop where
  token : ∀ {s s'}, R s s' → s'.token = s.token
  closed : ∀ {s s'}, R s s' → s'.closed = s.closed
  readings : ∀ {s s'}, R s s' → s'.readings = s.readings
  atReading : ∀ {s s'}, R s s' → ∀ n, R (s.atReading n) (s'.atReading n)
  hold : ∀ {s s'}, R s s' → ∀ token, R (s.hold token) (s'.hold token)
  reply : ∀ {s s' body message}, c.loginRequest? body = some message → R s s' →
    (c.withServer server).replyTo s' message = c.replyTo s message
  login : ∀ {s s' body x}, c.loginRequest? body = some x.request → x.purpose = .login →
    R s s' → R (s.record x) (s'.record x)

namespace Mirrors

variable {c : Client} {server : List Http.Request → Http.Request → Http.Reply}
  {R : ClientState → ClientState → Prop} (h : Mirrors c server R)

include h

theorem now_lockstep : Lockstep R Eq c.now (c.withServer server).now := by
  intro s s' hs
  rw [now_runFrom, now_runFrom, h.readings hs]
  exact ⟨rfl, h.atReading hs _⟩

theorem grantedToken_lockstep (r : Http.Response) (body : String) :
    Lockstep R Eq (c.grantedToken r body) ((c.withServer server).grantedToken r body) := by
  unfold grantedToken
  simp only [Action.throw_bind]
  split
  · exact .throw _
  split
  · exact .throw _
  exact .bind (.ofExcept _) fun grant => .bind h.now_lockstep fun now => .ofExcept _

theorem loginOnce_lockstep (body : Json) :
    Lockstep R Eq (c.loginOnce body) ((c.withServer server).loginOnce body) := by
  have hexchange : Lockstep R Eq (c.exchange .login loginSubject (c.loginRequest? body))
      ((c.withServer server).exchange .login loginSubject (c.loginRequest? body)) := by
    cases hmessage : c.loginRequest? body with
    | none => exact .throw _
    | some message =>
      intro s s' hs
      rw [exchange_runFrom, exchange_runFrom, h.reply hmessage hs, h.token hs]
      exact ⟨rfl, h.login hmessage rfl hs⟩
  exact .bind hexchange fun r => .bind (.ofExcept _) fun text => h.grantedToken_lockstep r text

theorem authenticate_lockstep (credential : Credential) :
    Lockstep R Eq (c.authenticate credential) ((c.withServer server).authenticate credential) := by
  unfold authenticate
  split
  · exact .pure _
  · exact .throw _
  · refine .bind (Lockstep.result (.retrying (h.loginOnce_lockstep _) _)) fun r => ?_
    split
    · exact .pure _
    · exact .throw _

theorem renew_lockstep : Lockstep R Eq c.renew (c.withServer server).renew := by
  refine .bind (h.authenticate_lockstep _) fun token => ?_
  intro s s' hs
  exact ⟨rfl, h.hold hs token⟩

theorem ensureOpen_lockstep : Lockstep R Eq ensureOpen ensureOpen := by
  intro s s' hs
  rw [ensureOpen_runFrom, ensureOpen_runFrom, h.closed hs]
  split
  · exact ⟨rfl, hs⟩
  · exact ⟨rfl, hs⟩

theorem validToken?_lockstep : Lockstep R Eq c.validToken? (c.withServer server).validToken? := by
  intro s s' hs
  have htoken := h.token hs
  cases hheld : s.token with
  | none =>
    rw [hheld] at htoken
    simp only [validToken?, runFrom_bind, Action.runFrom_get, hheld, htoken]
    exact ⟨rfl, hs⟩
  | some token =>
    rw [hheld] at htoken
    rw [validToken?_runFrom hheld, validToken?_runFrom htoken, h.readings hs]
    exact ⟨rfl, h.atReading hs _⟩

theorem getTokenInTurn_lockstep :
    Lockstep R Eq c.getTokenInTurn (c.withServer server).getTokenInTurn := by
  refine .bind h.ensureOpen_lockstep fun _ => .bind h.validToken?_lockstep fun valid? => ?_
  cases valid? with
  | some token => exact .pure token
  | none =>
    cases hc : c.config.credential.isRenewable with
    | true =>
      simp only [withServer_config, hc, Bool.not_true, Bool.false_eq_true, ↓reduceIte]
      exact h.renew_lockstep
    | false =>
      intro s s' hs
      have hmessage : noTokenMessage s' = noTokenMessage s := by
        rw [noTokenMessage, noTokenMessage, h.token hs]
      simp only [withServer_config, hc, Bool.not_false, ↓reduceIte, Action.throw_bind, runFrom_bind,
        Action.runFrom_get, Action.runFrom_throw, hmessage]
      exact ⟨trivial, hs⟩

theorem getToken_lockstep : Lockstep R Eq c.getToken (c.withServer server).getToken := by
  refine .bind h.ensureOpen_lockstep fun _ => .bind h.validToken?_lockstep fun valid? => ?_
  cases valid? with
  | some token => exact .pure token
  | none => exact h.getTokenInTurn_lockstep

theorem refreshAfterRejection_lockstep (stale : SessionToken) :
    Lockstep R Eq (c.refreshAfterRejection stale)
      ((c.withServer server).refreshAfterRejection stale) := by
  refine .bind h.ensureOpen_lockstep fun _ => .bind h.validToken?_lockstep fun valid? => ?_
  cases valid?.filter (· != stale) with
  | some current => exact .pure current
  | none =>
    simp only [Action.throw_bind]
    cases hc : c.config.credential.isRenewable with
    | true =>
      simp only [withServer_config, hc, Bool.not_true, Bool.false_eq_true, ↓reduceIte]
      exact h.renew_lockstep
    | false =>
      simp only [withServer_config, hc, Bool.not_false, ↓reduceIte]
      exact .throw _

end Mirrors

end Client

end RemoteNotes
