import RemoteNotes.Proofs.Frame

/-!
# Ways of getting a token

What can come of asking for a token and of replacing one: a closed client refuses, a valid
token is used, a credential that cannot be renewed is told, and else the client logs in.
-/

namespace RemoteNotes.Client

open RemoteNotes.Action (runFrom runFrom_bind runFrom_map bind_runFrom throw_bind)

variable {c : Client} {s t : ClientState} {r : Except Error SessionToken}

theorem ensureOpen_runFrom (s : ClientState) :
    ensureOpen.runFrom s =
      if s.closed then (.error (.unauthenticated tokenOperation "client has been closed"), s)
      else (.ok (), s) := by
  simp only [ensureOpen, runFrom_bind, Action.runFrom_get]
  split <;> rfl

theorem ensureOpen_bind (hopen : s.closed = false) (act : Action SessionToken) :
    (ensureOpen >>= fun _ => act).runFrom s = act.runFrom s := by
  rw [runFrom_bind, ensureOpen_runFrom, hopen]
  rfl

theorem validToken?_runFrom {token : SessionToken} (h : s.token = some token) :
    c.validToken?.runFrom s =
      (.ok (if token.isExpiredAt (c.world.clock s.readings) then none else some token),
        s.atReading (s.readings + 1)) := by
  simp [validToken?, runFrom_bind, runFrom_map, h, Except.map]

/-- A look at the token reads the clock, unless there is no token to look at. -/
theorem validToken?_looks (c : Client) (s : ClientState) :
    (∃ token, s.token = some token ∧ token.isExpiredAt (c.world.clock s.readings) = false ∧
      c.validToken?.runFrom s = (.ok (some token), s.atReading (s.readings + 1))) ∨
    (∃ n, c.validToken?.runFrom s = (.ok none, s.atReading n) ∧
      ∀ token, s.token = some token →
        n = s.readings + 1 ∧ token.isExpiredAt (c.world.clock s.readings) = true) := by
  cases h : s.token with
  | none => exact .inr ⟨s.readings, by simp [validToken?, runFrom_bind, h], by simp⟩
  | some token =>
    have hrun := validToken?_runFrom (c := c) h
    cases hexp : token.isExpiredAt (c.world.clock s.readings) with
    | false => exact .inl ⟨token, rfl, hexp, by simpa [hexp] using hrun⟩
    | true =>
      refine .inr ⟨s.readings + 1, by simpa [hexp] using hrun, ?_⟩
      rintro _ ⟨⟩
      exact ⟨rfl, hexp⟩

theorem validToken?_cases (c : Client) (s : ClientState) :
    (∃ token, s.token = some token ∧ token.isExpiredAt (c.world.clock s.readings) = false ∧
      c.validToken?.runFrom s = (.ok (some token), s.atReading (s.readings + 1))) ∨
    (∃ n, c.validToken?.runFrom s = (.ok none, s.atReading n) ∧
      ∀ token, s.token = some token → ∃ k, token.isExpiredAt (c.world.clock k) = true) :=
  (validToken?_looks c s).imp_right fun ⟨n, hrun, hexpired⟩ =>
    ⟨n, hrun, fun token htoken => ⟨s.readings, (hexpired token htoken).2⟩⟩

/-- What can come of looking for a valid token that is usable, and of logging in where there
is none. -/
inductive TokenRun (c : Client) (usable : SessionToken → Bool) (refusal : Error)
    (s : ClientState) : Except Error SessionToken → ClientState → Prop
  | closed : s.closed = true → TokenRun c usable refusal s
    (.error (.unauthenticated tokenOperation "client has been closed")) s
  | held {token k} : s.closed = false → s.token = some token → usable token = true →
    token.isExpiredAt (c.world.clock k) = false →
    TokenRun c usable refusal s (.ok token) (s.atReading (k + 1))
  | refused {n} : s.closed = false → c.config.credential.isRenewable = false →
    TokenRun c usable refusal s (.error refusal) (s.atReading n)
  | login {n r t} : s.closed = false → c.config.credential.isRenewable = true →
    (∀ token, s.token = some token → usable token = true →
      ∃ k, token.isExpiredAt (c.world.clock k) = true) →
    c.renew.runFrom (s.atReading n) = (r, t) → TokenRun c usable refusal s r t

variable {refusal : Error} {usable : SessionToken → Bool}

theorem ensureOpen_cases {act : Action SessionToken}
    (h : (ensureOpen >>= fun _ => act).runFrom s = (r, t))
    (hopen : s.closed = false → act.runFrom s = (r, t) → TokenRun c usable refusal s r t) :
    TokenRun c usable refusal s r t := by
  cases hclosed : s.closed with
  | true =>
    simp only [runFrom_bind, ensureOpen_runFrom, hclosed, ↓reduceIte, Prod.mk.injEq] at h
    obtain ⟨rfl, rfl⟩ := h
    exact .closed hclosed
  | false =>
    rw [ensureOpen_bind hclosed] at h
    exact hopen hclosed h

theorem getTokenInTurn_cases (h : c.getTokenInTurn.runFrom s = (r, t)) :
    TokenRun c (fun _ => true) (.unauthenticated tokenOperation (noTokenMessage s)) s r t := by
  refine ensureOpen_cases h fun hopen h => ?_
  rw [runFrom_bind] at h
  rcases validToken?_cases c s with ⟨token, htoken, hvalid, hlook⟩ | ⟨n, hlook, hexpired⟩
  · simp only [hlook, Action.runFrom_pure, Prod.mk.injEq] at h
    obtain ⟨rfl, rfl⟩ := h
    exact .held hopen htoken rfl hvalid
  · simp only [hlook] at h
    cases hc : c.config.credential.isRenewable with
    | true =>
      simp only [hc, Bool.not_true, Bool.false_eq_true, ↓reduceIte] at h
      exact .login hopen hc (fun token htoken _ => hexpired token htoken) h
    | false =>
      simp only [hc, Bool.not_false, ↓reduceIte, throw_bind, runFrom_bind, Action.runFrom_get,
        Action.runFrom_throw, Prod.mk.injEq] at h
      obtain ⟨rfl, rfl⟩ := h
      exact .refused hopen hc

theorem getToken_cases (h : c.getToken.runFrom s = (r, t)) :
    TokenRun c (fun _ => true) (.unauthenticated tokenOperation (noTokenMessage s)) s r t := by
  refine ensureOpen_cases h fun hopen h => ?_
  rw [runFrom_bind] at h
  rcases validToken?_cases c s with ⟨token, htoken, hvalid, hlook⟩ | ⟨n, hlook, hexpired⟩
  · simp only [hlook, Action.runFrom_pure, Prod.mk.injEq] at h
    obtain ⟨rfl, rfl⟩ := h
    exact .held hopen htoken rfl hvalid
  · -- the second look starts from the same token
    simp only [hlook] at h
    cases getTokenInTurn_cases h with
    | closed hclosed => cases hclosed.symm.trans hopen
    | held _ htoken husable hvalid => exact .held hopen htoken husable hvalid
    | refused _ hc => exact .refused hopen hc
    | login _ hc hexpired hrenew => exact .login hopen hc hexpired hrenew

def notRenewed : Error :=
  .authentication "refresh" "server rejected the access token and it cannot be renewed" (some 401)

theorem refreshAfterRejection_cases {stale : SessionToken}
    (h : (c.refreshAfterRejection stale).runFrom s = (r, t)) :
    TokenRun c (· != stale) notRenewed s r t := by
  refine ensureOpen_cases h fun hopen h => ?_
  rw [runFrom_bind] at h
  -- a token that was found is as good as none if it is the rejected one
  have hlast {n : Nat}
      (hexpired : ∀ token, s.token = some token → (token != stale) = true →
        ∃ k, token.isExpiredAt (c.world.clock k) = true)
      (h : (if (!c.config.credential.isRenewable) = true then throw notRenewed
        else c.renew : Action SessionToken).runFrom (s.atReading n) = (r, t)) :
      TokenRun c (· != stale) notRenewed s r t := by
    cases hc : c.config.credential.isRenewable with
    | true => exact .login hopen hc hexpired (by simpa [hc] using h)
    | false =>
      simp only [hc, Bool.not_false, ↓reduceIte, Action.runFrom_throw, Prod.mk.injEq] at h
      obtain ⟨rfl, rfl⟩ := h
      exact .refused hopen hc
  rcases validToken?_cases c s with ⟨token, htoken, hvalid, hlook⟩ | ⟨n, hlook, hexpired⟩
  · simp only [hlook, Option.filter_some] at h
    cases husable : token != stale with
    | true =>
      simp only [husable, ↓reduceIte, Action.runFrom_pure, Prod.mk.injEq] at h
      obtain ⟨rfl, rfl⟩ := h
      exact .held hopen htoken husable hvalid
    | false =>
      simp only [husable, Bool.false_eq_true, ↓reduceIte, throw_bind] at h
      refine hlast (fun other hother hne => ?_) h
      cases htoken.symm.trans hother
      cases husable.symm.trans hne
  · simp only [hlook, Option.filter_none, throw_bind] at h
    exact hlast (fun token htoken _ => hexpired token htoken) h

theorem getToken_run (c : Client) (s : ClientState) :
    TokenRun c (fun _ => true) (.unauthenticated tokenOperation (noTokenMessage s)) s
      (c.getToken.runFrom s).1 (c.getToken.runFrom s).2 := getToken_cases rfl

theorem refreshAfterRejection_run (c : Client) (stale : SessionToken) (s : ClientState) :
    TokenRun c (· != stale) notRenewed s ((c.refreshAfterRejection stale).runFrom s).1
      ((c.refreshAfterRejection stale).runFrom s).2 := refreshAfterRejection_cases rfl

theorem TokenRun.respects {R : ClientState → ClientState → Prop} (hR : Action.Chains R)
    (hclock : ∀ s n, R s (s.atReading n)) (hrenew : Action.Respects R c.renew)
    (h : TokenRun c usable refusal s r t) : R s t := by
  cases h with
  | closed => exact hR.refl s
  | held => exact hclock s _
  | refused => exact hclock s _
  | @login n _ _ _ _ _ h =>
    have hlogin := hrenew (s.atReading n)
    rw [h] at hlogin
    exact hR.trans (hclock s n) hlogin

-- ---------------------------------------------------------------------------
-- Errors of getting a token
-- ---------------------------------------------------------------------------

/-- An error that tells of a failure to authenticate. -/
def IsAuthentication (e : Error) : Prop := ∃ operation message status,
  e = .authentication operation message status

theorem IsAuthentication.not_transient {e : Error} (h : IsAuthentication e) :
    e.isTransient = false := by
  obtain ⟨_, _, _, rfl⟩ := h
  rfl

theorem IsAuthentication.ne_validation {e : Error} (h : IsAuthentication e)
    (fault : ValidationError) : e ≠ .validation fault := by
  obtain ⟨_, _, _, rfl⟩ := h
  nofun

theorem isAuthentication_asAuthentication (e : Error) : IsAuthentication (asAuthentication e) := by
  cases e <;> exact ⟨_, _, _, rfl⟩

theorem authenticate_error {credential : Credential} {e : Error}
    (h : (c.authenticate credential).runFrom s = (.error e, t)) : IsAuthentication e := by
  unfold authenticate at h
  split at h
  · cases h
  · cases h; exact ⟨_, _, _, rfl⟩
  · rw [runFrom_bind, Action.runFrom_result] at h
    simp only at h
    split at h
    · cases h
    · cases h; exact isAuthentication_asAuthentication _

theorem renew_error {e : Error} (h : c.renew.runFrom s = (.error e, t)) : IsAuthentication e := by
  rw [renew, bind_runFrom] at h
  rcases h with ⟨token, u, -, h⟩ | ⟨e', h, he⟩
  · cases h
  · cases he; exact authenticate_error h

theorem TokenRun.error {e : Error} (h : TokenRun c usable refusal s (.error e) t)
    (hrefusal : IsAuthentication refusal) : IsAuthentication e := by
  cases h with
  | closed => exact ⟨_, _, _, rfl⟩
  | refused => exact hrefusal
  | login _ _ _ h => exact renew_error h

theorem getToken_error {e : Error} (h : c.getToken.runFrom s = (.error e, t)) :
    IsAuthentication e := (getToken_cases h).error ⟨_, _, _, rfl⟩

theorem refreshAfterRejection_error {stale : SessionToken} {e : Error}
    (h : (c.refreshAfterRejection stale).runFrom s = (.error e, t)) : IsAuthentication e :=
  (refreshAfterRejection_cases h).error ⟨_, _, _, rfl⟩

end RemoteNotes.Client
