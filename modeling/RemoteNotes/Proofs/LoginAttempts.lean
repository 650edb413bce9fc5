import RemoteNotes.Proofs.Calls
import RemoteNotes.Proofs.Results
import RemoteNotes.Proofs.Store

/-!
# Attempts to log in

What an attempt of a login comes to is decided by its reply alone (`loginOnce_step`). A reply that
does not come whole, or tells of a failure of the server, is worth another attempt. Every other
one is final: it grants a session, or the error has its status.
-/

namespace RemoteNotes

/-- What was sent for an attempt to log in, if there was something that could be sent. -/
abbrev LoginAttempt := Option Exchange

namespace LoginAttempt

/-- The reply, if all of it arrived. -/
def whole? (a : LoginAttempt) : Option Http.Response := a.bind (·.reply.whole?)

/-- The attempt failed for the time being: another one may do better. -/
def mayPass (a : LoginAttempt) : Bool := a.whole?.all (·.isServerError)

/-- The status of a reply that refuses to log in. -/
def refusal? (a : LoginAttempt) : Option Nat :=
  a.whole?.bind fun reply => if reply.isSuccess then none else some reply.status

theorem mayPass_of_broken {a : LoginAttempt} (h : a.whole? = none) : a.mayPass = true := by
  rw [mayPass, h]
  rfl

theorem mayPass_of_whole {a : LoginAttempt} {reply : Http.Response} (h : a.whole? = some reply) :
    a.mayPass = reply.isServerError := by
  rw [mayPass, h]
  rfl

end LoginAttempt

/-- The token that a reply to a login grants at some time, if it grants one. -/
def Http.Response.session? (reply : Http.Response) (now : Time.Instant) : Option SessionToken :=
  if reply.isSuccess then
    (Session.Grant.parse (Text.Utf8.toStringLossy reply.body)).toOption.bind fun grant =>
      (grant.toToken (Session.cookie? (reply.headerValues "set-cookie")) now).toOption
  else none

namespace Session

/-- The error of a login that the status of a reply has no part in. -/
def IsLoginFailure (e : Error) : Prop := ∃ message, e = loginFailure message

theorem Grant.parse_error {body : String} {e : Error} (h : Grant.parse body = .error e) :
    IsLoginFailure e := by
  unfold Grant.parse at h
  split at h
  · cases h
  · cases hread : Grant.form.read body with
    | error fault =>
      rw [hread] at h
      cases h
      exact ⟨_, rfl⟩
    | ok grant =>
      rw [hread] at h
      cases h

theorem Grant.secret_error {g : Grant} {cookie : Option String} {e : Error}
    (h : g.secret cookie = .error e) : IsLoginFailure e := by
  unfold Grant.secret at h
  split at h
  · cases h
  · cases h
    exact ⟨_, rfl⟩

theorem Grant.expiry_error {g : Grant} {e : Error} (h : g.expiry = .error e) :
    IsLoginFailure e := by
  unfold Grant.expiry at h
  split at h
  · cases h
  · split at h
    · cases h
    · cases h
      exact ⟨_, rfl⟩

theorem Grant.toToken_error {g : Grant} {cookie : Option String} {now : Time.Instant} {e : Error}
    (h : g.toToken cookie now = .error e) : IsLoginFailure e := by
  unfold Grant.toToken at h
  cases hsecret : g.secret cookie with
  | error e' =>
    rw [hsecret] at h
    cases h
    exact secret_error hsecret
  | ok secret =>
    cases hexpiry : g.expiry with
    | error e' =>
      rw [hsecret, hexpiry] at h
      cases h
      exact expiry_error hexpiry
    | ok expiry =>
      rw [hsecret, hexpiry] at h
      cases h

end Session

namespace Client

open RemoteNotes.Action (runFrom runFrom_bind throw_bind)

variable {c : Client} {body : Json} {s t : ClientState}

def loginRequest? (c : Client) (body : Json) : Option Http.Request :=
  c.build? .post c.config.sessionsUrl [] none (some (.json body))

-- ---------------------------------------------------------------------------
-- One attempt
-- ---------------------------------------------------------------------------

/-- What an attempt that began at some time comes to. -/
structure AttemptEnds (now : Time.Instant) (a : LoginAttempt) (r : Except Error SessionToken) :
    Prop where
  granted : ∀ token, r = .ok token ↔ ∃ reply ∈ a.whole?, reply.session? now = some token
  transient : ∀ e, r = .error e → e.isTransient = a.mayPass
  status : ∀ e, r = .error e → e.status? = a.refusal?

theorem isServerError_of_isSuccess {r : Http.Response} (h : r.isSuccess = true) :
    r.isServerError = false := by
  simp only [Http.Response.isSuccess, Http.Response.isServerError, Bool.and_eq_true,
    decide_eq_true_eq, Bool.and_eq_false_iff, decide_eq_false_iff_not] at h ⊢
  omega

theorem AttemptEnds.of_broken {now : Time.Instant} {a : LoginAttempt} {e : Error}
    (ha : a.whole? = none) (htransient : e.isTransient = true) (hstatus : e.status? = none) :
    AttemptEnds now a (.error e) where
  granted := by simp [ha]
  transient := by
    rintro _ ⟨⟩
    rw [htransient, LoginAttempt.mayPass_of_broken ha]
  status := by
    rintro _ ⟨⟩
    rw [hstatus, LoginAttempt.refusal?, ha]
    rfl

theorem AttemptEnds.of_refused {now : Time.Instant} {a : LoginAttempt} {reply : Http.Response}
    {e : Error} (ha : a.whole? = some reply) (hsuccess : reply.isSuccess = false)
    (htransient : e.isTransient = reply.isServerError) (hstatus : e.status? = some reply.status) :
    AttemptEnds now a (.error e) where
  granted := by simp [ha, Http.Response.session?, hsuccess]
  transient := by
    rintro _ ⟨⟩
    rw [htransient, LoginAttempt.mayPass_of_whole ha]
  status := by
    rintro _ ⟨⟩
    rw [hstatus, LoginAttempt.refusal?, ha]
    simp [hsuccess]

theorem AttemptEnds.of_success {now : Time.Instant} {a : LoginAttempt} {reply : Http.Response}
    {r : Except Error SessionToken} (ha : a.whole? = some reply)
    (hsuccess : reply.isSuccess = true) (hr : reply.session? now = r.toOption)
    (herror : ∀ e, r = .error e → Session.IsLoginFailure e) : AttemptEnds now a r where
  granted token := by
    simp only [ha, Option.mem_def, Option.some.injEq, exists_eq_left', hr]
    exact toOption_eq_some.symm
  transient e he := by
    obtain ⟨message, rfl⟩ := herror e he
    rw [LoginAttempt.mayPass_of_whole ha, isServerError_of_isSuccess hsuccess]
    rfl
  status e he := by
    obtain ⟨message, rfl⟩ := herror e he
    rw [LoginAttempt.refusal?, ha]
    simp [hsuccess, Session.loginFailure, Error.unauthenticated, Error.status?]

theorem AttemptEnds.mayPass_eq_false {now : Time.Instant} {a : LoginAttempt}
    {token : SessionToken} (h : AttemptEnds now a (.ok token)) : a.mayPass = false := by
  obtain ⟨reply, hreply, htoken⟩ := (h.granted token).mp rfl
  rw [LoginAttempt.mayPass_of_whole hreply]
  unfold Http.Response.session? at htoken
  split at htoken
  · exact isServerError_of_isSuccess ‹_›
  · cases htoken

/-- A reply that came whole is judged by its status, and if that is well by what it grants. -/
theorem grantedToken_ends {a : LoginAttempt} {reply : Http.Response}
    (ha : a.whole? = some reply) {r : Except Error SessionToken}
    (h : (c.grantedToken reply (Text.Utf8.toStringLossy reply.body)).runFrom s = (r, t)) :
    AttemptEnds (c.world.clock s.readings) a r ∧ t.exchanges = s.exchanges ∧
      (a.mayPass = true → t.readings = s.readings) := by
  simp only [grantedToken, throw_bind] at h
  cases hserver : reply.isServerError with
  | true =>
    simp only [hserver, ↓reduceIte, Action.runFrom_throw, Prod.mk.injEq] at h
    obtain ⟨rfl, rfl⟩ := h
    have hsuccess : reply.isSuccess = false := by
      cases hsuccess : reply.isSuccess with
      | false => rfl
      | true => cases hserver.symm.trans (isServerError_of_isSuccess hsuccess)
    have hstatus : Error.firstServerStatus ≤ reply.status := by
      simp only [Http.Response.isServerError, Bool.and_eq_true, decide_eq_true_eq] at hserver
      exact hserver.1
    refine ⟨.of_refused ha hsuccess ?_ rfl, rfl, fun _ => rfl⟩
    rw [hserver]
    exact decide_eq_true hstatus
  | false =>
    have hfinal : a.mayPass = false := (LoginAttempt.mayPass_of_whole ha).trans hserver
    have hunread : a.mayPass = true → t.readings = s.readings :=
      fun hpass => by cases hfinal.symm.trans hpass
    cases hsuccess : reply.isSuccess with
    | false =>
      simp only [hserver, hsuccess, Bool.false_eq_true, Bool.not_false, ↓reduceIte,
        Action.runFrom_throw, Prod.mk.injEq] at h
      obtain ⟨rfl, rfl⟩ := h
      exact ⟨.of_refused ha hsuccess hserver.symm rfl, rfl, hunread⟩
    | true =>
      simp only [hserver, hsuccess, Bool.false_eq_true, Bool.not_true, ↓reduceIte, runFrom_bind,
        Action.runFrom_ofExcept] at h
      cases hgrant : Session.Grant.parse (Text.Utf8.toStringLossy reply.body) with
      | error e =>
        rw [hgrant] at h
        cases h
        refine ⟨.of_success ha hsuccess ?_ ?_, rfl, hunread⟩
        · simp [Http.Response.session?, hsuccess, hgrant, Except.toOption]
        · rintro _ ⟨⟩
          exact Session.Grant.parse_error hgrant
      | ok grant =>
        simp only [hgrant, now_runFrom, Prod.mk.injEq] at h
        obtain ⟨rfl, rfl⟩ := h
        refine ⟨.of_success ha hsuccess ?_ fun e he => Session.Grant.toToken_error he, rfl, hunread⟩
        simp [Http.Response.session?, hsuccess, hgrant, Except.toOption]

theorem loginOnce_received {message : Http.Request} {reply : Http.Response}
    (hmessage : c.loginRequest? body = some message)
    (hreply : (c.replyTo s message).whole? = some reply) :
    (c.loginOnce body).runFrom s =
      (c.grantedToken reply (Text.Utf8.toStringLossy reply.body)).runFrom
        (s.record ⟨.login, message, c.replyTo s message, s.token⟩) := by
  obtain ⟨hresponse, hbody⟩ := received_whole c loginSubject message hreply
  unfold loginOnce
  simp only
  rw [← loginRequest?, hmessage, runFrom_bind, exchange_runFrom, hresponse]
  simp only [runFrom_bind, Action.runFrom_ofExcept, hbody]

/-- What an attempt from some state sends, and what it comes to. -/
structure LoginStep (c : Client) (body : Json) (s : ClientState) (a : LoginAttempt)
    (r : Except Error SessionToken) (t : ClientState) : Prop where
  message : a.map (·.request) = c.loginRequest? body
  purpose : ∀ x ∈ a, x.purpose = .login
  recorded : t.exchanges = s.exchanges ++ a.toList
  ends : AttemptEnds (c.world.clock s.readings) a r
  /-- The clock is read for a token that is granted, and for nothing else. -/
  readings : a.mayPass = true → t.readings = s.readings

theorem loginOnce_step {r : Except Error SessionToken}
    (h : (c.loginOnce body).runFrom s = (r, t)) : ∃ a, LoginStep c body s a r t := by
  cases hmessage : c.loginRequest? body with
  | none =>
    unfold loginOnce at h
    simp only at h
    rw [← loginRequest?, hmessage] at h
    cases h
    exact ⟨none, ⟨hmessage.symm, by simp, by simp, .of_broken rfl rfl rfl, fun _ => rfl⟩⟩
  | some message =>
    let x : Exchange := ⟨.login, message, c.replyTo s message, s.token⟩
    have hx : ∀ y ∈ some x, y.purpose = .login := by simp [x]
    cases hwhole : (c.replyTo s message).whole? with
    | none =>
      unfold loginOnce at h
      simp only at h
      rw [← loginRequest?, hmessage, runFrom_bind, exchange_runFrom] at h
      obtain ⟨e, htransient, hstatus, hreply⟩ := received_broken c loginSubject message hwhole
      have hstep : LoginStep c body s (some x) (.error e) (s.record x) :=
        ⟨hmessage.symm, hx, rfl, .of_broken hwhole htransient hstatus, fun _ => rfl⟩
      rcases hreply with hreply | ⟨reply, hreply, hbody⟩
      · rw [hreply] at h
        cases h
        exact ⟨_, hstep⟩
      · simp only [hreply, runFrom_bind, Action.runFrom_ofExcept, hbody] at h
        cases h
        exact ⟨_, hstep⟩
    | some reply =>
      rw [loginOnce_received hmessage hwhole] at h
      have hx' : LoginAttempt.whole? (some x) = some reply := hwhole
      obtain ⟨hends, hrecorded, hreadings⟩ := grantedToken_ends hx' h
      exact ⟨some x, hmessage.symm, hx, hrecorded, hends, hreadings⟩

end Client

end RemoteNotes
