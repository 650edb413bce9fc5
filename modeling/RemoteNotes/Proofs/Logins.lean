import RemoteNotes.Proofs.Headers
import RemoteNotes.Proofs.LoginAttempts

/-!
# Logins

The attempts of a login that may pass are followed by others as long as there are any left, and
the last one decides (`authenticate_course`). So a login that brings a token is on record: it
sends requests of one kind, and the last reply granted that token (`authenticate_trace`).
-/

namespace RemoteNotes

/-- All of a reply to a login came, and it grants a token. -/
structure Exchange.Grants (x : Exchange) (token : SessionToken) : Prop where
  purpose : x.purpose = .login
  granted : ∃ reply grant now, x.reply.whole? = some reply ∧ reply.isSuccess = true ∧
    Session.Grant.parse (Text.Utf8.toStringLossy reply.body) = .ok grant ∧
    grant.toToken (Session.cookie? (reply.headerValues "set-cookie")) now = .ok token

namespace Client

open RemoteNotes.Action (runFrom runFrom_bind)

variable {c : Client} {body : Json} {s t : ClientState}

-- ---------------------------------------------------------------------------
-- The attempts of a login
-- ---------------------------------------------------------------------------

/-- The attempts of a login with some limit. Those that may pass are followed by others as far
as the limit allows, and the last one decides. -/
structure LoginCourse (c : Client) (body : Json) (limit : Nat) (s : ClientState)
    (attempts : List LoginAttempt) (r : Except Error SessionToken) (t : ClientState) : Prop where
  message : ∀ a ∈ attempts, a.map (·.request) = c.loginRequest? body
  purpose : ∀ a ∈ attempts, ∀ x ∈ a, x.purpose = .login
  recorded : t.exchanges = s.exchanges ++ attempts.flatMap Option.toList
  few : attempts.length ≤ limit
  front : ∀ a ∈ attempts.dropLast, a.mayPass = true
  last : ∃ a ∈ attempts.getLast?, (a.mayPass = true → attempts.length = limit) ∧
    (∀ token, r = .ok token ↔
      ∃ reply ∈ a.whole?, reply.session? (c.world.clock s.readings) = some token) ∧
    ∀ e, r = .error e → e.status? = a.refusal?

theorem LoginStep.course {a : LoginAttempt} {r : Except Error SessionToken} {limit : Nat}
    (h : LoginStep c body s a r t) (hlimit : 1 ≤ limit) (hlast : a.mayPass = true → limit = 1) :
    LoginCourse c body limit s [a] r t where
  message := List.forall_mem_singleton.mpr h.message
  purpose := List.forall_mem_singleton.mpr h.purpose
  recorded := by rw [h.recorded, List.flatMap_singleton]
  few := hlimit
  front := List.forall_mem_nil _
  last := ⟨a, rfl, fun hpass => (hlast hpass).symm, h.ends.granted, h.ends.status⟩

theorem LoginCourse.after {a : LoginAttempt} {attempts : List LoginAttempt} {e : Error}
    {u : ClientState} {r : Except Error SessionToken} {limit : Nat}
    (h : LoginStep c body s a (.error e) t) (hpass : a.mayPass = true)
    (k : LoginCourse c body limit t attempts r u) :
    LoginCourse c body (limit + 1) s (a :: attempts) r u := by
  obtain ⟨b, hb, hlimit, hgranted, hstatus⟩ := k.last
  have hne : attempts ≠ [] := by
    rintro rfl
    cases hb
  exact {
    message := List.forall_mem_cons.mpr ⟨h.message, k.message⟩
    purpose := List.forall_mem_cons.mpr ⟨h.purpose, k.purpose⟩
    recorded := by rw [k.recorded, h.recorded, List.flatMap_cons, List.append_assoc]
    few := Nat.succ_le_succ k.few
    front := by
      rw [List.dropLast_cons_of_ne_nil hne]
      exact List.forall_mem_cons.mpr ⟨hpass, k.front⟩
    last := by
      -- nothing was granted before, so that the clock shows the same time
      rw [h.readings hpass] at hgranted
      have hlast : b ∈ ([a] ++ attempts).getLast? := List.mem_getLast?_append_of_mem_getLast? hb
      exact ⟨b, hlast, fun hb => congrArg Nat.succ (hlimit hb), hgranted, hstatus⟩ }

theorem Tries.loginCourse {left : Nat} {tries : List (Try SessionToken)}
    {r : Except Error (SessionToken × Nat)} (h : Tries (c.loginOnce body) left s tries r t) :
    ∃ attempts, LoginCourse c body (left + 1) s attempts (r.map (·.1)) t := by
  induction h with
  | done hrun =>
    obtain ⟨a, hstep⟩ := loginOnce_step hrun
    refine ⟨[a], hstep.course (Nat.succ_pos _) fun hpass => ?_⟩
    cases hpass.symm.trans hstep.ends.mayPass_eq_false
  | failed hrun hleft =>
    obtain ⟨a, hstep⟩ := loginOnce_step hrun
    refine ⟨[a], hstep.course (Nat.succ_pos _) fun hpass => ?_⟩
    rw [hleft ((hstep.ends.transient _ rfl).trans hpass)]
  | again hrun htransient _ ih =>
    obtain ⟨a, hstep⟩ := loginOnce_step hrun
    obtain ⟨attempts, hcourse⟩ := ih
    have hpass := (hstep.ends.transient _ rfl).symm.trans htransient
    exact ⟨a :: attempts, hcourse.after hstep hpass⟩

theorem status?_asAuthentication (e : Error) : (asAuthentication e).status? = e.status? := by
  cases e <;> rfl

theorem authenticate_runFrom {credential : Credential} (hbody : credential.loginBody? = some body)
    (s : ClientState) : (c.authenticate credential).runFrom s =
      ((((c.loginOnce body).retrying c.retries).runFrom s).1.map (·.1) |>.mapError asAuthentication,
        (((c.loginOnce body).retrying c.retries).runFrom s).2) := by
  unfold authenticate
  split
  · cases hbody
  · next h => cases h.symm.trans hbody
  · next h =>
    cases h.symm.trans hbody
    rw [runFrom_bind, Action.runFrom_result]
    rcases ((c.loginOnce body).retrying c.retries).runFrom s with ⟨e | ⟨token, left⟩, t⟩ <;> rfl

theorem LoginCourse.asAuthentication {limit : Nat} {attempts : List LoginAttempt}
    {r : Except Error SessionToken} (h : LoginCourse c body limit s attempts r t) :
    LoginCourse c body limit s attempts (r.mapError asAuthentication) t := by
  refine { h with last := ?_ }
  obtain ⟨a, ha, hlimit, hgranted, hstatus⟩ := h.last
  refine ⟨a, ha, hlimit, fun token => ?_, fun e he => ?_⟩
  · rw [← hgranted token]
    exact mapError_eq_ok
  · cases r with
    | ok token => cases he
    | error e' =>
      cases he
      rw [status?_asAuthentication]
      exact hstatus e' rfl

theorem loginBody?_of_isRenewable {credential : Credential} (h : credential.isRenewable = true) :
    ∃ body, credential.loginBody? = some body := by
  cases credential with
  | token => cases h
  | password => exact ⟨_, rfl⟩
  | sso => exact ⟨_, rfl⟩

theorem authenticate_attempts {credential : Credential} (hc : credential.isRenewable = true)
    (s : ClientState) : ∃ body attempts, credential.loginBody? = some body ∧
      LoginCourse c body (c.retries + 1) s attempts
        ((c.authenticate credential).runFrom s).1 ((c.authenticate credential).runFrom s).2 := by
  obtain ⟨body, hbody⟩ := loginBody?_of_isRenewable hc
  obtain ⟨tries, htries⟩ := retrying_tries (c.loginOnce body) c.retries s
  obtain ⟨attempts, hcourse⟩ := htries.loginCourse
  refine ⟨body, attempts, hbody, ?_⟩
  rw [authenticate_runFrom hbody]
  exact hcourse.asAuthentication

/-- A login with a credential that can be renewed makes as many attempts as it needs, and no more
than the policy says. A session that is granted ends it well. Every error of it is final, and
tells the status of the last reply if that was a refusal. -/
theorem authenticate_course (c : Client) (credential : Credential) (s : ClientState)
    (hc : credential.isRenewable = true) (hlimit : 1 ≤ c.config.policy.retry.maxAttempts) :
    ∃ body attempts, credential.loginBody? = some body ∧
      LoginCourse c body c.config.policy.retry.maxAttempts s attempts
        ((c.authenticate credential).runFrom s).1 ((c.authenticate credential).runFrom s).2 ∧
      ∀ e, ((c.authenticate credential).runFrom s).1 = .error e →
        IsAuthentication e ∧ e.isTransient = false := by
  obtain ⟨body, attempts, hbody, hcourse⟩ := authenticate_attempts (c := c) hc s
  have hretries : c.retries + 1 = c.config.policy.retry.maxAttempts := Nat.sub_add_cancel hlimit
  rw [hretries] at hcourse
  refine ⟨body, attempts, hbody, hcourse, fun e he => ?_⟩
  have herror := authenticate_error (Prod.ext he rfl)
  exact ⟨herror, herror.not_transient⟩

/-- A server that fails twice and then grants a session. -/
def recovering (past : List Http.Request) (_ : Http.Request) : Http.Reply :=
  if past.length < 2 then .answered ⟨503, [], [], .complete⟩
  else .answered ⟨200, [], Text.Utf8.ofString
    (Json.ofFields [("accessToken", .text "new")]).write, .complete⟩

/-- Such a server is asked three times, which is as often as it may be. -/
theorem course_of_recovering :
    let c := facing (.password "ada" "pw") recovering
    let run := (c.authenticate (.password "ada" "pw")).runFrom c.start
    ∃ body attempts, (Credential.password "ada" "pw").loginBody? = some body ∧
      LoginCourse c body 3 c.start attempts run.1 run.2 ∧
      (attempts.flatMap Option.toList).length = 3 := by
  intro c run
  have hrun : (c.authenticate (.password "ada" "pw")).runFrom c.start = run := rfl
  have hsent : run.2.exchanges.length = 3 := by decide +kernel
  obtain ⟨body, attempts, hbody, hcourse, -⟩ :=
    authenticate_course c (.password "ada" "pw") c.start rfl (by decide)
  rw [hrun] at hcourse
  rw [hcourse.recorded] at hsent
  exact ⟨body, attempts, hbody, hcourse, hsent⟩

-- ---------------------------------------------------------------------------
-- What a login sends
-- ---------------------------------------------------------------------------

structure IsLogin (c : Client) (x : Exchange) : Prop where
  purpose : x.purpose = .login
  message : ∃ body, c.build? .post c.config.sessionsUrl [] none (some (.json body)) =
    some x.request

theorem IsLogin.authorizations {x : Exchange} (h : IsLogin c x) (hc : c.config.IsAccepted) :
    x.request.authorizations = [] := by
  obtain ⟨body, hmessage⟩ := h.message
  exact authorizations_build? hc hmessage

/-- What was sent for a login, and what it has to do with the result. -/
structure LoginTrace (c : Client) (s : ClientState) (sent : List Exchange)
    (r : Except Error SessionToken) (t : ClientState) : Prop where
  recorded : t.exchanges = s.exchanges ++ sent
  isLogin : ∀ x ∈ sent, IsLogin c x
  grants : ∀ token, r = .ok token → ∃ x ∈ sent.getLast?, x.Grants token

theorem grants_of_session {x : Exchange} {reply : Http.Response} {now : Time.Instant}
    {token : SessionToken} (hpurpose : x.purpose = .login) (hreply : x.reply.whole? = some reply)
    (htoken : reply.session? now = some token) : x.Grants token := by
  unfold Http.Response.session? at htoken
  split at htoken
  · next hsuccess =>
    obtain ⟨grant, hgrant, htoken⟩ := Option.bind_eq_some_iff.mp htoken
    exact ⟨hpurpose, reply, grant, now, hreply, hsuccess, toOption_eq_some.mp hgrant,
      toOption_eq_some.mp htoken⟩
  · cases htoken

theorem LoginCourse.trace {limit : Nat} {attempts : List LoginAttempt}
    {r : Except Error SessionToken} (h : LoginCourse c body limit s attempts r t) :
    LoginTrace c s (attempts.flatMap Option.toList) r t where
  recorded := h.recorded
  isLogin x hx := by
    obtain ⟨a, ha, hxa⟩ := List.mem_flatMap.mp hx
    obtain rfl := Option.mem_toList.mp hxa
    exact ⟨h.purpose _ ha x rfl, body, (h.message _ ha).symm⟩
  grants token htoken := by
    obtain ⟨a, ha, -, hgranted, -⟩ := h.last
    obtain ⟨reply, hreply, hsession⟩ := (hgranted token).mp htoken
    obtain ⟨x, rfl, hwhole⟩ := Option.bind_eq_some_iff.mp hreply
    obtain ⟨front, rfl⟩ := List.getLast?_eq_some_iff.mp ha
    have hx := h.purpose (some x) (List.mem_append_right front (List.mem_singleton_self _)) x rfl
    exact ⟨x, by simp, grants_of_session hx hwhole hsession⟩

theorem authenticate_trace {credential : Credential} (hc : credential.isRenewable = true)
    {r : Except Error SessionToken} (h : (c.authenticate credential).runFrom s = (r, t)) :
    ∃ sent, LoginTrace c s sent r t := by
  obtain ⟨body, attempts, -, hcourse⟩ := authenticate_attempts (c := c) hc s
  rw [h] at hcourse
  exact ⟨_, hcourse.trace⟩

theorem renew_trace (hc : c.config.credential.isRenewable = true) {r : Except Error SessionToken}
    (h : c.renew.runFrom s = (r, t)) : ∃ sent, LoginTrace c s sent r t := by
  rw [renew, runFrom_bind] at h
  rcases hrun : (c.authenticate c.config.credential).runFrom s with ⟨e | token, u⟩ <;>
    rw [hrun] at h <;> cases h
  · exact authenticate_trace hc hrun
  · obtain ⟨sent, htrace⟩ := authenticate_trace hc hrun
    exact ⟨sent, htrace.recorded, htrace.isLogin, htrace.grants⟩

end Client

end RemoteNotes
