import RemoteNotes.Proofs.LoginAttempts
import RemoteNotes.Proofs.Trimming

/-!
# Granted sessions

What a whole reply of success to a login comes to. Its secret stands in the body, and else in a
cookie. The end of the session stands in the body too, or in the secret, and else is two weeks
away. The reply grants a session just if there is a secret and nothing that is said is malformed
(`session_granted_iff`).
-/

namespace RemoteNotes

open Time (Instant)

namespace Session

/-- A text that is there and not blank comes to this, without the blanks around it. -/
def Given (raw? : Option String) (s : String) : Prop :=
  ∃ raw, raw? = some raw ∧ s = Text.trimmed raw ∧ s ≠ ""

/-- What the body of a reply says. A blank one says nothing. -/
inductive Says (body : String) : Grant → Prop
  | nothing : Text.trimmed body = "" → Says body {}
  | document {g : Grant} : Text.trimmed body ≠ "" → Grant.form.read body = .ok g → Says body g

namespace Grant

variable {g : Grant} {cookie : Option String} {now : Instant} {secret : String}

/-- The secret of the body comes before the one of the cookie. -/
inductive Gives (g : Grant) (cookie : Option String) : String → Prop
  | own {secret : String} : Given g.accessToken secret → g.Gives cookie secret
  | fromCookie {secret : String} : (∀ own, ¬Given g.accessToken own) → cookie = some secret →
    g.Gives cookie secret

/-- When a session ends: when the body says so, else when its secret says so, else 14 days from
now. -/
inductive EndsAt (g : Grant) (secret : String) (now : Instant) : Instant → Prop
  | told {raw : String} {t : Instant} : Given g.expiresAt raw → Time.Rfc3339.parse raw = .ok t →
    g.EndsAt secret now t
  | claimed {t : Instant} : (∀ raw, ¬Given g.expiresAt raw) →
    SessionToken.claimedExpiry? secret = some t → g.EndsAt secret now t
  | usual : (∀ raw, ¬Given g.expiresAt raw) → SessionToken.claimedExpiry? secret = none →
    g.EndsAt secret now (now.addDays 14)

/-- There is a secret, and an end that is told is an instant. -/
structure IsSufficient (g : Grant) (cookie : Option String) : Prop where
  secret : (∃ own, Given g.accessToken own) ∨ ∃ value, cookie = some value
  expiry : ∀ raw, Given g.expiresAt raw → ∃ t, Time.Rfc3339.parse raw = .ok t

structure Makes (g : Grant) (cookie : Option String) (now : Instant) (token : SessionToken) :
    Prop where
  secret : g.Gives cookie token.secret
  expiry : ∃ t, token.expiresAt = some t ∧ g.EndsAt token.secret now t

theorem given_iff {raw? : Option String} {s : String} :
    Given raw? s ↔ raw?.bind Text.nonBlank? = some s := Text.bind_nonBlank?_eq_some.symm

theorem not_given_iff {raw? : Option String} :
    (∀ s, ¬Given raw? s) ↔ raw?.bind Text.nonBlank? = none := by
  simp [given_iff, Option.eq_none_iff_forall_ne_some]

theorem parse_eq_ok {body : String} : Grant.parse body = .ok g ↔ Says body g := by
  unfold Grant.parse
  constructor
  · intro h
    split at h
    · next hblank =>
      cases h
      exact .nothing (Text.trimmed_eq_empty_iff.mpr hblank)
    · next hblank =>
      exact .document (fun hempty => hblank (Text.trimmed_eq_empty_iff.mp hempty)) (mapError_eq_ok.mp h)
  · rintro (hblank | ⟨hblank, hread⟩)
    · rw [if_pos (Text.trimmed_eq_empty_iff.mp hblank)]
    · rw [if_neg fun hall => hblank (Text.trimmed_eq_empty_iff.mpr hall), hread]
      rfl

theorem secret_eq_ok : g.secret cookie = .ok secret ↔ g.Gives cookie secret := by
  unfold Grant.secret
  constructor
  · intro h
    cases hown : g.accessToken.bind Text.nonBlank? with
    | some own =>
      simp only [hown, Option.some_or, Except.ok.injEq] at h
      exact .own (given_iff.mpr (h ▸ hown))
    | none =>
      cases cookie with
      | none => simp [hown] at h
      | some value =>
        simp only [hown, Option.none_or, Except.ok.injEq] at h
        exact .fromCookie (not_given_iff.mpr hown) (congrArg some h)
  · rintro (hown | ⟨hnone, rfl⟩)
    · simp [given_iff.mp hown]
    · simp [not_given_iff.mp hnone]

-- ---------------------------------------------------------------------------
-- Ends
-- ---------------------------------------------------------------------------

theorem expiry_untold (h : ∀ raw, ¬Given g.expiresAt raw) : g.expiry = .ok none := by
  simp [Grant.expiry, not_given_iff.mp h]

theorem expiry_told {raw : String} (h : Given g.expiresAt raw) {t? : Option Instant} :
    g.expiry = .ok t? ↔ ∃ t, Time.Rfc3339.parse raw = .ok t ∧ t? = some t := by
  cases hparse : Time.Rfc3339.parse raw <;>
    simp [Grant.expiry, given_iff.mp h, hparse, eq_comm]

theorem endsAt_untold (h : ∀ raw, ¬Given g.expiresAt raw) {t : Instant} :
    g.EndsAt secret now t ↔
      (SessionToken.claimedExpiry? secret).getD (now.addDays defaultDays) = t := by
  constructor
  · rintro (⟨hraw, -⟩ | ⟨-, hclaim⟩ | ⟨-, hclaim⟩)
    · exact absurd hraw (h _)
    · simp [hclaim]
    · simp [hclaim, defaultDays]
  · rintro rfl
    cases hclaim : SessionToken.claimedExpiry? secret with
    | some t => exact .claimed h hclaim
    | none => exact .usual h hclaim

theorem endsAt_told {raw : String} (h : Given g.expiresAt raw) {t : Instant} :
    g.EndsAt secret now t ↔ Time.Rfc3339.parse raw = .ok t := by
  constructor
  · rintro (⟨hraw, hparse⟩ | ⟨hnone, -⟩ | ⟨hnone, -⟩)
    · cases Option.some.inj ((given_iff.mp hraw).symm.trans (given_iff.mp h))
      exact hparse
    · exact absurd h (hnone raw)
    · exact absurd h (hnone raw)
  · exact .told h

/-- A token has an end in every case. -/
theorem toToken_eq_ok {token : SessionToken} :
    g.toToken cookie now = .ok token ↔ g.Makes cookie now token := by
  obtain ⟨value, ends⟩ := token
  have hmakes : g.Makes cookie now ⟨value, ends⟩ ↔
      g.Gives cookie value ∧ ∃ t, ends = some t ∧ g.EndsAt value now t :=
    ⟨fun h => ⟨h.secret, h.expiry⟩, fun h => ⟨h.1, h.2⟩⟩
  simp only [hmakes, toToken, bind_eq_ok, pure_eq_ok, secret_eq_ok, SessionToken.mk.injEq]
  -- An end that is told may be malformed. Without one, the other two sources always give one.
  by_cases htold : ∃ raw, Given g.expiresAt raw
  · obtain ⟨raw, hraw⟩ := htold
    simp only [expiry_told hraw, endsAt_told hraw]
    constructor
    · rintro ⟨_, hsecret, _, ⟨t, hparse, rfl⟩, rfl, rfl⟩
      exact ⟨hsecret, t, rfl, hparse⟩
    · rintro ⟨hsecret, t, rfl, hparse⟩
      exact ⟨value, hsecret, some t, ⟨t, hparse, rfl⟩, rfl, rfl⟩
  · have hnone : ∀ raw, ¬Given g.expiresAt raw := fun raw hraw => htold ⟨raw, hraw⟩
    simp only [expiry_untold hnone, endsAt_untold hnone]
    constructor
    · rintro ⟨_, hsecret, _, ⟨⟩, rfl, rfl⟩
      exact ⟨hsecret, _, rfl, rfl⟩
    · rintro ⟨hsecret, _, rfl, rfl⟩
      exact ⟨value, hsecret, none, rfl, rfl, rfl⟩

theorem exists_makes_iff : (∃ token, g.Makes cookie now token) ↔ g.IsSufficient cookie := by
  constructor
  · rintro ⟨token, hsecret, t, -, hend⟩
    refine ⟨?_, fun raw hraw => ⟨t, (endsAt_told hraw).mp hend⟩⟩
    cases hsecret with
    | own hown => exact .inl ⟨_, hown⟩
    | fromCookie _ hcookie => exact .inr ⟨_, hcookie⟩
  · rintro ⟨hsecret, hexpiry⟩
    have hgives : ∃ secret, g.Gives cookie secret := by
      by_cases hown : ∃ own, Given g.accessToken own
      · obtain ⟨own, hown⟩ := hown
        exact ⟨own, .own hown⟩
      · obtain ⟨value, hvalue⟩ := hsecret.resolve_left hown
        exact ⟨value, .fromCookie (fun own h => hown ⟨own, h⟩) hvalue⟩
    obtain ⟨secret, hsecret⟩ := hgives
    have hends : ∃ t, g.EndsAt secret now t := by
      by_cases htold : ∃ raw, Given g.expiresAt raw
      · obtain ⟨raw, hraw⟩ := htold
        obtain ⟨t, hparse⟩ := hexpiry raw hraw
        exact ⟨t, .told hraw hparse⟩
      · exact ⟨_, (endsAt_untold fun raw hraw => htold ⟨raw, hraw⟩).mpr rfl⟩
    obtain ⟨t, hend⟩ := hends
    exact ⟨⟨secret, some t⟩, hsecret, t, rfl, hend⟩

end Grant

section

variable {text : String} {cookie : Option String} {now : Instant}

theorem granted_eq_ok {token : SessionToken} :
    (do let grant ← Grant.parse text; grant.toToken cookie now) = .ok token ↔
      ∃ g, Says text g ∧ g.Makes cookie now token := by
  simp only [bind_eq_ok, Grant.parse_eq_ok, Grant.toToken_eq_ok]

theorem granted_error {e : Error}
    (h : (do let grant ← Grant.parse text; grant.toToken cookie now) = .error e) :
    IsLoginFailure e := by
  cases hparse : Grant.parse text with
  | error e' =>
    rw [hparse] at h
    cases h
    exact Grant.parse_error hparse
  | ok grant =>
    rw [hparse] at h
    exact Grant.toToken_error h

end

theorem cookie?_ne_empty {values : List Text.Utf8.Octets} {s : String} (h : cookie? values = some s) :
    s ≠ "" := by
  simpa using (Option.filter_eq_some_iff.mp h).2

theorem Grant.Gives.ne_empty {g : Grant} {values : List Text.Utf8.Octets} {secret : String}
    (h : g.Gives (cookie? values) secret) : secret ≠ "" := by
  cases h with
  | own hown =>
    obtain ⟨_, -, -, hne⟩ := hown
    exact hne
  | fromCookie _ hcookie => exact cookie?_ne_empty hcookie

end Session

-- ---------------------------------------------------------------------------
-- Logins
-- ---------------------------------------------------------------------------

namespace Client

open RemoteNotes.Action (runFrom)

variable {c : Client} {s : ClientState} {reply : Http.Response}

theorem grantedToken_success (hsuccess : reply.isSuccess = true) (text : String) :
    ((c.grantedToken reply text).runFrom s).1 = (do
      let grant ← Session.Grant.parse text
      grant.toToken (Session.cookie? (reply.headerValues "set-cookie"))
        (c.world.clock s.readings)) := by
  simp only [grantedToken, isServerError_of_isSuccess hsuccess, hsuccess]
  cases Session.Grant.parse text <;> rfl

/-- A whole reply of success grants a session just if it holds a secret and nothing in it is
malformed. Every other one ends the login for good. -/
theorem session_granted_iff (c : Client) (body : Json) (s : ClientState) {message : Http.Request}
    {reply : Http.Response} (hmessage : c.loginRequest? body = some message)
    (hreply : (c.replyTo s message).whole? = some reply) (hsuccess : reply.isSuccess = true) :
    let text := Text.Utf8.toStringLossy reply.body
    let cookie := Session.cookie? (reply.headerValues "set-cookie")
    let result := ((c.loginOnce body).runFrom s).1
    ((∃ token, result = .ok token) ↔ ∃ g, Session.Says text g ∧ g.IsSufficient cookie) ∧
    (∀ token, result = .ok token → token.secret ≠ "" ∧
      ∃ g, Session.Says text g ∧ g.Makes cookie (c.world.clock s.readings) token) ∧
    ∀ e, result = .error e → IsAuthentication e ∧ e.isTransient = false := by
  intro text cookie result
  have hresult : result = (do
      let grant ← Session.Grant.parse text
      grant.toToken cookie (c.world.clock s.readings)) := by
    simp only [result, loginOnce_received hmessage hreply]
    exact grantedToken_success hsuccess text
  have hok (token : SessionToken) : result = .ok token ↔
      ∃ g, Session.Says text g ∧ g.Makes cookie (c.world.clock s.readings) token := by
    rw [hresult]
    exact Session.granted_eq_ok
  refine ⟨?_, fun token htoken => ?_, fun e he => ?_⟩
  · simp only [hok]
    rw [exists_comm]
    simp only [exists_and_left, Session.Grant.exists_makes_iff]
  · obtain ⟨g, hg, hmakes⟩ := (hok token).mp htoken
    exact ⟨hmakes.secret.ne_empty, g, hg, hmakes⟩
  · rw [hresult] at he
    obtain ⟨reason, rfl⟩ := Session.granted_error he
    exact ⟨⟨_, _, _, rfl⟩, rfl⟩

/-- The token of the body is blank, and its end is told under another name. -/
def cookieReply : Http.Response where
  status := 201
  headers := [("set-cookie", Text.Utf8.ofString "theme=dark; Path=/"),
    ("set-cookie", Text.Utf8.ofString "memos.access-token = abc; Path=/")]
  body := Text.Utf8.ofString (Json.ofFields [("access_token", .text " "),
    ("accessTokenExpiresAt", .text "2030-01-01T00:00:00Z")]).write
  ending := .complete

theorem session_granted_by_cookie :
    let c := facing (.password "ada" "pw") fun _ _ => .answered cookieReply
    ∃ message, c.loginRequest? (.object []) = some message ∧
      (c.replyTo c.start message).whole? = some cookieReply ∧ cookieReply.isSuccess = true ∧
      ∃ token, ((c.loginOnce (.object [])).runFrom c.start).1 = .ok token ∧
        token = ⟨"abc", some ⟨1893456000, 0⟩⟩ ∧ token.secret ≠ "" := by
  intro c
  have hrequest : ((c.loginRequest? (.object [])).any fun message =>
      (c.replyTo c.start message).whole? = some cookieReply) = true := by decide +kernel
  have hgranted : ((c.loginOnce (.object [])).runFrom c.start).1.toOption =
      some ⟨"abc", some ⟨1893456000, 0⟩⟩ := by decide +kernel
  have htoken : ((c.loginOnce (.object [])).runFrom c.start).1 =
      .ok ⟨"abc", some ⟨1893456000, 0⟩⟩ := toOption_eq_some.mp hgranted
  cases hmessage : c.loginRequest? (.object []) with
  | none =>
    rw [hmessage] at hrequest
    cases hrequest
  | some message =>
    rw [hmessage] at hrequest
    have hreply : (c.replyTo c.start message).whole? = some cookieReply :=
      of_decide_eq_true hrequest
    have hsuccess : cookieReply.isSuccess = true := rfl
    obtain ⟨-, hsecret, -⟩ := session_granted_iff c (.object []) c.start hmessage hreply hsuccess
    exact ⟨message, rfl, hreply, hsuccess, _, htoken, rfl, (hsecret _ htoken).1⟩

end Client

end RemoteNotes
