import RemoteNotes.Proofs.Logins
import RemoteNotes.Proofs.OneByOne

/-!
# Showing the token

A client shows its token with every request but those of a login. It is always the token that
it holds at that moment, unless several memos of a batch are in flight: nothing else happens
between the attempts of a call, so that no copy of a token outlives the token itself
(`sends_isAuthorized`). After a rejection, the attempts that follow show the token of a login made
since (`Conversation`).
-/

namespace RemoteNotes

namespace Exchange

/-- A request for some work shows a token, and nothing else. -/
structure Shows (x : Exchange) (token : SessionToken) : Prop where
  purpose : x.purpose = .call ∨ x.purpose = .download
  shown : x.request.authorizations = [bearer token.secret]

/-- The token that a request shows is the one that the client held when it was sent. -/
structure Carries (x : Exchange) (token : SessionToken) : Prop extends x.Shows token where
  held : x.held = some token

/-- The reply says that the token is not accepted. All of the reply to a call has to come for
that, whereas the header is enough of the reply to a download. -/
def rejects (x : Exchange) : Bool :=
  match x.purpose, x.reply with
  | .call, _ => x.isRejected
  | .download, .answered r => r.isUnauthorized
  | _, _ => false

/-- A request says who asks as it should. A request to sign out shows the token that the
client held when it was told to, since it is sent after the token was dropped. -/
def IsAuthorized (atCall : Option SessionToken) (x : Exchange) : Prop :=
  match x.purpose with
  | .login => x.request.authorizations = []
  | .signOut => ∃ token, atCall = some token ∧ x.request.authorizations = [bearer token.secret]
  | .call | .download => ∃ token, x.Carries token

/-- A request shows one token, be it held or not, or none if it is a login. -/
def IsSigned (x : Exchange) : Prop :=
  match x.purpose with
  | .login => x.request.authorizations = []
  | _ => ∃ token : SessionToken, x.request.authorizations = [bearer token.secret]

theorem Shows.isSigned {x : Exchange} {token : SessionToken} (h : x.Shows token) : x.IsSigned := by
  unfold IsSigned
  rcases h.purpose with hp | hp <;> rw [hp] <;> exact ⟨token, h.shown⟩

theorem IsAuthorized.isSigned {x : Exchange} {atCall : Option SessionToken}
    (h : x.IsAuthorized atCall) : x.IsSigned := by
  unfold IsAuthorized at h
  unfold IsSigned
  cases hp : x.purpose <;> rw [hp] at h
  · exact h
  · obtain ⟨token, -, hshown⟩ := h
    exact ⟨token, hshown⟩
  · obtain ⟨token, hcarries⟩ := h
    exact ⟨token, hcarries.shown⟩
  · obtain ⟨token, hcarries⟩ := h
    exact ⟨token, hcarries.shown⟩

theorem Carries.isAuthorized {x : Exchange} {token : SessionToken} (h : x.Carries token)
    (atCall : Option SessionToken) : x.IsAuthorized atCall := by
  unfold IsAuthorized
  rcases h.purpose with hp | hp <;> rw [hp] <;> exact ⟨token, h⟩

end Exchange

namespace Client

open RemoteNotes.Action (Respects runFrom runFrom_bind)

variable {c : Client} {s t u : ClientState} {α : Type} {token : SessionToken}

theorem IsLogin.isAuthorized {x : Exchange} (h : IsLogin c x) (hc : c.config.IsAccepted)
    (atCall : Option SessionToken) : x.IsAuthorized atCall := by
  unfold Exchange.IsAuthorized
  rw [h.purpose]
  exact h.authorizations hc

-- ---------------------------------------------------------------------------
-- Attempts with a token
-- ---------------------------------------------------------------------------

/-- What an attempt sends that is made with a token, and whether it is rejected. -/
structure AttemptTrace (token : SessionToken) (s : ClientState) (sent : List Exchange)
    (r : Except Error (Answer α)) (t : ClientState) : Prop where
  recorded : t.exchanges = s.exchanges ++ sent
  keeps : t.token = s.token
  one : sent = [] ∨ ∃ x, sent = [x]
  shows : ∀ x ∈ sent, x.Shows token
  held : ∀ x ∈ sent, x.held = s.token
  wasRejected : Try.wasRejected ⟨s, r, t⟩ = sent.any (·.rejects)

theorem AttemptTrace.unsent {e : Error} :
    AttemptTrace token s [] (.error e : Except Error (Answer α)) s :=
  ⟨(List.append_nil _).symm, rfl, .inl rfl, List.forall_mem_nil _, List.forall_mem_nil _, rfl⟩

theorem AttemptTrace.carries {sent : List Exchange} {r : Except Error (Answer α)}
    (h : AttemptTrace token s sent r t) (hs : s.token = some token) :
    ∀ x ∈ sent, x.Carries token :=
  fun x hx => ⟨h.shows x hx, (h.held x hx).trans hs⟩

theorem AttemptTrace.settled {sent : List Exchange} {r : Except Error (Answer α)}
    (h : AttemptTrace token s sent r t) : ∀ x ∈ sent.dropLast, x.rejects = false := by
  rcases h.one with rfl | ⟨x, rfl⟩ <;> exact List.forall_mem_nil _

/-- Nothing that a failed attempt sent was rejected. -/
theorem AttemptTrace.not_rejects {sent : List Exchange} {e : Error}
    (h : AttemptTrace token s sent (.error e : Except Error (Answer α)) t) :
    ∀ x ∈ sent, x.rejects = false := by
  have hfailed := h.wasRejected.symm
  rw [show Try.wasRejected ⟨s, (.error e : Except Error (Answer α)), t⟩ = false from rfl,
    List.any_eq_false] at hfailed
  simpa using hfailed

theorem AttemptTrace.rejects {sent : List Exchange} {message : String}
    (h : AttemptTrace token s sent (.ok (.rejected message) : Except Error (Answer α)) t) :
    ∃ x ∈ sent.getLast?, x.rejects = true := by
  have hrejected : sent.any (·.rejects) = true := by rw [← h.wasRejected]; rfl
  rcases h.one with rfl | ⟨x, rfl⟩
  · cases hrejected
  · exact ⟨x, rfl, by simpa using hrejected⟩

theorem callOnce_attempt (hc : c.config.IsAccepted) (request : ApiRequest) (token : SessionToken)
    (s : ClientState) :
    ∃ sent, AttemptTrace token s sent ((c.callOnce request token).runFrom s).1
      ((c.callOnce request token).runFrom s).2 := by
  rcases c.callOnce_cases request token s with ⟨e, hrun⟩ | ⟨x, hx, hheld, hrun⟩ <;> rw [hrun]
  · exact ⟨[], .unsent⟩
  · have hshows : x.Shows token := by
      obtain ⟨hpurpose, payload, -, hmessage⟩ := hx
      exact ⟨.inl hpurpose, authorizations_build? hc hmessage⟩
    have hrejects : x.rejects = x.isRejected := by rw [Exchange.rejects, hx.purpose]
    have hwas := CallOutcome.wasRejected_eq
      (t := ⟨s, c.meaning request.subject x.request x.reply, s.record x⟩) (meaning_outcome hx)
    exact ⟨[x], rfl, rfl, .inr ⟨x, rfl⟩, List.forall_mem_singleton.mpr hshows,
      List.forall_mem_singleton.mpr hheld, by simpa [hrejects] using hwas⟩

theorem openOnce_attempt (hc : c.config.IsAccepted) (subject : Subject) (url : String)
    (pairs : List (String × String)) (token : SessionToken) (s : ClientState) :
    ∃ sent, AttemptTrace token s sent ((c.openOnce subject url pairs token).runFrom s).1
      ((c.openOnce subject url pairs token).runFrom s).2 := by
  unfold openOnce
  cases hmessage : c.build? .get url pairs (some token.secret) none with
  | none => exact ⟨[], .unsent⟩
  | some message =>
    have hshows (reply : Http.Reply) : ∀ x ∈ [(⟨.download, message, reply, s.token⟩ : Exchange)],
        x.Shows token :=
      List.forall_mem_singleton.mpr ⟨.inr rfl, authorizations_build? hc hmessage⟩
    have hheld (reply : Http.Reply) : ∀ x ∈ [(⟨.download, message, reply, s.token⟩ : Exchange)],
        x.held = s.token := List.forall_mem_singleton.mpr rfl
    rw [runFrom_bind, exchange_runFrom]
    cases hreply : c.replyTo s message with
    | lost => exact ⟨[_], rfl, rfl, .inr ⟨_, rfl⟩, hshows _, hheld _, rfl⟩
    | timedOut => exact ⟨[_], rfl, rfl, .inr ⟨_, rfl⟩, hshows _, hheld _, rfl⟩
    | answered r =>
      refine ⟨[_], rfl, rfl, .inr ⟨_, rfl⟩, hshows _, hheld _, ?_⟩
      simp only [response, Action.runFrom_ofExcept, fileAnswer, List.any_cons, List.any_nil,
        Exchange.rejects, Bool.or_false]
      cases hu : r.isUnauthorized with
      | true => rfl
      | false => cases hsuccess : r.isSuccess <;> rfl

/-- What tries send that are made with a token. Only the last request can be rejected, since
a rejection ends the tries. -/
structure TriesTrace (token : SessionToken) (s : ClientState) (sent : List Exchange)
    (r : Except Error (Answer α × Nat)) (t : ClientState) : Prop where
  recorded : t.exchanges = s.exchanges ++ sent
  keeps : t.token = s.token
  carries : ∀ x ∈ sent, x.Carries token
  settled : ∀ x ∈ sent.dropLast, x.rejects = false
  rejected : ∀ m left, r = .ok (.rejected m, left) → ∃ x ∈ sent.getLast?, x.rejects = true

theorem AttemptTrace.triesTrace {sent : List Exchange} {r : Except Error (Answer α)}
    {r' : Except Error (Answer α × Nat)} (h : AttemptTrace token s sent r t)
    (hs : s.token = some token)
    (hr : ∀ m left, r' = .ok (.rejected m, left) → r = .ok (.rejected m)) :
    TriesTrace token s sent r' t where
  recorded := h.recorded
  keeps := h.keeps
  carries := h.carries hs
  settled := h.settled
  rejected m left hr' := by
    cases hr m left hr'
    exact h.rejects

theorem Tries.trace {act : Action (Answer α)} {left : Nat} {tries : List (Try (Answer α))}
    {r : Except Error (Answer α × Nat)} (h : Tries act left s tries r t)
    (hs : s.token = some token)
    (hact : ∀ s : ClientState,
      ∃ sent, AttemptTrace token s sent (act.runFrom s).1 (act.runFrom s).2) :
    ∃ sent, TriesTrace token s sent r t := by
  induction h with
  | @done left s a s' hrun =>
    obtain ⟨sent, htrace⟩ := hact s
    rw [hrun] at htrace
    exact ⟨sent, htrace.triesTrace hs (by rintro _ _ ⟨⟩; rfl)⟩
  | @failed left s e s' hrun =>
    obtain ⟨sent, htrace⟩ := hact s
    rw [hrun] at htrace
    exact ⟨sent, htrace.triesTrace hs nofun⟩
  | @again left s e t tries r s' hrun _ _ ih =>
    obtain ⟨first, hfirst⟩ := hact s
    rw [hrun] at hfirst
    obtain ⟨rest, hrest⟩ := ih (hfirst.keeps.trans hs)
    refine ⟨first ++ rest, ?_, hrest.keeps.trans hfirst.keeps, ?_, fun x hx => ?_, ?_⟩
    · rw [hrest.recorded, hfirst.recorded, List.append_assoc]
    · exact List.forall_mem_append.mpr ⟨hfirst.carries hs, hrest.carries⟩
    · exact (of_mem_dropLast_append hx).elim (hfirst.not_rejects x) (hrest.settled x)
    · intro m left hr
      obtain ⟨x, hx, hrejects⟩ := hrest.rejected m left hr
      exact ⟨x, List.mem_getLast?_append_of_mem_getLast? hx, hrejects⟩

-- ---------------------------------------------------------------------------
-- Ways of getting a token
-- ---------------------------------------------------------------------------

/-- Asking for a token sends logins, or none if the token that is held is good enough. Any other
token was granted to the last one of them. -/
theorem TokenRun.trace {usable : SessionToken → Bool} {refusal : Error}
    {r : Except Error SessionToken} (h : TokenRun c usable refusal s r t) :
    ∃ sent, t.exchanges = s.exchanges ++ sent ∧ (∀ x ∈ sent, IsLogin c x) ∧
      ∀ token, r = .ok token → (sent = [] ∧ s.token = some token ∧ usable token = true) ∨
        ∃ x ∈ sent.getLast?, x.Grants token := by
  cases h with
  | closed => exact ⟨[], (List.append_nil _).symm, List.forall_mem_nil _, nofun⟩
  | @held token k _ htoken husable _ =>
    refine ⟨[], (List.append_nil _).symm, List.forall_mem_nil _, ?_⟩
    rintro _ ⟨⟩
    exact .inl ⟨rfl, htoken, husable⟩
  | refused => exact ⟨[], (List.append_nil _).symm, List.forall_mem_nil _, nofun⟩
  | login _ hc _ hrun =>
    obtain ⟨sent, htrace⟩ := renew_trace hc hrun
    exact ⟨sent, htrace.recorded, htrace.isLogin, fun token hr => .inr (htrace.grants token hr)⟩

-- ---------------------------------------------------------------------------
-- Calls and downloads
-- ---------------------------------------------------------------------------

/-- What some work with a token sends, in four parts: logins until there is a token, requests
with that token, and after a rejection logins again and requests with another token, which is
the one that was granted to the last of these logins. -/
structure Conversation (c : Client) (logins first renewal second : List Exchange) : Prop where
  areLogins : ∀ x ∈ logins ++ renewal, IsLogin c x
  showHeld : ∃ token, ∀ x ∈ first, x.Carries token
  showGranted : second ≠ [] → ∃ token, (∃ x ∈ renewal.getLast?, x.Grants token) ∧
    ∀ x ∈ second, x.Carries token
  /-- A rejection ends the first requests, and the second ones. -/
  settled : ∀ x ∈ first.dropLast ++ second.dropLast, x.rejects = false
  rejected : renewal ++ second ≠ [] → ∃ x ∈ first.getLast?, x.rejects = true

def Converses (c : Client) (s t : ClientState) : Prop :=
  ∃ logins first renewal second, Conversation c logins first renewal second ∧
    t.exchanges = s.exchanges ++ (logins ++ first ++ (renewal ++ second))

theorem Converses.of_logins {logins : List Exchange} (h : t.exchanges = s.exchanges ++ logins)
    (hlogins : ∀ x ∈ logins, IsLogin c x) : Converses c s t := by
  refine ⟨logins, [], [], [], ⟨by simpa using hlogins, ?_, absurd rfl, List.forall_mem_nil _,
    absurd rfl⟩, by simpa using h⟩
  exact ⟨⟨"", none⟩, List.forall_mem_nil _⟩

section

variable {attempt : SessionToken → Action (Answer α)}
  (hact : ∀ (token : SessionToken) (s : ClientState),
    ∃ sent, AttemptTrace token s sent ((attempt token).runFrom s).1 ((attempt token).runFrom s).2)

include hact

/-- Getting a token, and then tries with it. -/
theorem opening_trace {retries : Nat} {tries : List (Try (Answer α))}
    {r : Except Error (Answer α × Nat)} (hget : c.getToken.runFrom s = (.ok token, t))
    (htries : Tries (attempt token) retries t tries r u) :
    ∃ logins first, u.exchanges = s.exchanges ++ (logins ++ first) ∧ u.token = some token ∧
      (∀ x ∈ logins, IsLogin c x) ∧ TriesTrace token t first r u := by
  obtain ⟨logins, hlogins, hkind, -⟩ := (getToken_cases hget).trace
  have hheld : t.token = some token := (getToken_cases hget).settles
  obtain ⟨first, htrace⟩ := htries.trace hheld (hact token)
  refine ⟨logins, first, ?_, htrace.keeps.trans hheld, hkind, htrace⟩
  rw [htrace.recorded, hlogins, List.append_assoc]

theorem TokenedRun.converses {operation : String} {retries : Nat}
    {first second : List (Try (Answer α))} {renewals : Nat} {r : Except Error α}
    (h : TokenedRun c operation retries attempt s first second renewals r t) :
    Converses c s t := by
  cases h with
  | noToken hget =>
    obtain ⟨logins, hlogins, hkind, -⟩ := (getToken_cases hget).trace
    exact .of_logins hlogins hkind
  | @settled token _ _ _ _ hget htries _ =>
    obtain ⟨logins, sent, hrecorded, -, hkind, htrace⟩ := opening_trace hact hget htries
    exact ⟨logins, sent, [], [], ⟨by simpa using hkind, ⟨token, htrace.carries⟩, absurd rfl,
      by simpa using htrace.settled, absurd rfl⟩, by simpa using hrecorded⟩
  | @notRenewed token _ _ m left _ _ _ hget htries hrefresh =>
    obtain ⟨logins, sent, hrecorded, -, hkind, htrace⟩ := opening_trace hact hget htries
    obtain ⟨renewal, hrenewal, hkind', -⟩ := (refreshAfterRejection_cases hrefresh).trace
    refine ⟨logins, sent, renewal, [], ⟨List.forall_mem_append.mpr ⟨hkind, hkind'⟩,
      ⟨token, htrace.carries⟩, absurd rfl, by simpa using htrace.settled,
      fun _ => htrace.rejected m left rfl⟩, ?_⟩
    rw [hrenewal, hrecorded, List.append_nil, List.append_assoc]
  | @renewed token _ _ m left _ token' w _ _ _ hget htries hrefresh htries' =>
    obtain ⟨logins, sent, hrecorded, hheld, hkind, htrace⟩ := opening_trace hact hget htries
    obtain ⟨renewal, hrenewal, hkind', hgranted⟩ := (refreshAfterRejection_cases hrefresh).trace
    have hheld' : w.token = some token' := (refreshAfterRejection_cases hrefresh).settles
    obtain ⟨sent', htrace'⟩ := htries'.trace hheld' (hact token')
    refine ⟨logins, sent, renewal, sent', ⟨List.forall_mem_append.mpr ⟨hkind, hkind'⟩,
      ⟨token, htrace.carries⟩, fun _ => ⟨token', ?_, htrace'.carries⟩,
      List.forall_mem_append.mpr ⟨htrace.settled, htrace'.settled⟩,
      fun _ => htrace.rejected m left rfl⟩, ?_⟩
    · -- the token that was rejected is still the one that is held, and it is not good enough
      rcases hgranted token' rfl with ⟨-, hstill, hother⟩ | hgranted
      · cases hheld.symm.trans hstill
        simp at hother
      · exact hgranted
    · rw [htrace'.recorded, hrenewal, hrecorded]
      simp only [List.append_assoc]

end

/-- A call, a download, or asking for a token. -/
inductive CallStep (c : Client) : ClientState → ClientState → Prop
  | call request before : CallStep c before ((c.call request).runFrom before).2
  | download subject url pairs before :
    CallStep c before ((c.openDownload subject url pairs).runFrom before).2
  | getToken before : CallStep c before (c.getToken.runFrom before).2
  | refreshAfterRejection stale before :
    CallStep c before ((c.refreshAfterRejection stale).runFrom before).2

theorem CallStep.converses (hc : c.config.IsAccepted) (h : CallStep c s t) : Converses c s t := by
  cases h with
  | call request =>
    obtain ⟨first, second, renewals, hrun⟩ :=
      withToken_run c request.operation (c.retriesFor request) (c.callOnce request) s
    exact hrun.converses (callOnce_attempt hc request)
  | download subject url pairs =>
    obtain ⟨first, second, renewals, hrun⟩ :=
      withToken_run c subject.operation c.retries (c.openOnce subject url pairs) s
    exact hrun.converses (openOnce_attempt hc subject url pairs)
  | getToken =>
    obtain ⟨logins, hlogins, hkind, -⟩ := (getToken_run c s).trace
    exact .of_logins hlogins hkind
  | refreshAfterRejection stale =>
    obtain ⟨logins, hlogins, hkind, -⟩ := (refreshAfterRejection_run c stale s).trace
    exact .of_logins hlogins hkind

abbrev CallPath (c : Client) : ClientState → ClientState → Prop :=
  Relation.ReflTransGen fun s t => CallStep c s t ∧ Converses c s t

theorem CallStep.path (hc : c.config.IsAccepted) (h : CallStep c s t) : CallPath c s t :=
  .single ⟨h, h.converses hc⟩

theorem callPath_keepsCalls (hc : c.config.IsAccepted) : KeepsCalls c (CallPath c) where
  refl _ := .refl
  trans h k := h.trans k
  call request s := CallStep.path hc (.call request s)
  openDownload subject url pairs s := CallStep.path hc (.download subject url pairs s)
  getToken s := CallStep.path hc (.getToken s)
  refreshAfterRejection stale s := CallStep.path hc (.refreshAfterRejection stale s)

-- ---------------------------------------------------------------------------
-- Operations
-- ---------------------------------------------------------------------------

theorem Converses.sends (h : Converses c s t) (hc : c.config.IsAccepted)
    (atCall : Option SessionToken) : Sends (Exchange.IsAuthorized atCall) s t := by
  obtain ⟨logins, first, renewal, second, h, hrecorded⟩ := h
  obtain ⟨hlogins, hrenewal⟩ := List.forall_mem_append.mp h.areLogins
  refine ⟨_, hrecorded, fun x hx => ?_⟩
  simp only [List.mem_append] at hx
  rcases hx with (hx | hx) | hx | hx
  · exact (hlogins x hx).isAuthorized hc atCall
  · obtain ⟨token, hcarries⟩ := h.showHeld
    exact (hcarries x hx).isAuthorized atCall
  · exact (hrenewal x hx).isAuthorized hc atCall
  · obtain ⟨token, -, hcarries⟩ := h.showGranted (List.ne_nil_of_mem hx)
    exact (hcarries x hx).isAuthorized atCall

theorem CallPath.sends (h : CallPath c s t) (hc : c.config.IsAccepted)
    (atCall : Option SessionToken) : Sends (Exchange.IsAuthorized atCall) s t := by
  induction h with
  | refl => exact sends_none rfl
  | tail _ hstep ih => exact (sends_chains _).trans ih (hstep.2.sends hc atCall)

theorem sends_authenticate (hc : c.config.IsAccepted) (atCall : Option SessionToken)
    (credential : Credential) :
    Respects (Sends (Exchange.IsAuthorized atCall)) (c.authenticate credential) := by
  intro s
  cases hrenewable : credential.isRenewable with
  | false =>
    cases credential with
    | token secret => exact sends_none rfl
    | _ => cases hrenewable
  | true =>
    obtain ⟨sent, htrace⟩ := authenticate_trace (c := c) (s := s) hrenewable rfl
    exact ⟨sent, htrace.recorded, fun x hx => (htrace.isLogin x hx).isAuthorized hc atCall⟩

/-- Signing out shows the token that was held, even though it is dropped by then. -/
theorem sends_signOut (hc : c.config.IsAccepted) (s : ClientState) :
    Sends (Exchange.IsAuthorized s.token) s (c.signOut.runFrom s).2 := by
  unfold signOut
  simp only [runFrom_bind, Action.runFrom_get, Action.runFrom_modify]
  cases htoken : s.token with
  | none => exact sends_none rfl
  | some token =>
    simp only [runFrom_bind]
    cases hmessage : c.build? .delete (c.config.sessionsUrl ++ "/current") []
      (some token.secret) none with
    | none => exact sends_none rfl
    | some message =>
      have hshown : ∀ reply, (Exchange.mk .signOut message reply none).IsAuthorized (some token) :=
        fun _ => ⟨token, rfl, authorizations_build? hc hmessage⟩
      rw [exchange_runFrom]
      refine ⟨[⟨.signOut, message, c.replyTo { s with token := none } message, none⟩], ?_,
        List.forall_mem_singleton.mpr (hshown _)⟩
      rcases c.response _ _ _ with e | r
      · rfl
      · simp only
        split <;> rfl

end Client

/-- Whether an operation has the client for itself, as all do but for a batch with several memos in
flight. -/
def Operation.IsSolo (c : Client) : Operation → Prop
  | .createMemosBatch memos =>
    Client.maxInFlight c.config.policy.batchMode ≤ 1 ∨ memos.length ≤ 1
  | _ => True

namespace Client

variable {c : Client}

/-- Every such operation is made of calls, but for those that are about the session. -/
theorem callPath_after (hc : c.config.IsAccepted) {op : Operation} (hsolo : op.IsSolo c)
    (hop : op.givesUp = false) (hlogin : op.isLogin = false) (s : ClientState) :
    CallPath c s (c.after s op) := by
  refine (callPath_keepsCalls hc).perform hop ?_ ?_ s
  · rintro credential rfl
    cases hlogin
  · rintro memos rfl
    exact (callPath_keepsCalls hc).createMemosBatch hsolo

theorem sends_isAuthorized (hc : c.config.IsAccepted) {op : Operation} (hsolo : op.IsSolo c)
    (s : ClientState) : Sends (Exchange.IsAuthorized s.token) s (c.after s op) := by
  cases op with
  | signOut => exact sends_signOut hc s
  | close => exact sends_none rfl
  | authenticate credential => exact (sends_authenticate hc s.token credential).discard s
  | _ => exact (callPath_after hc hsolo rfl rfl s).sends hc _

end Client

end RemoteNotes
