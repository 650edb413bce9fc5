import Mathlib.Logic.Relation
import RemoteNotes.Proofs.Frame
import RemoteNotes.Proofs.Session

/-!
# The token that a client holds

A client changes its token in two ways: giving it up, which leaves none whatever the server
says, and logging in, which puts the token of a granted session in its place. A login that
fails leaves the token as it was, and so does one that is asked for by itself. A client whose
credential is a token never logs in: it holds that token until it gives it up.
-/

namespace RemoteNotes.Client

open RemoteNotes.Action (Chains Respects runFrom runFrom_bind bind_runFrom)

variable {c : Client}

-- ---------------------------------------------------------------------------
-- Steps of a client
-- ---------------------------------------------------------------------------

/-- What a client does to its state on the way of an operation. The token changes only
where a login with the credential of the client was granted. -/
inductive StoreStep (c : Client) : ClientState → ClientState → Prop
  | clock {s} : StoreStep c s (s.atReading (s.readings + 1))
  | sent {s x} : x.held = s.token → StoreStep c s (s.record x)
  | renewed {s t token} : c.config.credential.isRenewable = true →
    (c.authenticate c.config.credential).runFrom s = (.ok token, t) → StoreStep c s (t.hold token)

abbrev StorePath (c : Client) : ClientState → ClientState → Prop :=
  Relation.ReflTransGen (StoreStep c)

theorem storePath_chains (c : Client) : Chains (StorePath c) :=
  ⟨fun _ => .refl, fun h k => h.trans k⟩

theorem storePath_send (purpose : Purpose) (request : Http.Request) :
    Respects (StorePath c) (c.send purpose request) := fun _ => .single (.sent rfl)

theorem storePath_authenticate (credential : Credential) :
    Respects (StorePath c) (c.authenticate credential) :=
  authenticate_respects (storePath_chains c) (fun _ => .single .clock) (storePath_send _) credential

theorem storePath_keeps (c : Client) : Keeps c (StorePath c) where
  toChains := storePath_chains c
  now _ := .single .clock
  send request _ := storePath_send _ request
  renew hc s := by
    have hlogin := storePath_authenticate (c := c) c.config.credential s
    unfold renew
    rw [runFrom_bind]
    revert hlogin
    rcases hrun : (c.authenticate c.config.credential).runFrom s with ⟨e | token, t⟩
    · exact id
    · intro _; exact .single (.renewed hc hrun)

-- ---------------------------------------------------------------------------
-- What logins do
-- ---------------------------------------------------------------------------

theorem token_chains : Chains fun s t : ClientState => t.token = s.token :=
  ⟨fun _ => rfl, fun h k => k.trans h⟩

theorem token_authenticate (credential : Credential) (s : ClientState) :
    ((c.authenticate credential).runFrom s).2.token = s.token :=
  authenticate_respects token_chains (fun _ => rfl) (fun _ _ => rfl) credential s

/-- A client that was given a token holds it, and one that was given none holds what it
held before. -/
def Settles (s : ClientState) : Except Error SessionToken × ClientState → Prop
  | (.ok token, t) => t.token = some token
  | (.error _, t) => t.token = s.token

theorem settles_renew (s : ClientState) : Settles s (c.renew.runFrom s) := by
  have hlogin := token_authenticate (c := c) c.config.credential s
  unfold renew
  rw [runFrom_bind]
  revert hlogin
  rcases (c.authenticate c.config.credential).runFrom s with ⟨e | token, t⟩
  · exact id
  · intro _; rfl

theorem TokenRun.settles {usable : SessionToken → Bool} {refusal : Error} {s t : ClientState}
    {r : Except Error SessionToken} (h : TokenRun c usable refusal s r t) : Settles s (r, t) := by
  cases h with
  | closed => rfl
  | held _ htoken => exact htoken
  | refused => rfl
  | @login n _ _ _ _ _ h =>
    have hrenew := settles_renew (c := c) (s.atReading n)
    rwa [h] at hrenew

theorem settles_getToken (s : ClientState) : Settles s (c.getToken.runFrom s) :=
  (getToken_run c s).settles

theorem settles_refreshAfterRejection (stale : SessionToken) (s : ClientState) :
    Settles s ((c.refreshAfterRejection stale).runFrom s) :=
  (refreshAfterRejection_run c stale s).settles

-- ---------------------------------------------------------------------------
-- Giving the token up
-- ---------------------------------------------------------------------------

theorem token_signOut (s : ClientState) : (c.signOut.runFrom s).2.token = none := by
  have htold (request : Option Http.Request) :
      Respects (fun s t => t.token = s.token) (c.exchange .signOut signOutSubject request) :=
    exchange_respects token_chains (fun _ _ => rfl) _ request
  unfold signOut
  simp only [runFrom_bind, Action.runFrom_get, Action.runFrom_modify]
  cases s.token with
  | none => rfl
  | some token =>
    -- the token is gone by now, and telling the server does not bring it back
    refine Respects.bind token_chains (htold _) (fun r => ?_) { s with token := none }
    split
    · exact .pure token_chains _
    · exact .throw token_chains _

theorem token_givesUp {op : Operation} (hop : op.givesUp = true) (s : ClientState) :
    (c.after s op).token = none := by
  cases op with
  | signOut => exact token_signOut s
  | close => rfl
  | _ => cases hop

-- ---------------------------------------------------------------------------
-- Operations one after another
-- ---------------------------------------------------------------------------

/-- What operations that are asked for one after another do to the token. Those that give it
up leave none. The others change it by logins with the credential of the client only, and
a login that is asked for by itself does not change it at all. -/
inductive StoreHistory (c : Client) : ClientState → List Operation → ClientState → Prop
  | nil {s} : StoreHistory c s [] s
  | givenUp {s op ops t} : op.givesUp = true → (c.after s op).token = none →
    StoreHistory c (c.after s op) ops t → StoreHistory c s (op :: ops) t
  | used {s op ops t} : op.givesUp = false → StorePath c s (c.after s op) →
    (∀ credential, op = .authenticate credential → (c.after s op).token = s.token) →
    StoreHistory c (c.after s op) ops t → StoreHistory c s (op :: ops) t

theorem storePath_after {op : Operation} (hop : op.givesUp = false) (s : ClientState) :
    StorePath c s (c.after s op) :=
  (storePath_keeps c).perform hop (fun credential _ => storePath_authenticate credential) s

theorem token_after_authenticate (credential : Credential) (s : ClientState) :
    (c.after s (.authenticate credential)).token = s.token := by
  change ((discard (c.authenticate credential)).runFrom s).2.token = s.token
  rw [Action.runFrom_discard]
  exact token_authenticate credential s

theorem storeHistory (s : ClientState) (ops : List Operation) :
    StoreHistory c s ops (c.afterAll s ops) := by
  induction ops generalizing s with
  | nil => exact .nil
  | cons op ops ih =>
    cases hop : op.givesUp with
    | true => exact .givenUp hop (token_givesUp hop s) (ih _)
    | false =>
      refine .used hop (storePath_after hop s) ?_ (ih _)
      rintro credential rfl
      exact token_after_authenticate credential s

-- ---------------------------------------------------------------------------
-- Clients whose credential is a token
-- ---------------------------------------------------------------------------

/-- A client holds a token or none, and so it was whenever it sent a request. -/
structure HoldsAtMost (token : SessionToken) (s : ClientState) : Prop where
  now : s.token = some token ∨ s.token = none
  whenSent : ∀ x ∈ s.exchanges, x.held = some token ∨ x.held = none

theorem holdsAtMost_chains (token : SessionToken) :
    Chains fun s t => HoldsAtMost token s → HoldsAtMost token t :=
  ⟨fun _ h => h, fun h k hs => k (h hs)⟩

theorem holdsAtMost_send {token : SessionToken} (purpose : Purpose) (request : Http.Request) :
    Respects (fun s t => HoldsAtMost token s → HoldsAtMost token t) (c.send purpose request) := by
  refine fun s h => ⟨h.now, fun x hx => ?_⟩
  rcases List.mem_append.mp hx with hx | hx
  · exact h.whenSent x hx
  · cases List.mem_singleton.mp hx; exact h.now

theorem holdsAtMost_after {token : SessionToken} (hc : c.config.credential.isRenewable = false)
    (op : Operation) (s : ClientState) (h : HoldsAtMost token s) :
    HoldsAtMost token (c.after s op) := by
  have hchains := holdsAtMost_chains token
  have hnow : Respects (fun s t => HoldsAtMost token s → HoldsAtMost token t) c.now :=
    fun _ h => ⟨h.now, h.whenSent⟩
  have hkeeps : Keeps c fun s t => HoldsAtMost token s → HoldsAtMost token t :=
    { toChains := hchains, now := hnow, send := fun request _ => holdsAtMost_send _ request,
      renew := fun h => by cases hc.symm.trans h }
  have hdrop (s : ClientState) (h : HoldsAtMost token s) :
      HoldsAtMost token { s with token := none } := ⟨.inr rfl, h.whenSent⟩
  refine hkeeps.after op (fun credential _ => ?_) ?_ (fun _ h => ⟨.inr rfl, h.whenSent⟩) s h
  · exact authenticate_respects hchains hnow (holdsAtMost_send _) credential
  · exact signOut_respects hchains hdrop (holdsAtMost_send _)

theorem holdsAtMost_start {secret : String} (hc : c.config.credential = .token secret) :
    HoldsAtMost (.ofBearer secret) c.start := by
  unfold start
  rw [hc]
  exact ⟨.inl rfl, List.forall_mem_nil _⟩

/-- What was sent on the way from one state to another has a property. -/
def Sends (P : Exchange → Prop) (s t : ClientState) : Prop :=
  ∃ sent, t.exchanges = s.exchanges ++ sent ∧ ∀ x ∈ sent, P x

theorem sends_none {P : Exchange → Prop} {s t : ClientState} (h : t.exchanges = s.exchanges) :
    Sends P s t :=
  ⟨[], by rw [h, List.append_nil], List.forall_mem_nil _⟩

theorem sends_chains (P : Exchange → Prop) : Chains (Sends P) where
  refl _ := sends_none rfl
  trans := by
    rintro s t u ⟨first, ht, hfirst⟩ ⟨rest, hu, hrest⟩
    refine ⟨first ++ rest, by rw [hu, ht, List.append_assoc], fun x hx => ?_⟩
    exact (List.mem_append.mp hx).elim (hfirst x) (hrest x)

theorem sends_send {P : Exchange → Prop} {purpose : Purpose} (hP : ∀ x, x.purpose = purpose → P x)
    (request : Http.Request) : Respects (Sends P) (c.send purpose request) := by
  refine fun s => ⟨[_], rfl, fun x hx => ?_⟩
  cases List.mem_singleton.mp hx
  exact hP _ rfl

/-- A request to log in was asked for by itself, with a credential other than a token. -/
def AskedFor (op : Operation) (x : Exchange) : Prop :=
  x.purpose = .login → ∃ credential, op = .authenticate credential ∧ credential.isRenewable = true

theorem askedFor_of_ne {op : Operation} {purpose : Purpose} (hp : purpose ≠ .login)
    (x : Exchange) (hx : x.purpose = purpose) : AskedFor op x :=
  fun hlogin => absurd (hx.symm.trans hlogin) hp

/-- A client whose credential is a token logs in only where that was asked for. -/
theorem sends_after (hc : c.config.credential.isRenewable = false) (op : Operation)
    (s : ClientState) : Sends (AskedFor op) s (c.after s op) := by
  have hchains := sends_chains (AskedFor op)
  have hkeeps : Keeps c (Sends (AskedFor op)) :=
    { toChains := hchains, now := fun _ => sends_none rfl,
      send := fun request hp =>
        sends_send (askedFor_of_ne (by rcases hp with rfl | rfl <;> nofun)) request
      renew := fun h => by cases hc.symm.trans h }
  refine hkeeps.after op (fun credential hcredential => ?_) ?_ (fun _ => sends_none rfl) s
  · cases hother : credential.isRenewable with
    | true =>
      refine authenticate_respects hchains (fun _ => sends_none rfl) (sends_send fun x _ _ => ?_) _
      exact ⟨credential, hcredential, hother⟩
    | false =>
      cases credential with
      | token secret => exact .pure hchains _
      | _ => cases hother
  · exact signOut_respects hchains (fun _ => sends_none rfl) (sends_send (askedFor_of_ne nofun))

/-- The token changes where it is given up and where a login for it was granted, and nowhere
else. A client whose credential is a token never has another one. -/
theorem token_changes_by_sessions_alone (c : Client) :
    (∀ s ops, StoreHistory c s ops (c.afterAll s ops)) ∧
      (∀ s, Settles s (c.getToken.runFrom s)) ∧
      (∀ s stale, Settles s ((c.refreshAfterRejection stale).runFrom s)) ∧
      (∀ secret, c.config.credential = .token secret →
        (∀ ops, HoldsAtMost (.ofBearer secret) (c.afterAll c.start ops)) ∧
          ∀ s op, Sends (AskedFor op) s (c.after s op)) := by
  refine ⟨storeHistory, settles_getToken, fun s stale => settles_refreshAfterRejection stale s, ?_⟩
  intro secret hc
  have hnot : c.config.credential.isRenewable = false := by rw [hc]; rfl
  exact ⟨afterAll_induction (holdsAtMost_start hc) (holdsAtMost_after hnot),
    fun s op => sends_after hnot op s⟩

/-- A client with a password renews its session, which replaces its token, and is closed, which
leaves none. A client with a token of its own is asked to log in as somebody else, and keeps its
token. -/
theorem token_of_used_client :
    let c := facing (.password "ada" "pw")
      (scripted [granting "old", plain 401, granting "new", plain 200])
    let d := facing (.token "key") (scripted [granting "other", plain 200])
    StoreHistory c c.start [.getToken, .currentUser, .close]
        (c.afterAll c.start [.getToken, .currentUser, .close]) ∧
      (c.afterAll c.start [.getToken]).token.map (·.secret) = some "old" ∧
      (c.afterAll c.start [.getToken, .currentUser]).token.map (·.secret) = some "new" ∧
      (c.afterAll c.start [.getToken, .currentUser, .close]).token = none ∧
      HoldsAtMost (.ofBearer "key")
        (d.afterAll d.start [.authenticate (.password "ada" "pw"), .currentUser]) := by
  intro c d
  obtain ⟨hhistory, -⟩ := token_changes_by_sessions_alone c
  obtain ⟨-, -, -, hown⟩ := token_changes_by_sessions_alone d
  have hold : (c.afterAll c.start [.getToken]).token.map (·.secret) = some "old" := by
    decide +kernel
  have hnew : (c.afterAll c.start [.getToken, .currentUser]).token.map (·.secret) =
      some "new" := by decide +kernel
  exact ⟨hhistory _ _, hold, hnew, rfl, (hown "key" rfl).1 _⟩

end RemoteNotes.Client
