import RemoteNotes.Client.Operation
import RemoteNotes.Proofs.Batch

/-!
# What operations keep

Operations are made of calls and downloads, those aside that are about the session itself. So
a relation between states that calls, downloads and the ways of getting a token respect is
respected by whole operations (`KeepsCalls.perform`), and by a batch if it is respected by what
the batch is made of. Calls and downloads in turn read the clock, send requests and renew the
token, and do nothing else to the state of a client. So it is enough if these three respect the
relation (`Keeps.keepsCalls`). A batch does the same in the steps of its memos, in whatever order
they come (`Keeps.createMemosBatch`).
-/

namespace RemoteNotes

def Operation.isLogin : Operation → Bool
  | .authenticate _ => true
  | _ => false

namespace Client

open RemoteNotes.Action (Chains Respects runFrom run_bind_runFrom throw_bind)

theorem exchange_respects {c : Client} {R : ClientState → ClientState → Prop} (hR : Chains R)
    {purpose : Purpose} (hsend : ∀ request, Respects R (c.send purpose request))
    (subject : Subject) (request : Option Http.Request) :
    Respects R (c.exchange purpose subject request) := by
  cases request with
  | none => exact .throw hR _
  | some request => exact .bind hR (hsend request) fun reply => .ofExcept hR _

/-- A login reads the clock and sends requests, and does nothing else. -/
theorem authenticate_respects {c : Client} {R : ClientState → ClientState → Prop} (hR : Chains R)
    (hnow : Respects R c.now) (hsend : ∀ request, Respects R (c.send .login request))
    (credential : Credential) : Respects R (c.authenticate credential) := by
  have hgranted (r : Http.Response) (body : String) : Respects R (c.grantedToken r body) := by
    simp only [grantedToken, throw_bind]
    split
    · exact .throw hR _
    · split
      · exact .throw hR _
      · exact .bind hR (.ofExcept hR _) fun grant => .bind hR hnow fun now => .ofExcept hR _
  have honce (body : Json) : Respects R (c.loginOnce body) :=
    .bind hR (exchange_respects hR hsend _ _) fun r =>
      .bind hR (.ofExcept hR _) fun text => hgranted r text
  unfold authenticate
  split
  · exact .pure hR _
  · exact .throw hR _
  · refine .bind hR (Respects.result (.retrying hR (honce _) _)) fun r => ?_
    split
    · exact .pure hR _
    · exact .throw hR _

theorem renew_respects {c : Client} {R : ClientState → ClientState → Prop} (hR : Chains R)
    (hnow : Respects R c.now) (hsend : ∀ request, Respects R (c.send .login request))
    (hhold : ∀ s token, R s (s.hold token)) : Respects R c.renew :=
  .bind hR (authenticate_respects hR hnow hsend _) fun token =>
    .bind hR (fun s => hhold s token) fun _ => .pure hR token

/-- Signing out drops the token and sends at most a request that says so. -/
theorem signOut_respects {c : Client} {R : ClientState → ClientState → Prop} (hR : Chains R)
    (hdrop : ∀ s : ClientState, R s { s with token := none })
    (hsend : ∀ request, Respects R (c.send .signOut request)) : Respects R c.signOut := by
  refine .bind hR (.get hR) fun s => .bind hR hdrop fun _ => ?_
  split
  · exact .pure hR _
  · refine .bind hR (exchange_respects hR hsend _ _) fun r => ?_
    split
    · exact .pure hR _
    · exact .throw hR _

-- ---------------------------------------------------------------------------
-- From calls to operations
-- ---------------------------------------------------------------------------

/-- A relation that calls, downloads and the ways of getting a token respect. -/
structure KeepsCalls (c : Client) (R : ClientState → ClientState → Prop) : Prop
    extends Chains R where
  call : ∀ request, Respects R (c.call request)
  openDownload : ∀ s url pairs, Respects R (c.openDownload s url pairs)
  getToken : Respects R c.getToken
  refreshAfterRejection : ∀ stale, Respects R (c.refreshAfterRejection stale)

namespace KeepsCalls

variable {c : Client} {R : ClientState → ClientState → Prop} {α : Type}

theorem download (h : KeepsCalls c R) (path : String) (pairs : List (String × String))
    (resource : String) (sink : Sink) (s : ClientState) :
    R s ((c.download path pairs resource sink).run s).2 := by
  have hd := h.openDownload (downloadSubject resource) (c.fileUrl path) pairs s
  unfold Client.download
  rw [run_bind_runFrom]
  revert hd
  rcases runFrom _ s with ⟨_ | _, _⟩ <;> exact id

theorem checked (h : KeepsCalls c R) (r : Except ValidationError α) : Respects R (checked r) :=
  .ofExcept h.toChains _

theorem fetch [WireModel α] (h : KeepsCalls c R) (request : ApiRequest) :
    Respects R (c.fetch request : Action α) :=
  .bind h.toChains (h.call request) fun _ => h.checked _

theorem linkAttachments (h : KeepsCalls c R) (memo : MemoName)
    (attachments : List AttachmentName) : Respects R (c.linkAttachments memo attachments) :=
  .bind h.toChains (h.call _) fun _ => .pure h.toChains _

theorem getMemo (h : KeepsCalls c R) (raw : String) : Respects R (c.getMemo raw) :=
  .bind h.toChains (h.checked _) fun _ => h.fetch _

theorem createMemo (h : KeepsCalls c R) (m : NewMemo) : Respects R (c.createMemo m) := by
  refine .bind h.toChains (h.checked _) fun prepared => .bind h.toChains (h.fetch _) fun memo => ?_
  split
  · exact .pure h.toChains _
  · exact .bind h.toChains (h.linkAttachments _ _) fun _ => h.getMemo _

theorem createItem (h : KeepsCalls c R) (m : NewMemo) (s : ClientState) :
    R s ((c.createItem m).run s).2 := by
  rw [createItem_run]
  cases m.prepare with
  | error => exact h.refl s
  | ok prepared =>
    have hpost := h.fetch (α := Memo)
      { ApiRequest.make .post "create_memo" "memos" with body := .json prepared.body } s
    have hlink (memo : MemoName) := h.linkAttachments memo prepared.attachments
    change R s ((c.postMemo prepared).runFrom s).2 at hpost
    simp only
    revert hpost
    rcases (c.postMemo prepared).runFrom s with ⟨e | created, t⟩
    · exact id
    · intro hpost
      simp only
      split
      · exact hpost
      · have hlink := h.trans hpost (hlink created.name t)
        revert hlink
        rcases runFrom _ t with ⟨_ | _, _⟩ <;> exact id

/-- Every operation respects the relation that does not give the token up. For a login that
is asked for by itself, this has to be known of the login, and for a batch, of the batch. -/
theorem perform (h : KeepsCalls c R) {op : Operation} (hop : op.givesUp = false)
    (hlogin : ∀ credential, op = .authenticate credential →
      Respects R (c.authenticate credential))
    (hbatch : ∀ memos, op = .createMemosBatch memos →
      ∀ s, R s ((c.createMemosBatch memos).run s).2) : Respects R (op.perform c) := by
  have hR := h.toChains
  cases op with
  | searchMemos filter =>
    exact .discard (.bind hR (h.checked _) fun _ => .bind hR (h.call _) fun _ => h.checked _)
  | getMemo name => exact .discard (h.getMemo name)
  | createMemo memo => exact .discard (h.createMemo memo)
  | updateMemo name update =>
    exact .discard (.bind hR (h.checked _) fun _ => .bind hR (h.checked _) fun _ => h.fetch _)
  | deleteMemo name =>
    exact .bind hR (h.checked _) fun _ => .bind hR (h.call _) fun _ => .pure hR _
  | setMemoAttachments memo attachments =>
    exact .bind hR (h.checked _) fun _ => .bind hR (h.checked _) fun _ => h.linkAttachments _ _
  | listMemoAttachments memo =>
    exact .discard (.bind hR (h.checked _) fun _ => .bind hR (h.call _) fun _ => h.checked _)
  | createMemosBatch memos => exact .discard fun s => hbatch memos rfl s
  | uploadAttachment upload => exact .discard (.bind hR (h.checked _) fun _ => h.fetch _)
  | getAttachment name => exact .discard (.bind hR (h.checked _) fun _ => h.fetch _)
  | listAttachments => exact .discard (.bind hR (h.call _) fun _ => h.checked _)
  | downloadAttachment attachment thumbnail sink =>
    exact .bind hR (fun s => h.download _ _ _ _ s) fun _ => .discard (.ofExcept hR _)
  | deleteAttachment name =>
    exact .bind hR (h.checked _) fun _ => .bind hR (h.call _) fun _ => .pure hR _
  | getUser name => exact .discard (.bind hR (h.checked _) fun _ => h.fetch _)
  | currentUser => exact .discard (.bind hR (h.call _) fun _ => h.checked _)
  | call request => exact .discard (h.call request)
  | download path pairs resource sink =>
    exact .bind hR (fun s => h.download _ _ _ _ s) fun _ => .discard (.ofExcept hR _)
  | getToken => exact .discard h.getToken
  | refreshAfterRejection stale => exact .discard (h.refreshAfterRejection stale)
  | authenticate credential => exact .discard (hlogin credential rfl)
  | signOut => cases hop
  | close => cases hop

end KeepsCalls

-- ---------------------------------------------------------------------------
-- From single actions to calls
-- ---------------------------------------------------------------------------

/-- A relation that reading the clock, sending what is no login, and renewing a token that can
be renewed respect. -/
structure Keeps (c : Client) (R : ClientState → ClientState → Prop) : Prop extends Chains R where
  now : Respects R c.now
  send : ∀ {purpose} request, purpose = .call ∨ purpose = .download →
    Respects R (c.send purpose request)
  renew : c.config.credential.isRenewable = true → Respects R c.renew

namespace Keeps

variable {c : Client} {R : ClientState → ClientState → Prop} {α : Type}

theorem exchange (h : Keeps c R) {purpose : Purpose} (hp : purpose = .call ∨ purpose = .download)
    (subject : Subject) (request : Option Http.Request) :
    Respects R (c.exchange purpose subject request) :=
  exchange_respects h.toChains (fun request => h.send request hp) subject request

theorem validToken? (h : Keeps c R) : Respects R c.validToken? := by
  refine .bind h.toChains (.get h.toChains) fun s => ?_
  split
  · exact .pure h.toChains _
  · exact .bind h.toChains h.now fun now => .pure h.toChains _

theorem ensureOpen (h : Keeps c R) : Respects R ensureOpen := by
  refine .bind h.toChains (.get h.toChains) fun s => ?_
  split
  · exact .throw h.toChains _
  · exact .pure h.toChains _

theorem getTokenInTurn (h : Keeps c R) : Respects R c.getTokenInTurn := by
  refine .bind h.toChains h.ensureOpen fun _ => .bind h.toChains h.validToken? fun held => ?_
  cases held with
  | some token => exact .pure h.toChains _
  | none =>
    cases hc : c.config.credential.isRenewable with
    | true => exact h.renew hc
    | false =>
      refine .bind h.toChains (.get h.toChains) fun s => ?_
      rw [throw_bind]
      exact .throw h.toChains _

theorem getToken (h : Keeps c R) : Respects R c.getToken := by
  refine .bind h.toChains h.ensureOpen fun _ => .bind h.toChains h.validToken? fun held => ?_
  cases held with
  | some token => exact .pure h.toChains _
  | none => exact h.getTokenInTurn

theorem refreshAfterRejection (h : Keeps c R) (stale : SessionToken) :
    Respects R (c.refreshAfterRejection stale) := by
  refine .bind h.toChains h.ensureOpen fun _ => .bind h.toChains h.validToken? fun held => ?_
  split
  · exact .pure h.toChains _
  · cases hc : c.config.credential.isRenewable with
    | true => exact h.renew hc
    | false => exact .throw h.toChains _

theorem withToken (h : Keeps c R) {attempt : SessionToken → Action (Answer α)}
    (ha : ∀ token, Respects R (attempt token)) (operation : String) (retries : Nat) :
    Respects R (c.withToken operation retries attempt) := by
  have hR := h.toChains
  refine .bind hR h.getToken fun token => .bind hR (.retrying hR (ha token) retries) ?_
  rintro ⟨a | message, left⟩
  · exact .pure hR a
  · refine .bind hR (h.refreshAfterRejection token) fun token => ?_
    refine .bind hR (.retrying hR (ha token) left) ?_
    rintro ⟨a | message, -⟩
    · exact .pure hR a
    · exact .throw hR _

theorem callOnce (h : Keeps c R) (request : ApiRequest) (token : SessionToken) :
    Respects R (c.callOnce request token) :=
  .bind h.toChains (.ofExcept h.toChains _) fun _ =>
    .bind h.toChains (h.exchange (.inl rfl) _ _) fun _ =>
      .bind h.toChains (.ofExcept h.toChains _) fun _ => .ofExcept h.toChains _

theorem call (h : Keeps c R) (request : ApiRequest) : Respects R (c.call request) :=
  h.withToken (h.callOnce request) _ _

theorem openDownload (h : Keeps c R) (s : Subject) (url : String)
    (pairs : List (String × String)) : Respects R (c.openDownload s url pairs) := by
  have hR := h.toChains
  refine h.withToken (fun token => ?_) _ _
  exact .bind hR (h.exchange (.inr rfl) _ _) fun r => .ofExcept hR _

theorem attemptWith (h : Keeps c R) (request : ApiRequest) {look : Action SessionToken}
    (hlook : Respects R look) (retries : Nat) (renewed : Bool) (s : ClientState) :
    R s ((c.attemptWith request look retries renewed).run s).2 := by
  have hl := hlook s
  rw [attemptWith_run]
  revert hl
  rcases look.runFrom s with ⟨e | token, t⟩
  · exact id
  · exact fun hl => h.trans hl (h.callOnce request token t)

theorem advance (h : Keeps c R) (request : ApiRequest) (stage : CallStage) (s : ClientState) :
    R s ((c.advance request stage).run s).2 := by
  cases stage with
  | waiting => exact h.attemptWith request h.getToken _ _ s
  | trying token retries renewed => exact h.callOnce request token s
  | rejected token retries => exact h.attemptWith request (h.refreshAfterRejection token) _ _ s
  | ended r => exact h.refl s

theorem advanceItem (h : Keeps c R) (stage : ItemStage) (s : ClientState) :
    R s ((c.advanceItem stage).run s).2 := by
  cases stage with
  | fresh m => exact h.refl s
  | posting m call => exact h.advance (postRequest m) call s
  | linking memo attachments call => exact h.advance (linkRequest memo attachments) call s
  | ended outcome => exact h.refl s

theorem createMemosBatch (h : Keeps c R) (memos : List NewMemo) (s : ClientState) :
    R s ((c.createMemosBatch memos).run s).2 := by
  obtain ⟨runs, hruns, -⟩ := createMemosBatch_runs c memos s
  exact hruns.respects h.advanceItem h.toChains

theorem keepsCalls (h : Keeps c R) : KeepsCalls c R where
  toChains := h.toChains
  call := h.call
  openDownload := h.openDownload
  getToken := h.getToken
  refreshAfterRejection := h.refreshAfterRejection

theorem perform (h : Keeps c R) {op : Operation} (hop : op.givesUp = false)
    (hlogin : ∀ credential, op = .authenticate credential →
      Respects R (c.authenticate credential)) : Respects R (op.perform c) :=
  h.keepsCalls.perform hop hlogin fun memos _ => h.createMemosBatch memos

end Keeps

-- ---------------------------------------------------------------------------
-- Operations one after another
-- ---------------------------------------------------------------------------

def after (c : Client) (s : ClientState) (op : Operation) : ClientState :=
  ((op.perform c).runFrom s).2

/-- A relation that giving the token up respects too is respected by every operation. -/
theorem KeepsCalls.after {c : Client} {R : ClientState → ClientState → Prop}
    (h : KeepsCalls c R) (op : Operation)
    (hlogin : ∀ credential, op = .authenticate credential → Respects R (c.authenticate credential))
    (hbatch : ∀ memos, op = .createMemosBatch memos →
      ∀ s, R s ((c.createMemosBatch memos).run s).2)
    (hsignOut : Respects R c.signOut) (hclose : Respects R close) (s : ClientState) :
    R s (c.after s op) := by
  cases hop : op.givesUp with
  | false => exact h.perform hop hlogin hbatch s
  | true =>
    cases op with
    | signOut => exact hsignOut s
    | close => exact hclose s
    | _ => cases hop

theorem Keeps.after {c : Client} {R : ClientState → ClientState → Prop} (h : Keeps c R)
    (op : Operation)
    (hlogin : ∀ credential, op = .authenticate credential → Respects R (c.authenticate credential))
    (hsignOut : Respects R c.signOut) (hclose : Respects R close) (s : ClientState) :
    R s (c.after s op) :=
  h.keepsCalls.after op hlogin (fun memos _ => h.createMemosBatch memos) hsignOut hclose s

/-- The state that operations leave which are asked for one after another. -/
def afterAll (c : Client) (s : ClientState) (ops : List Operation) : ClientState :=
  ops.foldl c.after s

/-- What holds at first and after every operation holds in the end. -/
theorem afterAll_induction {c : Client} {P : ClientState → Prop} {s : ClientState}
    (hs : P s) (hop : ∀ op t, P t → P (c.after t op)) (ops : List Operation) :
    P (c.afterAll s ops) := by
  induction ops generalizing s with
  | nil => exact hs
  | cons op ops ih => exact ih (hop op s hs)

end Client

end RemoteNotes
