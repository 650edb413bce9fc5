import RemoteNotes.Proofs.Creation

/-!
# Errors after a memo was created

A memo may exist although its creation failed: what is sent after it was posted can fail too.
The error names the memo if the last attempt fell short of an answer. It names nothing if the
server rejected the token, if there was no token, or if the answer makes no sense
(`resource_of_created`).
-/

namespace RemoteNotes

/-- All of a reply came, and it says that the request was done. -/
def Exchange.isDone (x : Exchange) : Bool := x.reply.whole?.any (·.isSuccess)

namespace Client

open RemoteNotes.Action (runFrom runFrom_bind)

variable {c : Client} {s t : ClientState} {request : ApiRequest} {token : SessionToken} {e : Error}

-- ---------------------------------------------------------------------------
-- Errors of attempts
-- ---------------------------------------------------------------------------

theorem answer_error {subject : Subject} {r : Http.Response} {body : String}
    (h : answer subject r body = .error e) :
    e.resource? = if r.isSuccess then none else subject.resource := by
  unfold answer at h
  split at h
  · cases h
  cases hsuccess : r.isSuccess with
  | false =>
    simp only [hsuccess, Bool.not_false, ↓reduceIte, Except.error.injEq] at h
    subst h
    rfl
  | true =>
    simp only [hsuccess, Bool.not_true, Bool.false_eq_true, ↓reduceIte] at h
    unfold decodeBody at h
    split at h
    · cases h
    · rcases hparse : Json.parse body with fault | v <;> rw [hparse] at h <;> cases h
      rfl

theorem meaning_error {subject : Subject} {message : Http.Request} {reply : Http.Reply}
    (h : c.meaning subject message reply = .error e) :
    e.resource? = if reply.whole?.any (·.isSuccess) then none else subject.resource := by
  cases reply with
  | lost => cases h; rfl
  | timedOut => cases h; rfl
  | answered r =>
    cases hend : r.ending with
    | complete =>
      have hwhole : (Http.Reply.answered r).whole? = some r := by simp [Http.Reply.whole?, hend]
      rw [meaning_whole hwhole] at h
      rw [hwhole, Option.any_some]
      exact answer_error h
    | cutShort =>
      simp only [meaning, response, bodyText, hend, bind, Except.bind, Except.error.injEq] at h
      subst h
      simp [Http.Reply.whole?, hend, transportError, Error.resource?]
    | stalled =>
      simp only [meaning, response, bodyText, hend, bind, Except.bind, Except.error.injEq] at h
      subst h
      simp [Http.Reply.whole?, hend, timeoutError, Error.resource?]

/-- The try failed, and not over a reply that tells of success. -/
def Try.fellShort (t : Try (Answer Json)) : Bool :=
  match t.result with
  | .error _ => !t.sent.any (·.isDone)
  | .ok _ => false

theorem Try.fellShort_of_ok {t : Try (Answer Json)} {a : Answer Json} (h : t.result = .ok a) :
    t.fellShort = false := by
  unfold fellShort
  rw [h]

/-- A try that fell short tells the resource of the request, and one that failed otherwise
tells none. -/
def Try.NamesResource (request : ApiRequest) (t : Try (Answer Json)) : Prop :=
  ∀ e, t.result = .error e → e.resource? = if t.fellShort then request.resource else none

theorem callOnce_namesResource (hbody : ∀ upload, request.body ≠ .upload upload)
    {r : Except Error (Answer Json)} (h : (c.callOnce request token).runFrom s = (r, t)) :
    Try.NamesResource request ⟨s, r, t⟩ := by
  have hpayload : ∃ payload, c.payload request.body = .ok payload := by
    cases hrequest : request.body with
    | empty => exact ⟨_, rfl⟩
    | json v => exact ⟨_, rfl⟩
    | upload upload => exact absurd hrequest (hbody upload)
  obtain ⟨payload, hpayload⟩ := hpayload
  rintro e ⟨⟩
  cases hmessage : c.build? request.method (c.config.apiBaseUrl ++ "/" ++ request.path)
      request.query (some token.secret) payload with
  | none =>
    rw [callOnce_unsent hpayload hmessage] at h
    cases h
    simp [Try.fellShort, Try.sent, transportError, Error.resource?, ApiRequest.subject]
  | some message =>
    rw [callOnce_runFrom hpayload hmessage] at h
    obtain ⟨hmeaning, rfl⟩ := Prod.mk.inj h
    let x : Exchange := ⟨.call, message, c.replyTo s message, s.token⟩
    have hsent : Try.sent ⟨s, (.error e : Except Error (Answer Json)), s.record x⟩ = [x] :=
      Try.sent_eq rfl
    rw [meaning_error hmeaning, Try.fellShort, hsent]
    simp only [List.any_cons, List.any_nil, Bool.or_false, Exchange.isDone, ApiRequest.subject, x]
    cases (c.replyTo s message).whole?.any (·.isSuccess) <;> rfl

-- ---------------------------------------------------------------------------
-- Errors of calls
-- ---------------------------------------------------------------------------

section

variable {tries : List (Try (Answer Json))} {left : Nat}

theorem settle_error {operation : String} {failures : Nat} {last : Try (Answer Json)}
    {r : Except Error (Answer Json × Nat)} (hend : EndsLike left failures last r)
    (hlast : last.NamesResource request) (he : settle operation r = .error e) :
    e.resource? = if last.fellShort then request.resource else none := by
  rcases r with e' | ⟨v | message, rest⟩
  · cases he
    exact hlast e hend.1
  · cases he
  · cases he
    rw [Try.fellShort_of_ok hend.1]
    rfl

theorem Tries.namesResource (hbody : ∀ upload, request.body ≠ .upload upload)
    {r : Except Error (Answer Json × Nat)}
    (h : Tries (c.callOnce request token) left s tries r t) :
    ∃ front last, tries = front ++ [last] ∧ EndsLike left front.length last r ∧
      last.NamesResource request := by
  have hall := h.forall_mem (P := Try.NamesResource request)
    fun _ _ _ hrun => callOnce_namesResource hbody hrun
  obtain ⟨front, last, rfl, -, hend⟩ := h.shape
  exact ⟨front, last, rfl, hend, hall last (by simp)⟩

end

/-- The error of a call tells the resource of the request where the last attempt fell short,
and nowhere else. -/
theorem TokenedRun.resource?_eq (hbody : ∀ upload, request.body ≠ .upload upload)
    {retries renewals : Nat} {first second : List (Try (Answer Json))}
    (h : TokenedRun c request.operation retries (c.callOnce request) s first second renewals
      (.error e) t) :
    e.resource? =
      if (first ++ second).getLast?.any (·.fellShort) then request.resource else none := by
  generalize hr : (.error e : Except Error Json) = r at h
  cases h with
  | noToken hget =>
    cases hr
    obtain ⟨_, _, _, rfl⟩ := getToken_error hget
    rfl
  | settled _ htries _ =>
    obtain ⟨front, last, rfl, hend, hlast⟩ := htries.namesResource hbody
    rw [List.append_nil, List.getLast?_concat, Option.any_some]
    exact settle_error hend hlast hr.symm
  | notRenewed _ htries hrefresh =>
    cases hr
    obtain ⟨front, last, rfl, hend, -⟩ := htries.namesResource hbody
    obtain ⟨_, _, _, rfl⟩ := refreshAfterRejection_error hrefresh
    rw [List.append_nil, List.getLast?_concat, Option.any_some, Try.fellShort_of_ok hend.1]
    rfl
  | renewed _ _ _ htries =>
    obtain ⟨front, last, rfl, hend, hlast⟩ := htries.namesResource hbody
    rw [← List.append_assoc, List.getLast?_concat, Option.any_some]
    exact settle_error hend hlast hr.symm

theorem TokenedRun.fellShort_of_ok (hbody : ∀ upload, request.body ≠ .upload upload)
    {retries renewals : Nat} {first second : List (Try (Answer Json))} {v : Json}
    (h : TokenedRun c request.operation retries (c.callOnce request) s first second renewals
      (.ok v) t) :
    (first ++ second).getLast?.any (·.fellShort) = false := by
  generalize hr : (.ok v : Except Error Json) = r at h
  cases h with
  | noToken => cases hr
  | notRenewed => cases hr
  | settled _ htries _ =>
    obtain ⟨left, rfl⟩ := settle_eq_ok.mp hr.symm
    obtain ⟨front, last, rfl, hend, -⟩ := htries.namesResource hbody
    rw [List.append_nil, List.getLast?_concat, Option.any_some, Try.fellShort_of_ok hend.1]
  | renewed _ _ _ htries =>
    obtain ⟨left, rfl⟩ := settle_eq_ok.mp hr.symm
    obtain ⟨front, last, rfl, hend, -⟩ := htries.namesResource hbody
    rw [← List.append_assoc, List.getLast?_concat, Option.any_some, Try.fellShort_of_ok hend.1]

-- ---------------------------------------------------------------------------
-- Errors of creations
-- ---------------------------------------------------------------------------

/-- A memo that was posted: what was sent, what the server made of it, and the state then. -/
def posted? (c : Client) (m : NewMemo) (s : ClientState) :
    Option (PreparedMemo × Memo × ClientState) :=
  match m.prepare with
  | .error _ => none
  | .ok prepared =>
    match (c.postMemo prepared).runFrom s with
    | (.error _, _) => none
    | (.ok created, t) => some (prepared, created, t)

theorem posted?_eq_some {m : NewMemo} {prepared : PreparedMemo} {created : Memo} :
    c.posted? m s = some (prepared, created, t) ↔
      m.prepare = .ok prepared ∧ (c.postMemo prepared).runFrom s = (.ok created, t) := by
  unfold posted?
  rcases m.prepare with fault | prepared'
  · simp
  · simp only [Except.ok.injEq]
    rcases hpost : (c.postMemo prepared').runFrom s with ⟨e | created', t'⟩
    · simp only [reduceCtorEq, false_iff, not_and]
      rintro rfl
      simp [hpost]
    · simp only [Option.some.injEq, Prod.mk.injEq]
      constructor
      · rintro ⟨rfl, rfl, rfl⟩
        exact ⟨rfl, hpost⟩
      · rintro ⟨rfl, h⟩
        cases hpost.symm.trans h
        exact ⟨rfl, rfl, rfl⟩

/-- The calls after a memo was posted, with the states that they start from. -/
inductive LaterCall (c : Client) (created : MemoName) (attachments : List AttachmentName)
    (s : ClientState) : ApiRequest → ClientState → Prop
  | link : LaterCall c created attachments s (linkRequest created attachments) s
  | read {v t} : (c.call (linkRequest created attachments)).runFrom s = (.ok v, t) →
    LaterCall c created attachments s (readRequest created) t

theorem LaterCall.noUpload {created : MemoName} {attachments : List AttachmentName}
    {before : ClientState} (h : LaterCall c created attachments s request before)
    (upload : AttachmentUpload) : request.body ≠ .upload upload := by
  cases h with
  | link => exact fun hbody => by cases hbody
  | read => exact fun hbody => by cases hbody

theorem LaterCall.resource {created : MemoName} {attachments : List AttachmentName}
    {before : ClientState} (h : LaterCall c created attachments s request before) :
    request.resource = some created.text := by
  cases h <;> rfl

/-- How a creation failed after the memo was posted: in which call, and what the error tells. -/
structure LaterFailure (c : Client) (created : MemoName) (attachments : List AttachmentName)
    (s : ClientState) (e : Error) (t : ClientState) (request : ApiRequest) (before : ClientState)
    (attempts : List (Try (Answer Json))) : Prop where
  later : LaterCall c created attachments s request before
  run : ∃ first second renewals r, attempts = first ++ second ∧
    TokenedRun c request.operation (c.retriesFor request) (c.callOnce request) before
      first second renewals r t
  resource : e.resource? =
    if attempts.getLast?.any (·.fellShort) then some created.text else none

theorem laterFailure_of_call {created : MemoName} {attachments : List AttachmentName}
    {before : ClientState} (hlater : LaterCall c created attachments s request before)
    (h : (c.call request).runFrom before = (.error e, t)) :
    ∃ attempts, LaterFailure c created attachments s e t request before attempts := by
  obtain ⟨first, second, renewals, hrun⟩ :=
    withToken_run c request.operation (c.retriesFor request) (c.callOnce request) before
  unfold call at h
  rw [h] at hrun
  refine ⟨first ++ second, hlater, ⟨first, second, renewals, _, rfl, hrun⟩, ?_⟩
  rw [← hlater.resource]
  exact hrun.resource?_eq hlater.noUpload

theorem laterFailure_of_read {created : MemoName} {attachments : List AttachmentName}
    {before : ClientState}
    (hlater : LaterCall c created attachments s (readRequest created) before)
    (h : (c.fetch (readRequest created) : Action Memo).runFrom before = (.error e, t)) :
    ∃ attempts, LaterFailure c created attachments s e t (readRequest created) before attempts := by
  rw [fetch_runFrom] at h
  rcases hread : (c.call (readRequest created)).runFrom before with ⟨e' | v, u⟩ <;> rw [hread] at h
  · cases h
    exact laterFailure_of_call hlater hread
  · -- the reply came, and it shows no memo
    obtain ⟨first, second, renewals, hrun⟩ := withToken_run c (readRequest created).operation
      (c.retriesFor (readRequest created)) (c.callOnce (readRequest created)) before
    unfold call at hread
    rw [hread] at hrun
    rcases hmemo : (WireModel.ofWire v : Except ValidationError Memo) with fault | memo
    · simp only [Except.bind, hmemo, mapError_error, Prod.mk.injEq, Except.error.injEq] at h
      obtain ⟨rfl, rfl⟩ := h
      refine ⟨first ++ second, hlater, ⟨first, second, renewals, _, rfl, hrun⟩, ?_⟩
      rw [hrun.fellShort_of_ok hlater.noUpload]
      rfl
    · simp [Except.bind, hmemo, mapError_ok] at h

theorem createMemo_of_posted {m : NewMemo} {prepared : PreparedMemo} {created : Memo}
    (hattachments : m.attachments ≠ []) (hposted : c.posted? m s = some (prepared, created, t)) :
    (c.createMemo m).runFrom s =
      match (c.linkAttachments created.name prepared.attachments).runFrom t with
      | (.error e, u) => (.error e, u)
      | (.ok (), u) => (c.getMemo created.name.text).runFrom u := by
  obtain ⟨hprepare, hpost⟩ := posted?_eq_some.mp hposted
  have hsome : prepared.attachments.isEmpty = false := by
    have hnames := NewMemo.prepare_attachments hprepare
    rw [List.isEmpty_eq_false_iff]
    intro hnone
    rw [hnone, List.map_nil, List.map_eq_nil_iff] at hnames
    exact hattachments hnames
  have hrun := createMemo_run c m s
  simp only [hprepare, hpost, hsome, Bool.false_eq_true, ↓reduceIte] at hrun
  exact hrun

/-- The memo that was posted is named by the error if the last attempt after it fell short, and
otherwise by nothing. -/
theorem resource_of_created (c : Client) (m : NewMemo) (s : ClientState) {prepared : PreparedMemo}
    {created : Memo} {t u : ClientState} {e : Error} (hattachments : m.attachments ≠ [])
    (hposted : c.posted? m s = some (prepared, created, t))
    (hfailed : (c.createMemo m).runFrom s = (.error e, u)) :
    ∃ request before attempts,
      LaterFailure c created.name prepared.attachments t e u request before attempts := by
  rw [createMemo_of_posted hattachments hposted, linkAttachments_runFrom] at hfailed
  rcases hlink : (c.call (linkRequest created.name prepared.attachments)).runFrom t with
    ⟨e' | v, before⟩ <;> rw [hlink] at hfailed
  · cases hfailed
    exact ⟨_, _, laterFailure_of_call .link hlink⟩
  · simp only [Except.map, getMemo_runFrom] at hfailed
    exact ⟨_, _, laterFailure_of_read (.read hlink) hfailed⟩

/-- The name of a memo whose attachments could not be linked, and what the error tells. -/
def linkFailure? (c : Client) (m : NewMemo) (s : ClientState) : Option (String × Option String) :=
  match c.posted? m s with
  | none => none
  | some (prepared, created, t) =>
    match ((c.linkAttachments created.name prepared.attachments).runFrom t).1 with
    | .error e => some (created.name.text, e.resource?)
    | .ok () => none

theorem createMemo_of_linkFailure {m : NewMemo} {name : String} {resource : Option String}
    (hattachments : m.attachments ≠ []) (h : c.linkFailure? m s = some (name, resource)) :
    ∃ prepared created t e u, c.posted? m s = some (prepared, created, t) ∧
      created.name.text = name ∧ (c.createMemo m).runFrom s = (.error e, u) ∧
      e.resource? = resource := by
  unfold linkFailure? at h
  rcases hposted : c.posted? m s with _ | ⟨prepared, created, t⟩ <;> simp only [hposted] at h
  · cases h
  · rcases hlink : (c.linkAttachments created.name prepared.attachments).runFrom t with
      ⟨e | _, u⟩ <;> rw [hlink] at h <;> cases h
    refine ⟨prepared, created, t, e, u, rfl, rfl, ?_, rfl⟩
    rw [createMemo_of_posted hattachments hposted, hlink]

/-- A server that makes a memo of whatever is posted, and gives one reply to all else. -/
def keeping (reply : Http.Reply) (_ : List Http.Request) (request : Http.Request) : Http.Reply :=
  if request.method = .post then showing "memos/1" else reply

/-- The error names the memo if the server knows nothing of it by then. -/
theorem named_when_missing :
    let c := facing (.token "key") (keeping (.answered ⟨404, [], [], .complete⟩))
    let m : NewMemo := { content := "hello", attachments := ["attachments/2"] }
    ∃ prepared created t e u, e.resource? = some "memos/1" ∧
      c.posted? m c.start = some (prepared, created, t) ∧ ∃ request before attempts,
        LaterFailure c created.name prepared.attachments t e u request before attempts := by
  intro c m
  have hlink : c.linkFailure? m c.start = some ("memos/1", some "memos/1") := by decide +kernel
  obtain ⟨prepared, created, t, e, u, hposted, -, hfailed, hnamed⟩ :=
    createMemo_of_linkFailure (by decide) hlink
  exact ⟨prepared, created, t, e, u, hnamed, hposted,
    resource_of_created c m c.start (by decide) hposted hfailed⟩

/-- The server rejects the token by then, and the error names nothing, though the memo was
created. -/
theorem unnamed_though_created :
    let c := facing (.token "key") (keeping (.answered ⟨401, [], [], .complete⟩))
    let m : NewMemo := { content := "hello", attachments := ["attachments/2"] }
    ∃ prepared created t e u, c.posted? m c.start = some (prepared, created, t) ∧
      created.name.text = "memos/1" ∧ (c.createMemo m).runFrom c.start = (.error e, u) ∧
      e.resource? = none :=
  createMemo_of_linkFailure (by decide) (by decide +kernel)

end Client

end RemoteNotes
