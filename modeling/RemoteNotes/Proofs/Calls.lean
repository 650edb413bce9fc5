import Mathlib.Data.List.Basic
import RemoteNotes.Proofs.Attempts

/-!
# Calls

An attempt of a call sends at most one request, and what comes of it is decided by the reply
(`callOnce_outcome`). A call sends what its attempts send, logins aside, and there are as few
of them as `WithinBounds` says.
-/

namespace RemoteNotes

/-- The reply, if all of it arrived. -/
def Http.Reply.whole? : Reply → Option Response
  | .answered r => if r.ending = .complete then some r else none
  | _ => none

/-- All of a reply came, and it says that the token is not accepted. -/
def Exchange.isRejected (x : Exchange) : Bool := x.reply.whole?.any (·.isUnauthorized)

/-- All of a reply came, and it brings a value. -/
def Exchange.Delivers (x : Exchange) (operation : String) (v : Json) : Prop :=
  ∃ reply, x.reply.whole? = some reply ∧ reply.isSuccess = true ∧
    Client.decodeBody operation (Text.Utf8.toStringLossy reply.body) = .ok v

namespace Client

open RemoteNotes.Action (Chains Respects runFrom runFrom_bind)

variable {c : Client} {request : ApiRequest} {token : SessionToken}

-- ---------------------------------------------------------------------------
-- One attempt
-- ---------------------------------------------------------------------------

/-- What is sent for a call with a token. -/
structure IsCall (c : Client) (request : ApiRequest) (token : SessionToken) (x : Exchange) :
    Prop where
  purpose : x.purpose = .call
  message : ∃ payload, c.payload request.body = .ok payload ∧
    c.build? request.method (c.config.apiBaseUrl ++ "/" ++ request.path) request.query
      (some token.secret) payload = some x.request

theorem build?_eq_some {method : Method} {url : String} {pairs : List (String × String)}
    {secret : Option String} {payload : Option Payload} {message : Http.Request}
    (h : c.build? method url pairs secret payload = some message) :
    message.method = method ∧ message.body = (payload.map Payload.content).getD [] ∧
      ∃ parsed, Http.Url.parse? url = some parsed ∧ message.url = parsed.withPairs pairs := by
  unfold build? at h
  cases hurl : Http.Url.parse? url with
  | none => simp [hurl] at h
  | some parsed =>
    simp only [hurl, bind, Option.bind] at h
    split at h
    · cases h
    · cases h
      exact ⟨rfl, rfl, parsed, rfl, rfl⟩

/-- The method, the address and the body of what is sent are those of the request. -/
theorem IsCall.onWire {x : Exchange} (h : IsCall c request token x) :
    x.request.method = request.method ∧
      (∃ url, Http.Url.parse? (c.config.apiBaseUrl ++ "/" ++ request.path) = some url ∧
        x.request.url = url.withPairs request.query) ∧
      ∀ v, request.body = .json v → x.request.body = Text.Utf8.ofString v.write := by
  obtain ⟨payload, hpayload, hmessage⟩ := h.message
  obtain ⟨hmethod, hbody, hurl⟩ := build?_eq_some hmessage
  refine ⟨hmethod, hurl, fun v hv => ?_⟩
  rw [hv] at hpayload
  cases hpayload
  exact hbody

/-- What an attempt of a call sends, and what comes of it. -/
inductive CallOutcome (c : Client) (request : ApiRequest) (token : SessionToken) :
    List Exchange → Except Error (Answer Json) → Prop
  | unsent {e} : CallOutcome c request token [] (.error e)
  | broken {x e} : IsCall c request token x → x.reply.whole? = none → e.isTransient = true →
    CallOutcome c request token [x] (.error e)
  | whole {x reply r} : IsCall c request token x → x.reply.whole? = some reply →
    r = answer request.subject reply (Text.Utf8.toStringLossy reply.body) →
    CallOutcome c request token [x] r

/-- What a reply to a call means, be it whole or not. -/
def meaning (c : Client) (s : Subject) (message : Http.Request) (reply : Http.Reply) :
    Except Error (Answer Json) := do
  let r ← c.response s message reply
  let body ← c.bodyText s r
  answer s r body

theorem received_whole (c : Client) (s : Subject) (message : Http.Request) {reply : Http.Reply}
    {r : Http.Response} (h : reply.whole? = some r) :
    c.response s message reply = .ok r ∧ c.bodyText s r = .ok (Text.Utf8.toStringLossy r.body) := by
  cases reply with
  | answered r' =>
    simp only [Http.Reply.whole?, Option.ite_none_right_eq_some, Option.some.injEq] at h
    obtain ⟨hend, rfl⟩ := h
    exact ⟨rfl, by rw [bodyText, hend]⟩
  | _ => cases h

/-- A reply that did not come whole is a failure that may pass, and its status is forgotten. -/
theorem received_broken (c : Client) (s : Subject) (message : Http.Request) {reply : Http.Reply}
    (h : reply.whole? = none) : ∃ e, e.isTransient = true ∧ e.status? = none ∧
      (c.response s message reply = .error e ∨
        ∃ r, c.response s message reply = .ok r ∧ c.bodyText s r = .error e) := by
  cases reply with
  | lost => exact ⟨_, rfl, rfl, .inl rfl⟩
  | timedOut => exact ⟨_, rfl, rfl, .inl rfl⟩
  | answered r =>
    simp only [Http.Reply.whole?, ite_eq_right_iff, reduceCtorEq, imp_false] at h
    cases hend : r.ending with
    | complete => exact absurd hend h
    | cutShort => exact ⟨transportError s .receiving, rfl, rfl, .inr ⟨r, rfl, by rw [bodyText, hend]⟩⟩
    | stalled => exact ⟨c.timeoutError s, rfl, rfl, .inr ⟨r, rfl, by rw [bodyText, hend]⟩⟩

theorem meaning_whole {s : Subject} {message : Http.Request} {reply : Http.Reply}
    {r : Http.Response} (h : reply.whole? = some r) :
    c.meaning s message reply = answer s r (Text.Utf8.toStringLossy r.body) := by
  obtain ⟨hresponse, hbody⟩ := received_whole c s message h
  simp only [meaning, hresponse, hbody, bind, Except.bind]

theorem meaning_broken (c : Client) (s : Subject) (message : Http.Request) {reply : Http.Reply}
    (h : reply.whole? = none) :
    ∃ e, c.meaning s message reply = .error e ∧ e.isTransient = true := by
  obtain ⟨e, htransient, -, hresponse | ⟨r, hresponse, hbody⟩⟩ := received_broken c s message h
  · exact ⟨e, by simp only [meaning, hresponse, bind, Except.bind], htransient⟩
  · exact ⟨e, by simp only [meaning, hresponse, hbody, bind, Except.bind], htransient⟩

theorem exchange_runFrom (c : Client) (purpose : Purpose) (s : Subject) (message : Http.Request)
    (st : ClientState) : (c.exchange purpose s (some message)).runFrom st =
      (c.response s message (c.replyTo st message),
        st.record ⟨purpose, message, c.replyTo st message, st.token⟩) := by
  rw [exchange, runFrom_bind, send_runFrom]
  rfl

theorem answered_runFrom (c : Client) (s : Subject) (message : Http.Request) (st : ClientState) :
    (c.exchange .call s (some message) >>= fun r => do
      let body ← Action.ofExcept (c.bodyText s r)
      Action.ofExcept (answer s r body)).runFrom st =
    (c.meaning s message (c.replyTo st message),
      st.record ⟨.call, message, c.replyTo st message, st.token⟩) := by
  rw [runFrom_bind, exchange_runFrom]
  unfold meaning
  rcases c.response s message (c.replyTo st message) with e | r
  · rfl
  · simp only [bind, Except.bind]
    rcases c.bodyText s r with e | body <;> rfl

theorem meaning_outcome {x : Exchange} (hx : IsCall c request token x) :
    CallOutcome c request token [x] (c.meaning request.subject x.request x.reply) := by
  cases hreply : x.reply.whole? with
  | none =>
    obtain ⟨e, he, htransient⟩ := meaning_broken c request.subject x.request hreply
    rw [he]
    exact .broken hx hreply htransient
  | some r => exact .whole hx hreply (meaning_whole hreply)

/-- An attempt fails at once if there is nothing to send. -/
theorem callOnce_unmade {e : Error} (hpayload : c.payload request.body = .error e)
    (token : SessionToken) (s : ClientState) :
    (c.callOnce request token).runFrom s = (.error e, s) := by
  rw [callOnce, runFrom_bind, Action.runFrom_ofExcept, hpayload]

section

variable {payload : Option Payload} (hpayload : c.payload request.body = .ok payload)

include hpayload

theorem callOnce_runFrom {message : Http.Request}
    (hmessage : c.build? request.method (c.config.apiBaseUrl ++ "/" ++ request.path) request.query
      (some token.secret) payload = some message) (s : ClientState) :
    (c.callOnce request token).runFrom s =
      (c.meaning request.subject message (c.replyTo s message),
        s.record ⟨.call, message, c.replyTo s message, s.token⟩) := by
  rw [callOnce, runFrom_bind, Action.runFrom_ofExcept, hpayload]
  simp only [hmessage]
  exact answered_runFrom c request.subject message s

theorem callOnce_unsent
    (hmessage : c.build? request.method (c.config.apiBaseUrl ++ "/" ++ request.path) request.query
      (some token.secret) payload = none) (s : ClientState) :
    (c.callOnce request token).runFrom s =
      (.error (transportError request.subject .building), s) := by
  rw [callOnce, runFrom_bind, Action.runFrom_ofExcept, hpayload]
  simp only [hmessage]
  rfl

end

/-- An attempt sends one request, or none if there is nothing that can be sent. -/
theorem callOnce_cases (c : Client) (request : ApiRequest) (token : SessionToken)
    (s : ClientState) :
    (∃ e, (c.callOnce request token).runFrom s = (.error e, s)) ∨
      ∃ x, IsCall c request token x ∧ x.held = s.token ∧
        (c.callOnce request token).runFrom s =
          (c.meaning request.subject x.request x.reply, s.record x) := by
  cases hpayload : c.payload request.body with
  | error e => exact .inl ⟨e, callOnce_unmade hpayload token s⟩
  | ok payload =>
    cases hmessage : c.build? request.method (c.config.apiBaseUrl ++ "/" ++ request.path)
      request.query (some token.secret) payload with
    | none => exact .inl ⟨_, callOnce_unsent hpayload hmessage s⟩
    | some message =>
      exact .inr ⟨⟨.call, message, c.replyTo s message, s.token⟩,
        ⟨rfl, payload, hpayload, hmessage⟩, rfl, callOnce_runFrom hpayload hmessage s⟩

theorem callOnce_outcome (c : Client) (request : ApiRequest) (token : SessionToken)
    (s : ClientState) :
    ∃ sent, CallOutcome c request token sent ((c.callOnce request token).runFrom s).1 ∧
      ((c.callOnce request token).runFrom s).2.exchanges = s.exchanges ++ sent := by
  rcases c.callOnce_cases request token s with ⟨e, hrun⟩ | ⟨x, hx, -, hrun⟩ <;> rw [hrun]
  · exact ⟨[], .unsent, (List.append_nil _).symm⟩
  · exact ⟨[x], meaning_outcome hx, rfl⟩

theorem answer_rejected {s : Subject} {r : Http.Response} {body message : String}
    (h : answer s r body = .ok (.rejected message)) : r.isUnauthorized = true := by
  unfold answer at h
  cases hu : r.isUnauthorized with
  | true => rfl
  | false =>
    simp only [hu, Bool.false_eq_true, ↓reduceIte] at h
    split at h
    · cases h
    · rcases hbody : decodeBody s.operation body with e | v <;> rw [hbody] at h <;> cases h

theorem answer_done {s : Subject} {r : Http.Response} {body : String} {v : Json}
    (h : answer s r body = .ok (.done v)) :
    r.isSuccess = true ∧ decodeBody s.operation body = .ok v := by
  unfold answer at h
  split at h
  · cases h
  · split at h
    · cases h
    · rename_i hsuccess
      rcases hbody : decodeBody s.operation body with e | v'
      · rw [hbody] at h; cases h
      · rw [hbody] at h; cases h
        exact ⟨by simpa using hsuccess, rfl⟩

/-- An attempt is rejected by a whole reply that says so, and by no other one. -/
theorem CallOutcome.wasRejected_eq {t : Try (Answer Json)} {sent : List Exchange}
    (h : CallOutcome c request token sent t.result) :
    t.wasRejected = sent.any (·.isRejected) := by
  obtain ⟨s, r, s'⟩ := t
  cases h with
  | unsent => rfl
  | broken _ hbroken => simp [Try.wasRejected, Exchange.isRejected, hbroken]
  | @whole x reply _ _ hreply hr =>
    simp only [List.any_cons, List.any_nil, Bool.or_false, Exchange.isRejected, hreply,
      Option.any_some]
    change r = _ at hr
    cases hu : reply.isUnauthorized with
    | true => simp [Try.wasRejected, hr, answer, hu]
    | false =>
      rcases r with e | v | message
      · rfl
      · rfl
      · cases hu.symm.trans (answer_rejected hr.symm)

theorem isUnauthorized_of_isSuccess {r : Http.Response} (h : r.isSuccess = true) :
    r.isUnauthorized = false := by
  simp only [Http.Response.isSuccess, Bool.and_eq_true, decide_eq_true_eq] at h
  simp only [Http.Response.isUnauthorized, beq_eq_false_iff_ne]
  omega

theorem answer_of_isSuccess {s : Subject} {r : Http.Response} {body : String} {v : Json}
    (hr : r.isSuccess = true) (hv : decodeBody s.operation body = .ok v) :
    answer s r body = .ok (.done v) := by
  simp [answer, isUnauthorized_of_isSuccess hr, hr, hv, Except.map]

section

variable {sent : List Exchange} {r : Except Error (Answer Json)}

theorem CallOutcome.isCall (h : CallOutcome c request token sent r) :
    ∀ x ∈ sent, IsCall c request token x := by
  cases h with
  | unsent => exact List.forall_mem_nil _
  | broken hx => exact List.forall_mem_singleton.mpr hx
  | whole hx => exact List.forall_mem_singleton.mpr hx

theorem CallOutcome.one (h : CallOutcome c request token sent r) :
    sent = [] ∨ ∃ x, sent = [x] := by
  cases h with
  | unsent => exact .inl rfl
  | broken => exact .inr ⟨_, rfl⟩
  | whole => exact .inr ⟨_, rfl⟩

theorem CallOutcome.delivers {v : Json} (h : CallOutcome c request token sent (.ok (.done v))) :
    ∃ x, sent = [x] ∧ x.Delivers request.operation v := by
  cases h with
  | whole _ hreply hr =>
    obtain ⟨hsuccess, hbody⟩ := answer_done hr.symm
    exact ⟨_, rfl, _, hreply, hsuccess, hbody⟩

/-- What a reply brought is what the attempt gives. -/
theorem CallOutcome.of_delivers (h : CallOutcome c request token sent r) {x : Exchange}
    (hx : x ∈ sent) {v : Json} (hv : x.Delivers request.operation v) : r = .ok (.done v) := by
  obtain ⟨reply, hreply, hsuccess, hbody⟩ := hv
  cases h with
  | unsent => cases hx
  | broken _ hbroken =>
    cases List.mem_singleton.mp hx
    cases hbroken.symm.trans hreply
  | whole _ hreply' hr =>
    cases List.mem_singleton.mp hx
    cases hreply'.symm.trans hreply
    exact hr.trans (answer_of_isSuccess hsuccess hbody)

end

-- ---------------------------------------------------------------------------
-- What a call sends
-- ---------------------------------------------------------------------------

/-- The requests of calls that were sent on the way from one state to another. -/
def Called (s : ClientState) (xs : List Exchange) (t : ClientState) : Prop :=
  ∃ sent, t.exchanges = s.exchanges ++ sent ∧ sent.filter (·.purpose = .call) = xs

theorem called_nil {s t : ClientState} (h : t.exchanges = s.exchanges) : Called s [] t :=
  ⟨[], by rw [h, List.append_nil], rfl⟩

theorem Called.trans {s t u : ClientState} {xs ys : List Exchange} (h : Called s xs t)
    (k : Called t ys u) : Called s (xs ++ ys) u := by
  obtain ⟨first, ht, rfl⟩ := h
  obtain ⟨rest, hu, rfl⟩ := k
  exact ⟨first ++ rest, by rw [hu, ht, List.append_assoc], List.filter_append ..⟩

theorem Called.eq {s t : ClientState} {xs : List Exchange} (h : Called s xs t) :
    (t.exchanges.drop s.exchanges.length).filter (·.purpose = .call) = xs := by
  obtain ⟨sent, ht, rfl⟩ := h
  rw [ht, List.drop_left]

theorem called_chains : Chains fun s t => Called s [] t :=
  ⟨fun _ => called_nil rfl, fun h k => h.trans k⟩

theorem called_renew (c : Client) : Respects (fun s t => Called s [] t) c.renew :=
  renew_respects called_chains (fun _ => called_nil rfl) (fun _ _ => ⟨[_], rfl, rfl⟩)
    fun _ _ => called_nil rfl

theorem TokenRun.called {usable : SessionToken → Bool} {refusal : Error} {s t : ClientState}
    {r : Except Error SessionToken} (h : TokenRun c usable refusal s r t) : Called s [] t :=
  h.respects called_chains (fun _ _ => called_nil rfl) (called_renew c)

namespace Try

def sent {β : Type} (t : Try β) : List Exchange := t.after.exchanges.drop t.before.exchanges.length

theorem sent_eq {β : Type} {t : Try β} {xs : List Exchange}
    (h : t.after.exchanges = t.before.exchanges ++ xs) : t.sent = xs := by
  rw [sent, h, List.drop_left]

end Try

structure IsCallTry (c : Client) (request : ApiRequest) (token : SessionToken)
    (t : Try (Answer Json)) : Prop where
  outcome : CallOutcome c request token t.sent t.result
  called : Called t.before t.sent t.after

theorem isCallTry {s t : ClientState} {r : Except Error (Answer Json)}
    (h : (c.callOnce request token).runFrom s = (r, t)) : IsCallTry c request token ⟨s, r, t⟩ := by
  obtain ⟨sent, hout, hsent⟩ := callOnce_outcome c request token s
  rw [h] at hout hsent
  have hs : Try.sent ⟨s, r, t⟩ = sent := Try.sent_eq hsent
  refine ⟨hs ▸ hout, hs ▸ ⟨sent, hsent, ?_⟩⟩
  cases hout with
  | unsent => rfl
  | broken hx => simp [hx.purpose]
  | whole hx => simp [hx.purpose]

theorem Tries.isCall {left : Nat} {s s' : ClientState} {tries : List (Try (Answer Json))}
    {r : Except Error (Answer Json × Nat)}
    (h : Tries (c.callOnce request token) left s tries r s') :
    (∀ t ∈ tries, IsCallTry c request token t) ∧ Called s (tries.flatMap (·.sent)) s' := by
  induction h with
  | done hrun =>
    have ht := isCallTry hrun
    exact ⟨List.forall_mem_singleton.mpr ht, by simpa using ht.called⟩
  | failed hrun =>
    have ht := isCallTry hrun
    exact ⟨List.forall_mem_singleton.mpr ht, by simpa using ht.called⟩
  | again hrun _ _ ih =>
    have ht := isCallTry hrun
    exact ⟨List.forall_mem_cons.mpr ⟨ht, ih.1⟩, ht.called.trans ih.2⟩

/-- A call sends what is sent in its tries, logins aside. -/
theorem TokenedRun.called {operation : String} {retries : Nat} {s s' : ClientState}
    {first second : List (Try (Answer Json))} {renewals : Nat} {r : Except Error Json}
    (h : TokenedRun c operation retries (c.callOnce request) s first second renewals r s') :
    (∀ t ∈ first ++ second, ∃ token, IsCallTry c request token t) ∧
      Called s ((first ++ second).flatMap (·.sent)) s' := by
  have hsome {token : SessionToken} {tries : List (Try (Answer Json))}
      (h : ∀ t ∈ tries, IsCallTry c request token t) :
      ∀ t ∈ tries, ∃ token, IsCallTry c request token t := fun t ht => ⟨token, h t ht⟩
  cases h with
  | noToken hget => exact ⟨List.forall_mem_nil _, (getToken_cases hget).called⟩
  | settled hget htries =>
    obtain ⟨hall, hcalled⟩ := htries.isCall
    rw [List.append_nil]
    exact ⟨hsome hall, (getToken_cases hget).called.trans hcalled⟩
  | notRenewed hget htries hrefresh =>
    obtain ⟨hall, hcalled⟩ := htries.isCall
    rw [List.append_nil]
    refine ⟨hsome hall, ?_⟩
    have h := ((getToken_cases hget).called.trans hcalled).trans
      (refreshAfterRejection_cases hrefresh).called
    rwa [List.append_nil] at h
  | renewed hget htries hrefresh htries' =>
    obtain ⟨hall, hcalled⟩ := htries.isCall
    obtain ⟨hall', hcalled'⟩ := htries'.isCall
    refine ⟨List.forall_mem_append.mpr ⟨hsome hall, hsome hall'⟩, ?_⟩
    rw [List.flatMap_append]
    exact ((getToken_cases hget).called.trans hcalled).trans
      ((refreshAfterRejection_cases hrefresh).called.trans hcalled')

section

variable {left : Nat} {s s' : ClientState} {tries : List (Try (Answer Json))}

theorem Tries.delivers {v : Json} {rest : Nat}
    (h : Tries (c.callOnce request token) left s tries (.ok (.done v, rest)) s') :
    ∃ x ∈ (tries.flatMap (·.sent)).getLast?, x.Delivers request.operation v := by
  generalize hr : Except.ok (Answer.done v, rest) = r at h
  induction h with
  | done hrun =>
    cases hr
    obtain ⟨x, hsent, hv⟩ := (isCallTry hrun).outcome.delivers
    exact ⟨x, by simp [hsent], hv⟩
  | failed => cases hr
  | again _ _ _ ih =>
    obtain ⟨x, hx, hv⟩ := ih hr
    rw [List.flatMap_cons]
    exact ⟨x, List.mem_getLast?_append_of_mem_getLast? hx, hv⟩

/-- A reply that brings a value is the end of the tries. -/
theorem Tries.of_delivers {r : Except Error (Answer Json × Nat)}
    (h : Tries (c.callOnce request token) left s tries r s') {x : Exchange}
    (hx : x ∈ tries.flatMap (·.sent)) {v : Json} (hv : x.Delivers request.operation v) :
    ∃ rest, r = .ok (.done v, rest) := by
  induction h with
  | @done left s a s' hrun =>
    rw [List.flatMap_singleton] at hx
    cases (isCallTry hrun).outcome.of_delivers hx hv
    exact ⟨left, rfl⟩
  | failed hrun =>
    rw [List.flatMap_singleton] at hx
    cases (isCallTry hrun).outcome.of_delivers hx hv
  | again hrun _ _ ih =>
    rw [List.flatMap_cons, List.mem_append] at hx
    rcases hx with hx | hx
    · cases (isCallTry hrun).outcome.of_delivers hx hv
    · exact ih hx

end

section

variable {retries renewals : Nat} {s s' : ClientState} {first second : List (Try (Answer Json))}

theorem TokenedRun.delivers {v : Json}
    (h : TokenedRun c request.operation retries (c.callOnce request) s first second renewals
      (.ok v) s') :
    ∃ x ∈ ((first ++ second).flatMap (·.sent)).getLast?, x.Delivers request.operation v := by
  generalize hr : Except.ok v = r at h
  cases h with
  | noToken => cases hr
  | notRenewed => cases hr
  | settled _ htries =>
    obtain ⟨left, rfl⟩ := settle_eq_ok.mp hr.symm
    rw [List.append_nil]
    exact htries.delivers
  | renewed _ _ _ htries =>
    obtain ⟨left, rfl⟩ := settle_eq_ok.mp hr.symm
    obtain ⟨x, hx, hv⟩ := htries.delivers
    rw [List.flatMap_append]
    exact ⟨x, List.mem_getLast?_append_of_mem_getLast? hx, hv⟩

theorem TokenedRun.of_delivers {r : Except Error Json}
    (h : TokenedRun c request.operation retries (c.callOnce request) s first second renewals r s')
    {x : Exchange} (hx : x ∈ (first ++ second).flatMap (·.sent)) {v : Json}
    (hv : x.Delivers request.operation v) : r = .ok v := by
  rw [List.flatMap_append, List.mem_append] at hx
  cases h with
  | noToken => simp at hx
  | settled _ htries =>
    rcases hx with hx | hx
    · exact settle_eq_ok.mpr (htries.of_delivers hx hv)
    · cases hx
  | notRenewed _ htries =>
    rcases hx with hx | hx
    · obtain ⟨_, hr⟩ := htries.of_delivers hx hv
      cases hr
    · cases hx
  | renewed _ htries _ htries' =>
    rcases hx with hx | hx
    · obtain ⟨_, hr⟩ := htries.of_delivers hx hv
      cases hr
    · exact settle_eq_ok.mpr (htries'.of_delivers hx hv)

theorem Tries.eq_singleton {tries : List (Try (Answer Json))} {token : SessionToken}
    {r : Except Error (Answer Json × Nat)} (h : Tries (c.callOnce request token) 0 s tries r s') :
    ∃ t, tries = [t] ∧ IsCallTry c request token t ∧ EndsLike 0 0 t r := by
  obtain ⟨front, t, rfl, -, hend⟩ := h.shape
  have hnil : front = [] := List.length_eq_zero_iff.mp (Nat.le_zero.mp hend.le)
  subst hnil
  exact ⟨t, rfl, h.isCall.1 t (List.mem_singleton_self t), hend⟩

/-- Without retries, a request is sent again where the first one was rejected, and once. -/
theorem TokenedRun.sentOnce {r : Except Error Json}
    (h : TokenedRun c request.operation 0 (c.callOnce request) s first second renewals r s') :
    ((first ++ second).flatMap (·.sent)).length ≤ 2 ∧
      ∀ x ∈ ((first ++ second).flatMap (·.sent)).dropLast, x.isRejected = true := by
  have hone {t : Try (Answer Json)} {token : SessionToken} (ht : IsCallTry c request token t) :
      t.sent.length ≤ 2 ∧ ∀ x ∈ t.sent.dropLast, x.isRejected = true := by
    rcases ht.outcome.one with hx | ⟨x, hx⟩ <;> rw [hx]
    · exact ⟨Nat.zero_le 2, List.forall_mem_nil _⟩
    · exact ⟨Nat.le_succ 1, List.forall_mem_nil _⟩
  cases h with
  | noToken => exact ⟨Nat.zero_le 2, List.forall_mem_nil _⟩
  | settled _ htries =>
    obtain ⟨t, rfl, ht, -⟩ := htries.eq_singleton
    simpa using hone ht
  | notRenewed _ htries =>
    obtain ⟨t, rfl, ht, -⟩ := htries.eq_singleton
    simpa using hone ht
  | @renewed _ _ _ m left _ _ _ _ _ _ _ htries _ htries' =>
    -- the first try was rejected, so that what it sent was too
    obtain ⟨t, rfl, ht, hlast, hleft⟩ := htries.eq_singleton
    obtain rfl : left = 0 := by omega
    obtain ⟨t', rfl, ht', -⟩ := htries'.eq_singleton
    have hrejected : t.wasRejected = true := by simp [Try.wasRejected, hlast]
    rw [ht.outcome.wasRejected_eq] at hrejected
    rw [List.flatMap_append, List.flatMap_singleton, List.flatMap_singleton]
    rcases ht.outcome.one with hx | ⟨x, hx⟩ <;> rw [hx] at hrejected ⊢
    · cases hrejected
    have hx : x.isRejected = true := by simpa using hrejected
    rcases ht'.outcome.one with hy | ⟨y, hy⟩ <;> rw [hy]
    · exact ⟨Nat.le_succ 1, List.forall_mem_nil _⟩
    · exact ⟨Nat.le_refl 2, List.forall_mem_singleton.mpr hx⟩

end

/-- What the requests of a call have to do with its result. -/
structure CallTrace (c : Client) (request : ApiRequest) (sent : List Exchange)
    (r : Except Error Json) : Prop where
  isCall : ∀ x ∈ sent, ∃ token, IsCall c request token x
  delivers : ∀ v, r = .ok v → ∃ x ∈ sent.getLast?, x.Delivers request.operation v
  of_delivers : ∀ x ∈ sent, ∀ v, x.Delivers request.operation v → r = .ok v
  sentOnce : c.retriesFor request = 0 → sent.length ≤ 2 ∧ ∀ x ∈ sent.dropLast, x.isRejected = true

theorem call_trace (c : Client) (request : ApiRequest) (s : ClientState) :
    ∃ sent, CallTrace c request sent ((c.call request).runFrom s).1 ∧
      Called s sent ((c.call request).runFrom s).2 := by
  obtain ⟨first, second, renewals, hrun⟩ :=
    withToken_run c request.operation (c.retriesFor request) (c.callOnce request) s
  obtain ⟨htries, hcalled⟩ := hrun.called
  refine ⟨_, ⟨fun x hx => ?_, fun v hr => ?_, fun x hx v hv => ?_, fun hnone => ?_⟩, hcalled⟩
  · obtain ⟨t, ht, hx⟩ := List.mem_flatMap.mp hx
    obtain ⟨token, ht⟩ := htries t ht
    exact ⟨token, ht.outcome.isCall x hx⟩
  · unfold call at hr
    rw [hr] at hrun
    exact hrun.delivers
  · exact hrun.of_delivers hx hv
  · rw [hnone] at hrun
    exact hrun.sentOnce

-- ---------------------------------------------------------------------------
-- How much a call sends
-- ---------------------------------------------------------------------------

/-- A call comes to an end after a few attempts, each of which sends one request at most. -/
theorem call_within_bounds (c : Client) (request : ApiRequest) (s : ClientState)
    (h : 1 ≤ c.config.policy.retry.maxAttempts) :
    ∃ first second renewals,
      TokenedRun c request.operation (c.retriesFor request) (c.callOnce request) s
        first second renewals ((c.call request).runFrom s).1 ((c.call request).runFrom s).2 ∧
      WithinBounds request.operation c.config.policy.retry.maxAttempts
        (request.retry.allows request.method) (first ++ second) renewals
        ((c.call request).runFrom s).1 ∧
      (∀ t ∈ first ++ second, ∃ token, CallOutcome c request token t.sent t.result) ∧
      Called s ((first ++ second).flatMap (·.sent)) ((c.call request).runFrom s).2 := by
  obtain ⟨first, second, renewals, hrun⟩ :=
    withToken_run c request.operation (c.retriesFor request) (c.callOnce request) s
  obtain ⟨htries, hcalled⟩ := hrun.called
  refine ⟨first, second, renewals, hrun, hrun.withinBounds h, fun t ht => ?_, hcalled⟩
  obtain ⟨token, ht⟩ := htries t ht
  exact ⟨token, ht.outcome⟩

/-- Attempts send one request each at most. -/
theorem length_sent_le {attempts : List (Try (Answer Json))}
    (h : ∀ t ∈ attempts, ∃ token, CallOutcome c request token t.sent t.result) :
    (attempts.flatMap (·.sent)).length ≤ attempts.length := by
  induction attempts with
  | nil => exact Nat.le_refl 0
  | cons t attempts ih =>
    obtain ⟨⟨token, hout⟩, hrest⟩ := List.forall_mem_cons.mp h
    have hle := ih hrest
    rw [List.flatMap_cons, List.length_append, List.length_cons]
    rcases hout.one with hx | ⟨x, hx⟩ <;> rw [hx]
    · exact Nat.le_succ_of_le (by simpa using hle)
    · simpa [Nat.add_comm] using hle

/-- A reading call runs into all that it can survive: a lost connection, a rejection, and a server
that fails. It takes one attempt more than the policy allows for failures. -/
theorem attempts_of_troubled_call :
    let c := facing (.password "ada" "pw") (scripted
      [granting "old", .lost, plain 401, granting "new", plain 503, plain 200])
    let t := ((c.call (.make .get "get_memo" "memos/1")).runFrom c.start).2
    ∃ attempts : List (Try (Answer Json)), attempts.length = 4 ∧
      attempts.flatMap (·.sent) = t.exchanges.filter (·.purpose = .call) ∧
      (attempts.flatMap (·.sent)).map (·.request.authorization?) =
        [some "Bearer old", some "Bearer old", some "Bearer new", some "Bearer new"] := by
  intro c t
  obtain ⟨first, second, _, -, hbounds, houtcomes, hcalled⟩ :=
    call_within_bounds c (.make .get "get_memo" "memos/1") c.start (by decide)
  have hsent : (first ++ second).flatMap (·.sent) = t.exchanges.filter (·.purpose = .call) :=
    hcalled.eq.symm
  have hshown : (t.exchanges.filter (·.purpose = .call)).map (·.request.authorization?) =
      [some "Bearer old", some "Bearer old", some "Bearer new", some "Bearer new"] := by
    decide +kernel
  have hlength : (t.exchanges.filter (·.purpose = .call)).length = 4 := by
    simpa using congrArg List.length hshown
  have hmany := length_sent_le houtcomes
  rw [hsent, hlength] at hmany
  exact ⟨first ++ second, Nat.le_antisymm hbounds.few hmany, hsent, hsent ▸ hshown⟩

end Client

end RemoteNotes
