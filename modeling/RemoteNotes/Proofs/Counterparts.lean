import Mathlib.Data.List.Forall2
import RemoteNotes.Proofs.Downloads
import RemoteNotes.Proofs.Lockstep
import RemoteNotes.Proofs.Loops

/-!
# Downloads and calls

A download and a reading call go about it in the same way until the file or the answer is there.
In front of servers that give them the same replies, they make the same attempts with the same
tokens and the same logins in between, and they end with the same reply or with the same error
(`openDownload_alongside_call`).
-/

namespace RemoteNotes.Client

open List (Forall₂)
open RemoteNotes.Action (Lockstep runFrom runFrom_bind)

variable {c : Client} {server : List Http.Request → Http.Request → Http.Reply}

-- ---------------------------------------------------------------------------
-- What is compared
-- ---------------------------------------------------------------------------

/-- A download and a call that are compared with one another. -/
structure Twins where
  subject : Subject
  url : String
  pairs : List (String × String)
  request : ApiRequest

namespace Twins

def callUrl (c : Client) (w : Twins) : String := c.config.apiBaseUrl ++ "/" ++ w.request.path

/-- The addresses that connection failures tell of. -/
def address? (w : Twins) : Option String :=
  (Http.Url.parse? w.url).map fun url => (url.withPairs w.pairs).text

def callAddress? (c : Client) (w : Twins) : Option String :=
  (Http.Url.parse? (w.callUrl c)).map fun url => (url.withPairs w.request.query).text

end Twins

variable {w : Twins} {base s s' t t' : ClientState} {token : SessionToken}

/-- The request for a file, and that of the call with the same token. -/
structure ShowsSame (c : Client) (w : Twins) (token : SessionToken) (q q' : Http.Request) :
    Prop where
  file : c.build? .get w.url w.pairs (some token.secret) none = some q
  call : ∃ payload, c.payload w.request.body = .ok payload ∧
    c.build? w.request.method (w.callUrl c) w.request.query (some token.secret) payload = some q'

/-- Requests that stand for one another: logins for themselves, and attempts of the download for
those of the call. -/
inductive Meets (c : Client) (w : Twins) : Http.Request → Http.Request → Prop
  | login {body q} : c.loginRequest? body = some q → Meets c w q q
  | attempt {token q q'} : ShowsSame c w token q q' → Meets c w q q'

/-- What was sent in the place of one another, and was answered alike. -/
inductive Paired (c : Client) (w : Twins) : Exchange → Exchange → Prop
  | login {body x} : x.purpose = .login → c.loginRequest? body = some x.request → Paired c w x x
  | attempt {token q q' reply held} : ShowsSame c w token q q' →
    Paired c w ⟨.download, q, reply, held⟩ ⟨.call, q', reply, held⟩

theorem Paired.meets {x x' : Exchange} (h : Paired c w x x') : Meets c w x.request x'.request := by
  cases h with
  | login _ hmessage => exact .login hmessage
  | attempt hsame => exact .attempt hsame

/-- States that a download and a call got to from one state: they sent the same to the same
replies, and know the same. -/
structure Alongside (c : Client) (w : Twins) (base s s' : ClientState) : Prop where
  token : s'.token = s.token
  closed : s'.closed = s.closed
  readings : s'.readings = s.readings
  exchanges : ∃ sent sent', s.exchanges = base.exchanges ++ sent ∧
    s'.exchanges = base.exchanges ++ sent' ∧ Forall₂ (Paired c w) sent sent'

theorem Alongside.refl (c : Client) (w : Twins) (s : ClientState) : Alongside c w s s s :=
  ⟨rfl, rfl, rfl, [], [], (List.append_nil _).symm, (List.append_nil _).symm, .nil⟩

theorem Alongside.record {x x' : Exchange} (h : Alongside c w base s s') (hx : Paired c w x x') :
    Alongside c w base (s.record x) (s'.record x') := by
  obtain ⟨sent, sent', hs, hs', hsent⟩ := h.exchanges
  refine ⟨h.token, h.closed, h.readings, sent ++ [x], sent' ++ [x'], ?_, ?_, ?_⟩
  · rw [ClientState.record, hs, List.append_assoc]
  · rw [ClientState.record, hs', List.append_assoc]
  · exact List.rel_append hsent (.cons hx .nil)

/-- The call is a reading one and may be repeated, and from some state on its server answers what
the server of the download answers. -/
structure Concordant (c : Client) (server : List Http.Request → Http.Request → Http.Reply)
    (w : Twins) (base : ClientState) : Prop where
  method : w.request.method = .get
  retry : w.request.retry = .ifIdempotent
  payload : ∃ payload, c.payload w.request.body = .ok payload
  /-- Either both have an address to be sent to, or neither has. -/
  addresses : w.address?.isSome = (w.callAddress? c).isSome
  replies : ∀ sent sent' q q', Forall₂ (Meets c w) sent sent' → Meets c w q q' →
    server (base.exchanges.map (·.request) ++ sent') q' =
      c.world.server (base.exchanges.map (·.request) ++ sent) q
  /-- A body that began to arrive arrives as a whole. -/
  whole : ∀ past q r, c.world.server past q = .answered r → r.ending = .complete

theorem Meets.method {q q' : Http.Request} (h : Meets c w q q') (hget : w.request.method = .get) :
    q'.method = q.method := by
  cases h with
  | login => rfl
  | attempt hsame =>
    obtain ⟨payload, -, hcall⟩ := hsame.call
    rw [(build?_eq_some hcall).1, (build?_eq_some hsame.file).1, hget]

theorem Concordant.replyTo {q q' : Http.Request} (h : Concordant c server w base)
    (hs : Alongside c w base s s') (hq : Meets c w q q') :
    (c.withServer server).replyTo s' q' = c.replyTo s q := by
  obtain ⟨sent, sent', hsent, hsent', hpaired⟩ := hs.exchanges
  have hpast : Forall₂ (Meets c w) (sent.map (·.request)) (sent'.map (·.request)) := by
    rw [List.forall₂_map_left_iff, List.forall₂_map_right_iff]
    exact hpaired.imp fun _ _ => Paired.meets
  have hreplies := h.replies _ _ q q' hpast hq
  unfold Client.replyTo
  rw [hq.method h.method, hsent, hsent', List.map_append, List.map_append]
  exact congrArg (Http.Reply.forMethod · q.method) hreplies

theorem Concordant.mirrors (h : Concordant c server w base) :
    Mirrors c server (Alongside c w base) where
  token hs := hs.token
  closed hs := hs.closed
  readings hs := hs.readings
  atReading hs _ := ⟨hs.token, hs.closed, rfl, hs.exchanges⟩
  hold hs _ := ⟨rfl, hs.closed, hs.readings, hs.exchanges⟩
  reply hmessage hs := h.replyTo hs (.login hmessage)
  login hmessage hpurpose hs := hs.record (.login hpurpose hmessage)

-- ---------------------------------------------------------------------------
-- Ends that are alike
-- ---------------------------------------------------------------------------

/-- Errors that differ at most in what they say of the operation and the resource, and of the
address where a connection failed. -/
inductive ErrorsAlike (c : Client) (w : Twins) : Error → Error → Prop
  | same (e : Error) : ErrorsAlike c w e e
  | authentication {operation operation' message status} : ErrorsAlike c w
    (.authentication operation message status) (.authentication operation' message status)
  | api {operation operation' resource resource' status message} : ErrorsAlike c w
    (.api operation resource status message) (.api operation' resource' status message)
  | transport {operation operation' resource resource' fault} : ErrorsAlike c w
    (.transport operation resource fault) (.transport operation' resource' fault)
  | sending {operation operation' resource resource' address address'} :
    w.address? = some address → w.callAddress? c = some address' → ErrorsAlike c w
    (.transport operation resource (.sending address))
    (.transport operation' resource' (.sending address'))
  | timeout {operation operation' resource resource' limit} : ErrorsAlike c w
    (.timeout operation resource limit) (.timeout operation' resource' limit)

theorem ErrorsAlike.isTransient {e e' : Error} (h : ErrorsAlike c w e e') :
    e'.isTransient = e.isTransient := by
  cases h <;> rfl

/-- What the call makes of the reply that brings the file. -/
def asValue (w : Twins) (file : Http.Response) : Except Error Json :=
  decodeBody w.request.operation (Text.Utf8.toStringLossy file.body)

/-- Attempts come to the same: to one reply, to a rejection, or to errors that are alike. -/
inductive AttemptsAlike (c : Client) (w : Twins) :
    Except Error (Answer Http.Response) → Except Error (Answer Json) → Prop
  | done {file} : file.isSuccess = true →
    AttemptsAlike c w (.ok (.done file)) ((asValue w file).map .done)
  | rejected {message} : AttemptsAlike c w (.ok (.rejected message)) (.ok (.rejected message))
  | failed {e e'} : ErrorsAlike c w e e' → AttemptsAlike c w (.error e) (.error e')

theorem decodeBody_error {operation body : String} {e : Error}
    (h : decodeBody operation body = .error e) : e.isTransient = false := by
  unfold decodeBody at h
  split at h
  · cases h
  · cases hparse : Json.parse body <;> rw [hparse] at h <;> cases h
    rfl

/-- A download and a call come to one reply, or to errors that are alike. -/
inductive EndsAlike (c : Client) (w : Twins) :
    Except Error Http.Response → Except Error Json → Prop
  | opened {file} : file.isSuccess = true → EndsAlike c w (.ok file) (asValue w file)
  | failed {e e'} : ErrorsAlike c w e e' → EndsAlike c w (.error e) (.error e')

-- ---------------------------------------------------------------------------
-- One attempt
-- ---------------------------------------------------------------------------

theorem fileAnswer_alike (w : Twins) {r : Http.Response} (hend : r.ending = .complete) :
    AttemptsAlike c w (fileAnswer w.subject r)
      (answer w.request.subject r (Text.Utf8.toStringLossy r.body)) := by
  have htext : bodyTextOrEmpty r = Text.Utf8.toStringLossy r.body := by rw [bodyTextOrEmpty, hend]
  unfold fileAnswer answer
  rw [htext]
  cases hu : r.isUnauthorized with
  | true => exact .rejected
  | false =>
    cases hsuccess : r.isSuccess with
    | true => exact .done hsuccess
    | false => exact .failed .api

theorem ShowsSame.addresses {q q' : Http.Request} (h : ShowsSame c w token q q') :
    w.address? = some q.url.text ∧ w.callAddress? c = some q'.url.text := by
  obtain ⟨url, hurl, hq⟩ := (build?_eq_some h.file).2.2
  obtain ⟨payload, -, hcall⟩ := h.call
  obtain ⟨url', hurl', hq'⟩ := (build?_eq_some hcall).2.2
  rw [Twins.address?, Twins.callAddress?, hurl, hurl', hq, hq']
  exact ⟨rfl, rfl⟩

/-- One reply means the same for a download and a call. -/
theorem reply_alike {q q' : Http.Request} (hq : ShowsSame c w token q q') {reply : Http.Reply}
    (hwhole : ∀ r, reply = .answered r → r.ending = .complete) :
    AttemptsAlike c w (c.response w.subject q reply >>= fileAnswer w.subject)
      (c.meaning w.request.subject q' reply) := by
  cases reply with
  | lost => exact .failed (.sending hq.addresses.1 hq.addresses.2)
  | timedOut => exact .failed .timeout
  | answered r =>
    have hend := hwhole r rfl
    have hreply : Http.Reply.whole? (.answered r) = some r := by simp [Http.Reply.whole?, hend]
    rw [meaning_whole hreply]
    exact fileAnswer_alike w hend

theorem build?_isSome (c : Client) (method : Method) (url : String)
    (pairs : List (String × String)) (secret : Option String) (payload : Option Payload) :
    (c.build? method url pairs secret payload).isSome =
      ((Http.Url.parse? url).isSome && (secret.map bearer).all Http.isHeaderValue) := by
  unfold build?
  cases Http.Url.parse? url with
  | none => rfl
  | some parsed =>
    cases hvalue : (secret.map bearer).all Http.isHeaderValue <;> simp [hvalue, bind, Option.bind]

/-- The request for a file has a form on the wire if that of the call has one. -/
theorem Concordant.showsSame (h : Concordant c server w base) {payload : Option Payload}
    (hpayload : c.payload w.request.body = .ok payload) (token : SessionToken) :
    (∃ q q', ShowsSame c w token q q') ∨
      (c.build? .get w.url w.pairs (some token.secret) none = none ∧
        c.build? w.request.method (w.callUrl c) w.request.query (some token.secret) payload =
          none) := by
  have haddress : (Http.Url.parse? w.url).isSome = (Http.Url.parse? (w.callUrl c)).isSome := by
    have h := h.addresses
    rwa [Twins.address?, Twins.callAddress?, Option.isSome_map, Option.isSome_map] at h
  have hsome : (c.build? .get w.url w.pairs (some token.secret) none).isSome =
      (c.build? w.request.method (w.callUrl c) w.request.query (some token.secret)
        payload).isSome := by
    rw [build?_isSome, build?_isSome, haddress]
  cases hfile : c.build? .get w.url w.pairs (some token.secret) none with
  | none =>
    rw [hfile, Option.isSome_none] at hsome
    exact .inr ⟨rfl, Option.not_isSome_iff_eq_none.mp (by simp [← hsome])⟩
  | some q =>
    rw [hfile, Option.isSome_some] at hsome
    obtain ⟨q', hcall⟩ := Option.isSome_iff_exists.mp hsome.symm
    exact .inl ⟨q, q', hfile, payload, hpayload, hcall⟩

theorem Concordant.whole_replyTo (h : Concordant c server w base) (s : ClientState)
    (q : Http.Request) : ∀ r, c.replyTo s q = .answered r → r.ending = .complete := by
  intro r hr
  unfold Client.replyTo at hr
  cases hreply : c.world.server (s.exchanges.map (·.request)) q with
  | answered r' =>
    have hwhole := h.whole _ _ _ hreply
    rw [hreply] at hr
    cases hr
    unfold Http.Response.forMethod
    split
    · rfl
    · exact hwhole
  | _ =>
    rw [hreply] at hr
    cases hr

theorem attempt_lockstep (h : Concordant c server w base) (token : SessionToken) :
    Lockstep (Alongside c w base) (AttemptsAlike c w) (c.openOnce w.subject w.url w.pairs token)
      ((c.withServer server).callOnce w.request token) := by
  intro s s' hs
  obtain ⟨payload, hpayload⟩ := h.payload
  have hpayload' : (c.withServer server).payload w.request.body = .ok payload := hpayload
  rcases h.showsSame hpayload token with ⟨q, q', hq⟩ | ⟨hfile, hcall⟩
  · obtain ⟨payload', hpayload', hcall⟩ := hq.call
    have hreply := h.replyTo hs (.attempt hq)
    rw [openOnce_runFrom hq.file, callOnce_runFrom (c := c.withServer server) hpayload' hcall,
      hreply, hs.token]
    exact ⟨reply_alike hq (h.whole_replyTo s q), hs.record (.attempt hq)⟩
  · rw [openOnce, hfile, callOnce_unsent (c := c.withServer server) hpayload' hcall]
    exact ⟨.failed .transport, hs⟩

-- ---------------------------------------------------------------------------
-- All attempts
-- ---------------------------------------------------------------------------

/-- Attempts that began and ended in step. -/
structure TriesAlike (c : Client) (w : Twins) (base : ClientState)
    (attempt : Try (Answer Http.Response)) (attempt' : Try (Answer Json)) : Prop where
  before : Alongside c w base attempt.before attempt'.before
  result : AttemptsAlike c w attempt.result attempt'.result
  after : Alongside c w base attempt.after attempt'.after

/-- Attempts that were repeated come to the same and leave as many retries. -/
inductive RetriesAlike (c : Client) (w : Twins) :
    Except Error (Answer Http.Response × Nat) → Except Error (Answer Json × Nat) → Prop
  | done {file left} : file.isSuccess = true →
    RetriesAlike c w (.ok (.done file, left)) ((asValue w file).map fun v => (.done v, left))
  | rejected {message left} :
    RetriesAlike c w (.ok (.rejected message, left)) (.ok (.rejected message, left))
  | failed {e e'} : ErrorsAlike c w e e' → RetriesAlike c w (.error e) (.error e')

theorem Tries.alongside (h : Concordant c server w base) {left : Nat}
    {tries : List (Try (Answer Http.Response))} {r : Except Error (Answer Http.Response × Nat)}
    (htries : Tries (c.openOnce w.subject w.url w.pairs token) left s tries r t)
    (hs : Alongside c w base s s') :
    ∃ tries' r' t', Tries ((c.withServer server).callOnce w.request token) left s' tries' r' t' ∧
      Forall₂ (TriesAlike c w base) tries tries' ∧ RetriesAlike c w r r' ∧
      Alongside c w base t t' := by
  induction htries generalizing s' with
  | @done left s a t hrun =>
    obtain ⟨hresult, hafter⟩ := attempt_lockstep h token s s' hs
    rcases hrun' : ((c.withServer server).callOnce w.request token).runFrom s' with ⟨r', t'⟩
    rw [hrun, hrun'] at hresult hafter
    have halike : TriesAlike c w base ⟨s, .ok a, t⟩ ⟨s', r', t'⟩ := ⟨hs, hresult, hafter⟩
    cases hresult with
    | rejected => exact ⟨_, _, _, .done hrun', .cons halike .nil, .rejected, hafter⟩
    | @done file hfile =>
      refine ⟨_, _, t', ?_, .cons halike .nil, .done hfile, hafter⟩
      cases hvalue : asValue w file with
      | ok v =>
        rw [hvalue] at hrun'
        exact .done hrun'
      | error e =>
        rw [hvalue] at hrun'
        exact .failed hrun' fun h => by cases (decodeBody_error hvalue).symm.trans h
  | @failed left s e t hrun hleft =>
    obtain ⟨hresult, hafter⟩ := attempt_lockstep h token s s' hs
    rcases hrun' : ((c.withServer server).callOnce w.request token).runFrom s' with ⟨r', t'⟩
    rw [hrun, hrun'] at hresult hafter
    have halike : TriesAlike c w base ⟨s, .error e, t⟩ ⟨s', r', t'⟩ := ⟨hs, hresult, hafter⟩
    cases hresult with
    | failed he =>
      exact ⟨_, _, _, .failed hrun' fun h => hleft (he.isTransient.symm.trans h),
        .cons halike .nil, .failed he, hafter⟩
  | @again left s e u tries r t hrun htransient _ ih =>
    obtain ⟨hresult, hafter⟩ := attempt_lockstep h token s s' hs
    rcases hrun' : ((c.withServer server).callOnce w.request token).runFrom s' with ⟨r', u'⟩
    rw [hrun, hrun'] at hresult hafter
    have halike : TriesAlike c w base ⟨s, .error e, u⟩ ⟨s', r', u'⟩ := ⟨hs, hresult, hafter⟩
    cases hresult with
    | failed he =>
      obtain ⟨tries', r', t', htries', hall, hends, hlast⟩ := ih hafter
      exact ⟨_, _, _, .again hrun' (he.isTransient.trans htransient) htries', .cons halike hall,
        hends, hlast⟩

theorem RetriesAlike.settle {r : Except Error (Answer Http.Response × Nat)}
    {r' : Except Error (Answer Json × Nat)} (h : RetriesAlike c w r r')
    (operation operation' : String) :
    EndsAlike c w (settle operation r) (settle operation' r') := by
  cases h with
  | rejected => exact .failed .authentication
  | failed he => exact .failed he
  | @done file left hfile =>
    have hvalue : Client.settle operation' ((asValue w file).map fun v => (.done v, left)) =
        asValue w file := by
      cases asValue w file <;> rfl
    rw [hvalue]
    exact .opened hfile

theorem RetriesAlike.not_rejected {r : Except Error (Answer Http.Response × Nat)}
    {r' : Except Error (Answer Json × Nat)} (h : RetriesAlike c w r r')
    (hr : ∀ m left, r ≠ .ok (.rejected m, left)) : ∀ m left, r' ≠ .ok (.rejected m, left) := by
  cases h with
  | rejected => exact absurd rfl (hr _ _)
  | failed => exact nofun
  | @done file => cases asValue w file <;> exact nofun

/-- What is asked of the client about its token has the same result on both sides. -/
theorem alongside_of_same {act act' : Action SessionToken} {r : Except Error SessionToken}
    (hact : Lockstep (Alongside c w base) Eq act act') (hs : Alongside c w base s s')
    (hrun : act.runFrom s = (r, t)) :
    ∃ t', act'.runFrom s' = (r, t') ∧ Alongside c w base t t' := by
  obtain ⟨hresult, hafter⟩ := hact s s' hs
  rw [hrun] at hresult hafter
  exact ⟨(act'.runFrom s').2, Prod.ext hresult.symm rfl, hafter⟩

theorem TokenedRun.alongside (h : Concordant c server w base) (hs : Alongside c w base s s')
    {retries renewals : Nat} {first second : List (Try (Answer Http.Response))}
    {r : Except Error Http.Response}
    (hrun : TokenedRun c w.subject.operation retries (c.openOnce w.subject w.url w.pairs) s
      first second renewals r t) :
    ∃ first' second' r' t', TokenedRun (c.withServer server) w.request.operation retries
        ((c.withServer server).callOnce w.request) s' first' second' renewals r' t' ∧
      Forall₂ (TriesAlike c w base) first first' ∧ Forall₂ (TriesAlike c w base) second second' ∧
      EndsAlike c w r r' ∧ Alongside c w base t t' := by
  cases hrun with
  | noToken hget =>
    obtain ⟨t', hget', hafter⟩ := alongside_of_same h.mirrors.getToken_lockstep hs hget
    exact ⟨_, _, _, _, .noToken hget', .nil, .nil, .failed (.same _), hafter⟩
  | settled hget htries hsettled =>
    obtain ⟨u', hget', hu⟩ := alongside_of_same h.mirrors.getToken_lockstep hs hget
    obtain ⟨tries', r', t', htries', hall, hends, hafter⟩ := htries.alongside h hu
    exact ⟨_, _, _, _, .settled hget' htries' (hends.not_rejected hsettled), hall, .nil,
      hends.settle _ _, hafter⟩
  | notRenewed hget htries hrefresh =>
    obtain ⟨u', hget', hu⟩ := alongside_of_same h.mirrors.getToken_lockstep hs hget
    obtain ⟨tries', r', v', htries', hall, hends, hv⟩ := htries.alongside h hu
    cases hends
    obtain ⟨t', hrefresh', hafter⟩ :=
      alongside_of_same (h.mirrors.refreshAfterRejection_lockstep _) hv hrefresh
    exact ⟨_, _, _, _, .notRenewed hget' htries' hrefresh', hall, .nil, .failed (.same _), hafter⟩
  | renewed hget htries hrefresh htries₂ =>
    obtain ⟨u', hget', hu⟩ := alongside_of_same h.mirrors.getToken_lockstep hs hget
    obtain ⟨tries', r', v', htries', hall, hends, hv⟩ := htries.alongside h hu
    cases hends
    obtain ⟨x', hrefresh', hx⟩ :=
      alongside_of_same (h.mirrors.refreshAfterRejection_lockstep _) hv hrefresh
    obtain ⟨tries₂', r₂', t', htries₂', hall₂, hends₂, hafter⟩ := htries₂.alongside h hx
    exact ⟨_, _, _, _, .renewed hget' htries' hrefresh' htries₂', hall, hall₂, hends₂.settle _ _,
      hafter⟩

-- ---------------------------------------------------------------------------
-- Whole runs
-- ---------------------------------------------------------------------------

/-- A download and a call, each of them its own loop, that go about it in the same way. -/
structure InStep (c : Client) (server : List Http.Request → Http.Request → Http.Reply) (w : Twins)
    (s : ClientState) (run : Except Error Http.Response × ClientState)
    (run' : Except Error Json × ClientState) : Prop where
  downloadLoop : run = (do c.downloadLoop w.subject w.url w.pairs (← c.getToken) false 1).runFrom s
  callLoop : run' = (do
    (c.withServer server).callLoop w.request (← (c.withServer server).getToken) false 1).runFrom s
  /-- One by one, the attempts are alike, be it before or after a token was renewed. -/
  attempts : ∃ first second first' second' renewals,
    TokenedRun c w.subject.operation c.retries (c.openOnce w.subject w.url w.pairs) s
      first second renewals run.1 run.2 ∧
    TokenedRun (c.withServer server) w.request.operation c.retries
      ((c.withServer server).callOnce w.request) s first' second' renewals run'.1 run'.2 ∧
    Forall₂ (TriesAlike c w s) first first' ∧ Forall₂ (TriesAlike c w s) second second'
  /-- The file comes with the first reply that brings one. -/
  opens : Opens c w.url w.pairs s run.2 run.1.toOption
  ends : EndsAlike c w run.1 run'.1
  after : Alongside c w s run.2 run'.2

/-- A download and a reading call whose servers give the same replies make the same attempts, with
the same tokens and the same logins in between. They come to the same reply or to errors that are
alike, and the client knows the same after both. -/
theorem openDownload_alongside_call (c : Client)
    (server : List Http.Request → Http.Request → Http.Reply) (w : Twins) (s : ClientState)
    (h : Concordant c server w s) :
    InStep c server w s ((c.openDownload w.subject w.url w.pairs).runFrom s)
      (((c.withServer server).call w.request).runFrom s) := by
  obtain ⟨first, second, renewals, hrun⟩ :=
    withToken_run c w.subject.operation c.retries (c.openOnce w.subject w.url w.pairs) s
  obtain ⟨first', second', r', t', hrun', hfirst, hsecond, hends, hafter⟩ :=
    hrun.alongside h (.refl c w s)
  have hretries : (c.withServer server).retriesFor w.request = c.retries := by
    rw [retriesFor, h.method, h.retry]
    rfl
  have hcall : ((c.withServer server).call w.request).runFrom s = (r', t') := by
    rw [call, hretries]
    exact hrun'.run
  have hloop := call_eq_loop (c.withServer server) w.request s
  rw [hcall] at hloop ⊢
  exact {
    downloadLoop := openDownload_eq_loop c w.subject w.url w.pairs s
    callLoop := hloop
    attempts := ⟨first, second, first', second', renewals, hrun, hrun', hfirst, hsecond⟩
    opens := openDownload_opens c w.subject w.url w.pairs s
    ends := hends
    after := hafter }

/-- A server that is away at first, then fails, and answers from the third request on. -/
def faltering (past : List Http.Request) (_ : Http.Request) : Http.Reply :=
  match past.length with
  | 0 => .lost
  | 1 => .answered ⟨503, [], [], .complete⟩
  | _ => .answered ⟨200, [], Text.Utf8.ofString "[]", .complete⟩

/-- The call sends as much as the download, which comes to its file in the third attempt. -/
theorem attempts_alongside_download :
    let c := facing (.token "key") faltering
    let w : Twins := {
      subject := downloadSubject "attachments/1"
      url := "https://notes.example/file/attachments/1/a.png", pairs := []
      request := .make .get "get_memo" "memos/1" }
    Concordant c faltering w c.start ∧
      ((c.call w.request).runFrom c.start).2.exchanges.length = 3 := by
  intro c w
  have hconcordant : Concordant c faltering w c.start := {
    method := rfl
    retry := rfl
    payload := ⟨_, rfl⟩
    addresses := by decide +kernel
    replies := by
      intro sent sent' q q' hsent _
      change faltering (_ ++ sent') q' = faltering (_ ++ sent) q
      unfold faltering
      rw [List.length_append, List.length_append, hsent.length_eq]
    whole := by
      intro past q r hr
      change faltering past q = .answered r at hr
      unfold faltering at hr
      split at hr <;> cases hr <;> rfl }
  have hc : c.withServer faltering = c := rfl
  have hafter := (openDownload_alongside_call c faltering w c.start hconcordant).after
  rw [hc] at hafter
  obtain ⟨sent, sent', hsent, hsent', hpaired⟩ := hafter.exchanges
  have hthree :
      ((c.openDownload w.subject w.url w.pairs).runFrom c.start).2.exchanges.length = 3 := by
    decide +kernel
  refine ⟨hconcordant, ?_⟩
  rw [hsent', List.length_append, ← hpaired.length_eq, ← List.length_append, ← hsent]
  exact hthree

end RemoteNotes.Client
