import Mathlib.Data.List.Nodup
import RemoteNotes.Proofs.Session

/-!
# Closed clients

A client that was closed has no way to the server: it gets no token, and nothing is sent
without one. Its state never changes again, whatever it is asked for, and what it is asked
for is refused, with the faults of the parameters where there are some (`closed_for_good`).
A login that is asked for by itself is the one exception: it needs no token.
-/

namespace RemoteNotes

-- ---------------------------------------------------------------------------
-- What operations check by themselves
-- ---------------------------------------------------------------------------

namespace Operation

/-- The checks of the parameters, which come before anything else. -/
def checks : Operation → Except ValidationError Unit
  | .searchMemos filter => do let _ ← filter.toQuery
  | .getMemo name | .deleteMemo name | .listMemoAttachments name => do
    let _ : MemoName ← ResourceName.parse name
  | .createMemo memo => do let _ ← memo.prepare
  | .updateMemo name update => do
    let name : MemoName ← ResourceName.parse name
    let _ ← update.prepare name
  | .setMemoAttachments memo attachments => do
    let _ : MemoName ← ResourceName.parse memo
    let _ : List AttachmentName ← attachments.mapM ResourceName.parse
  | .uploadAttachment upload => do let _ ← upload.validate
  | .getAttachment name | .deleteAttachment name => do
    let _ : AttachmentName ← ResourceName.parse name
  | .getUser name => do let _ : UserName ← ResourceName.parse name
  | _ => .ok ()

/-- Whether an operation fails as a whole where there is no token. Each memo of a batch fails
by itself. -/
def needsToken : Operation → Bool
  | .createMemosBatch _ | .authenticate _ | .signOut | .close => false
  | _ => true

end Operation

structure ClientState.Closed (s : ClientState) : Prop where
  closed : s.closed = true
  token : s.token = none

namespace Client

open RemoteNotes.Action (Chains Respects runFrom runFrom_bind run_bind_runFrom)

variable {c : Client} {s : ClientState} {α β : Type}

def closedError : Error := .unauthenticated tokenOperation "client has been closed"

/-- Why something is refused whose parameters are to be checked first. -/
def refusal : Except ValidationError α → Error
  | .error fault => .validation fault
  | .ok _ => closedError

/-- A run that is over at once, for the given reason. -/
def EndsAtOnce (act : Action α) (s : ClientState) (e : Error) : Prop :=
  act.runFrom s = (.error e, s)

namespace EndsAtOnce

variable {e : Error}

theorem bind {act : Action α} (h : EndsAtOnce act s e) (f : α → Action β) :
    EndsAtOnce (act >>= f) s e := by
  unfold EndsAtOnce at h ⊢
  rw [runFrom_bind, h]

theorem discard {act : Action α} (h : EndsAtOnce act s e) :
    EndsAtOnce (Functor.discard act) s e := by
  unfold EndsAtOnce at h ⊢
  rw [Action.runFrom_discard, h]
  rfl

theorem checked {r : Except ValidationError α} {f : α → Action β}
    {k : α → Except ValidationError Unit} (h : ∀ a, EndsAtOnce (f a) s (refusal (k a))) :
    EndsAtOnce (checked r >>= f) s (refusal (r >>= k)) := by
  cases r with
  | error fault => rfl
  | ok a => exact h a

end EndsAtOnce

-- ---------------------------------------------------------------------------
-- Without a token
-- ---------------------------------------------------------------------------

section

variable (h : s.closed = true)

include h

theorem ensureOpen_closed : EndsAtOnce ensureOpen s closedError := by
  unfold EndsAtOnce
  rw [ensureOpen_runFrom, if_pos h]
  rfl

theorem getToken_closed : EndsAtOnce c.getToken s closedError :=
  (ensureOpen_closed h).bind _

theorem refreshAfterRejection_closed (stale : SessionToken) :
    EndsAtOnce (c.refreshAfterRejection stale) s closedError :=
  (ensureOpen_closed h).bind _

theorem call_closed (request : ApiRequest) : EndsAtOnce (c.call request) s closedError :=
  (getToken_closed h).bind _

theorem openDownload_closed (subject : Subject) (url : String) (pairs : List (String × String)) :
    EndsAtOnce (c.openDownload subject url pairs) s closedError :=
  (getToken_closed h).bind _

theorem fetch_closed [WireModel α] (request : ApiRequest) :
    EndsAtOnce (c.fetch request : Action α) s closedError :=
  (call_closed h request).bind _

theorem linkAttachments_closed (memo : MemoName) (attachments : List AttachmentName) :
    EndsAtOnce (c.linkAttachments memo attachments) s closedError :=
  (call_closed h _).bind _

theorem download_closed (path : String) (pairs : List (String × String)) (resource : String)
    (sink : Sink) : (c.download path pairs resource sink).run s = ((.error closedError, []), s) := by
  unfold download
  rw [run_bind_runFrom, openDownload_closed h]
  rfl

/-- A file that is asked for does not arrive, and nothing of it. -/
theorem downloading_closed (path : String) (pairs : List (String × String)) (resource : String)
    (sink : Sink) :
    EndsAtOnce (do
      let (result, _) ← ExceptT.lift (c.download path pairs resource sink)
      discard (Action.ofExcept result)) s closedError := by
  unfold EndsAtOnce
  rw [runFrom_bind, Action.runFrom_lift, download_closed h]
  rfl

/-- A closed client refuses what needs a token, after a look at the parameters. -/
theorem perform_closed {op : Operation} (hop : op.needsToken = true) :
    EndsAtOnce (op.perform c) s (refusal op.checks) := by
  cases op with
  | searchMemos filter =>
    exact .discard (.checked fun _ => (call_closed h _).bind _)
  | getMemo name => exact .discard (.checked fun _ => fetch_closed h _)
  | createMemo memo => exact .discard (.checked fun _ => (fetch_closed h _).bind _)
  | updateMemo name update =>
    exact .discard (.checked fun _ => .checked fun _ => fetch_closed h _)
  | deleteMemo name => exact .checked fun _ => (call_closed h _).bind _
  | setMemoAttachments memo attachments =>
    exact .checked fun _ => .checked fun _ => linkAttachments_closed h _ _
  | listMemoAttachments memo =>
    exact .discard (.checked fun _ => (call_closed h _).bind _)
  | uploadAttachment upload => exact .discard (.checked fun _ => fetch_closed h _)
  | getAttachment name => exact .discard (.checked fun _ => fetch_closed h _)
  | listAttachments => exact .discard ((call_closed h _).bind _)
  | downloadAttachment attachment thumbnail sink => exact downloading_closed h _ _ _ _
  | deleteAttachment name => exact .checked fun _ => (call_closed h _).bind _
  | getUser name => exact .discard (.checked fun _ => fetch_closed h _)
  | currentUser => exact .discard ((call_closed h _).bind _)
  | call request => exact .discard (call_closed h request)
  | download path pairs resource sink => exact downloading_closed h _ _ _ _
  | getToken => exact .discard (getToken_closed h)
  | refreshAfterRejection stale => exact .discard (refreshAfterRejection_closed h stale)
  | createMemosBatch | authenticate | signOut | close => cases hop

end

-- ---------------------------------------------------------------------------
-- Batches without a token
-- ---------------------------------------------------------------------------

/-- Nothing that is done on the way of a batch opens a client again. -/
theorem keeps_closed (c : Client) : Keeps c fun s t => t.closed = s.closed where
  refl _ := rfl
  trans h k := k.trans h
  now _ := rfl
  send _ _ _ := rfl
  renew _ := renew_respects ⟨fun _ => rfl, fun h k => k.trans h⟩ (fun _ => rfl) (fun _ _ => rfl)
    fun _ _ => rfl

/-- How far a memo of a batch gets that is refused. -/
inductive Refused (m : NewMemo) : ItemStage → Prop
  | fresh : Refused m (.fresh m)
  | posting {prepared} : m.prepare = .ok prepared → Refused m (.posting prepared .waiting)
  | ended : Refused m (.ended (.failed (refusal m.prepare)))

theorem refused_ended {m : NewMemo} {e : Error} (he : e = refusal m.prepare) :
    Refused m (.ended (.failed e)) := he ▸ .ended

theorem Refused.outcome {m : NewMemo} {outcome : BatchOutcome} (h : Refused m (.ended outcome)) :
    outcome = .failed (refusal m.prepare) := by
  cases h
  rfl

theorem Refused.step {m : NewMemo} {stage : ItemStage} (hm : Refused m stage)
    (h : s.closed = true) :
    Refused m ((c.advanceItem stage).run s).1 ∧ ((c.advanceItem stage).run s).2 = s := by
  cases hm with
  | fresh =>
    rw [advanceItem_fresh]
    cases hprepare : m.prepare with
    | error fault => exact ⟨refused_ended (by rw [hprepare]; rfl), rfl⟩
    | ok prepared => exact ⟨.posting hprepare, rfl⟩
  | @posting prepared hprepare =>
    have hrun : c.getToken.runFrom s = (.error closedError, s) := getToken_closed h
    rw [advanceItem_posting, advance_waiting, attemptWith_run, hrun]
    exact ⟨refused_ended (by rw [hprepare]; rfl), rfl⟩
  | ended => exact ⟨.ended, rfl⟩

theorem ItemTurns.of_closed {m : NewMemo} {stage last : ItemStage} {turns : List ItemTurn}
    (h : ItemTurns c stage turns last) (hm : Refused m stage)
    (hclosed : ∀ turn ∈ turns, turn.before.closed = true) :
    Refused m last ∧ ∀ turn ∈ turns, turn.after = turn.before := by
  induction h with
  | nil => exact ⟨hm, List.forall_mem_nil _⟩
  | @cons stage turn next turns last _ hrun _ ih =>
    obtain ⟨hfirst, hrest⟩ := List.forall_mem_cons.mp hclosed
    obtain ⟨hnext, hafter⟩ := hm.step (c := c) hfirst
    rw [hrun] at hnext hafter
    obtain ⟨hlast, hturns⟩ := ih hnext hrest
    exact ⟨hlast, List.forall_mem_cons.mpr ⟨hafter, hturns⟩⟩

section

variable {s' : ClientState} {runs : List ItemRun} (h : ItemRuns c s runs s') (hs : s.closed = true)

include h hs

theorem ItemRuns.of_closed {r : ItemRun} (hr : r ∈ runs) :
    r.outcome = .failed (refusal r.memo.prepare) ∧ ∀ turn ∈ r.turns, turn.after = turn.before := by
  have hclosed := h.forall_before (keeps_closed c).advanceItem (keeps_closed c).toChains r hr
  obtain ⟨hlast, hturns⟩ := (h.isRun r hr).of_closed .fresh fun turn hturn =>
    (hclosed turn hturn).trans hs
  exact ⟨hlast.outcome, hturns⟩

theorem ItemRuns.eq_of_closed : s' = s := by
  obtain ⟨turns, hturns, hown, hall⟩ := h.interleaved
  refine hturns.respects (R := fun s t => t = s) ⟨fun _ => rfl, fun h k => k.trans h⟩ ?_
  intro turn hturn
  obtain ⟨r, hr, hplace⟩ := hall turn hturn
  refine (h.of_closed hs hr).2 turn ?_
  rw [hown r hr]
  exact List.mem_filter.mpr ⟨hturn, by simp [hplace]⟩

end

theorem createMemosBatch_closed (h : s.closed = true) (memos : List NewMemo) :
    ((c.createMemosBatch memos).run s).2 = s ∧
      let report := ((c.createMemosBatch memos).run s).1
      report.items.length = memos.length ∧ ∀ item ∈ report.items, ∃ m,
        memos[item.index]? = some m ∧ item.outcome = .failed (refusal m.prepare) := by
  obtain ⟨runs, hruns, hreport, hperm⟩ := createMemosBatch_runs c memos s
  simp only [hreport, BatchReport.ofItems, List.length_mergeSort, List.length_map,
    List.mem_mergeSort]
  refine ⟨hruns.eq_of_closed h, by simpa using hperm.length_eq, fun item hitem => ?_⟩
  obtain ⟨r, hr, rfl⟩ := List.mem_map.mp hitem
  exact ⟨r.memo, memo_of_run hperm hr, (hruns.of_closed h hr).1⟩

-- ---------------------------------------------------------------------------
-- For good
-- ---------------------------------------------------------------------------

theorem closed_chains : Chains fun s t : ClientState => s.Closed → t = s :=
  ⟨fun _ _ => rfl, fun h k hs => by cases h hs; exact k hs⟩

theorem respects_closed {act : Action α}
    (h : ∀ s : ClientState, s.closed = true → EndsAtOnce act s closedError) :
    Respects (fun s t => s.Closed → t = s) act :=
  fun s hs => by rw [h s hs.closed]

theorem keepsCalls_closed (c : Client) : KeepsCalls c fun s t => s.Closed → t = s where
  toChains := closed_chains
  call request := respects_closed fun _ h => call_closed h request
  openDownload subject url pairs := respects_closed fun _ h => openDownload_closed h subject url pairs
  getToken := respects_closed fun _ h => getToken_closed h
  refreshAfterRejection stale := respects_closed fun _ h => refreshAfterRejection_closed h stale

theorem signOut_closed (h : s.Closed) : c.signOut.runFrom s = (.ok (), s) := by
  obtain ⟨token, closed, readings, exchanges⟩ := s
  cases h.token
  rfl

theorem close_closed (h : s.Closed) : close.runFrom s = (.ok (), s) := by
  obtain ⟨token, closed, readings, exchanges⟩ := s
  cases h.token
  cases h.closed
  rfl

theorem closed_close (c : Client) (s : ClientState) : (c.after s .close).Closed := ⟨rfl, rfl⟩

theorem after_closed (h : s.Closed) {op : Operation} (hop : op.isLogin = false) :
    c.after s op = s := by
  refine (keepsCalls_closed c).after op ?_ ?_ ?_ ?_ s h
  · rintro credential rfl
    cases hop
  · exact fun memos _ s h => (createMemosBatch_closed h.closed memos).1
  · exact fun s h => by rw [signOut_closed h]
  · exact fun s h => by rw [close_closed h]

/-- Whatever a closed client is asked for one after another leaves it as it is. -/
theorem afterAll_closed (h : s.Closed) {ops : List Operation}
    (hops : ∀ op ∈ ops, op.isLogin = false) : c.afterAll s ops = s := by
  induction ops with
  | nil => rfl
  | cons op ops ih =>
    obtain ⟨hop, hops⟩ := List.forall_mem_cons.mp hops
    have hafter : c.after s op = s := after_closed h hop
    change c.afterAll (c.after s op) ops = s
    rw [hafter, ih hops]

/-- A client that was closed sends nothing, holds nothing and stays closed. Signing out is
done at once, and all that needs a token is refused. -/
theorem closed_for_good (c : Client) (s : ClientState) (ops : List Operation)
    (hops : ∀ op ∈ ops, op.isLogin = false) :
    let t := c.afterAll (c.after s .close) ops
    t.exchanges = s.exchanges ∧ t.token = none ∧ t.closed = true ∧
      c.signOut.runFrom t = (.ok (), t) ∧
      (∀ op : Operation, op.needsToken = true →
        ((op.perform c).runFrom t).1 = .error (refusal op.checks)) ∧
      ∀ memos, let report := ((c.createMemosBatch memos).run t).1
        report.items.length = memos.length ∧ ∀ item ∈ report.items, ∃ m,
          memos[item.index]? = some m ∧ item.outcome = .failed (refusal m.prepare) := by
  intro t
  have hclosed : t.Closed ∧ t.exchanges = s.exchanges := by
    rw [show t = c.after s .close from afterAll_closed (closed_close c s) hops]
    exact ⟨closed_close c s, rfl⟩
  obtain ⟨hclosed, hsent⟩ := hclosed
  refine ⟨hsent, hclosed.token, hclosed.closed, signOut_closed hclosed, fun op hop => ?_, ?_⟩
  · rw [perform_closed hclosed.closed hop]
  · exact fun memos => (createMemosBatch_closed hclosed.closed memos).2

/-- A client with a password that is closed and used all the same. -/
theorem closed_with_password :
    let c := facing (.password "alice" "secret") fun _ _ => .answered ⟨200, [], [], .complete⟩
    let ops : List Operation := [.currentUser, .signOut, .close, .getMemo "memos/1", .getToken]
    (c.afterAll (c.after c.start .close) ops).exchanges = [] ∧
      (((Operation.getMemo "memos/1").perform c).runFrom
        (c.afterAll (c.after c.start .close) ops)).1 = .error closedError := by
  intro c ops
  obtain ⟨hsent, -, -, -, hrefused, -⟩ :=
    closed_for_good c c.start ops (by simp [ops, Operation.isLogin])
  exact ⟨hsent, (hrefused (.getMemo "memos/1") rfl).trans (by cbv)⟩

end Client

end RemoteNotes
