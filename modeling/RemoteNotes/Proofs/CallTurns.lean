import RemoteNotes.Proofs.Batch
import RemoteNotes.Proofs.Calls

/-!
# Calls in turns

The calls of a memo in flight go on in turns, between which other memos may change the state of
the client. What such a call sends and what comes of it are related as in a call that nothing
comes between (`CallTurns.trace`): a reply means the same whatever happened before the request.
-/

namespace RemoteNotes.Client

open RemoteNotes.Action (runFrom)

variable {c : Client} {request : ApiRequest} {stage : CallStage} {turns : List ItemTurn}
  {r : Except Error Json}

-- ---------------------------------------------------------------------------
-- What turns send
-- ---------------------------------------------------------------------------

/-- What was sent in a turn. -/
def ItemTurn.sent (turn : ItemTurn) : List Exchange :=
  turn.after.exchanges.drop turn.before.exchanges.length

/-- The requests of calls that were sent in some turns. -/
def calledIn (turns : List ItemTurn) : List Exchange :=
  (turns.flatMap ItemTurn.sent).filter (·.purpose = .call)

theorem calledIn_cons {turn : ItemTurn} {xs : List Exchange} (h : Called turn.before xs turn.after)
    (turns : List ItemTurn) : calledIn (turn :: turns) = xs ++ calledIn turns := by
  rw [calledIn, List.flatMap_cons, List.filter_append, ItemTurn.sent, h.eq]
  rfl

theorem calledIn_append (first rest : List ItemTurn) :
    calledIn (first ++ rest) = calledIn first ++ calledIn rest := by
  rw [calledIn, List.flatMap_append, List.filter_append]
  rfl

-- ---------------------------------------------------------------------------
-- Calls
-- ---------------------------------------------------------------------------

/-- The turns of one call, which are steps from one stage to another. -/
inductive CallTurns (c : Client) (request : ApiRequest) :
    CallStage → List ItemTurn → CallStage → Prop
  | nil {stage : CallStage} : CallTurns c request stage [] stage
  | cons {stage next last : CallStage} {turn : ItemTurn} {turns : List ItemTurn} :
    stage.isEnded = false → (c.advance request stage).run turn.before = (next, turn.after) →
    CallTurns c request next turns last → CallTurns c request stage (turn :: turns) last

/-- How many failed attempts a call may repeat from a stage on. -/
def retriesAt (c : Client) (request : ApiRequest) : CallStage → Nat
  | .waiting => c.retriesFor request
  | .trying _ retries _ | .rejected _ retries => retries
  | .ended _ => 0

/-- How many requests a call sends at most from a stage on if it repeats no failed attempt. -/
def mostAt : CallStage → Nat
  | .waiting => 2
  | .trying _ _ renewed => if renewed then 1 else 2
  | .rejected _ _ => 1
  | .ended _ => 0

/-- What the requests that a call sends from a stage on have to do with its result. -/
structure StageTrace (c : Client) (request : ApiRequest) (stage : CallStage)
    (sent : List Exchange) (r : Except Error Json) : Prop where
  isCall : ∀ x ∈ sent, ∃ token, IsCall c request token x
  ended : ∀ r', stage = .ended r' → r = r' ∧ sent = []
  delivers : stage.isEnded = false → ∀ v, r = .ok v →
    ∃ x ∈ sent.getLast?, x.Delivers request.operation v
  of_delivers : ∀ x ∈ sent, ∀ v, x.Delivers request.operation v → r = .ok v
  sentOnce : c.retriesAt request stage = 0 → sent.length ≤ mostAt stage ∧
    ∀ x ∈ sent.dropLast, x.isRejected = true

theorem CallOutcome.isRejected {token : SessionToken} {xs : List Exchange} {message : String}
    (h : CallOutcome c request token xs (.ok (.rejected message))) :
    ∃ x, xs = [x] ∧ x.isRejected = true := by
  cases h with
  | @whole x reply _ _ hreply hr =>
    exact ⟨x, rfl, by simp [Exchange.isRejected, hreply, answer_rejected hr.symm]⟩

theorem CallOutcome.few {token : SessionToken} {xs : List Exchange}
    {r : Except Error (Answer Json)} (h : CallOutcome c request token xs r) :
    xs.length ≤ 1 ∧ ∀ x ∈ xs.dropLast, x.isRejected = true := by
  rcases h.one with rfl | ⟨x, rfl⟩
  · exact ⟨Nat.zero_le 1, List.forall_mem_nil _⟩
  · exact ⟨Nat.le_refl 1, List.forall_mem_nil _⟩

/-- An attempt ends its call, is repeated with the same token, or was the first one that was
rejected. -/
theorem afterTry_cases (operation : String) (token : SessionToken) (retries : Nat) (renewed : Bool)
    (result : Except Error (Answer Json)) :
    (∃ r, CallStage.afterTry operation token retries renewed result = .ended r ∧
        ∀ v, r = .ok v ↔ result = .ok (.done v)) ∨
      (∃ e left, result = .error e ∧ retries = left + 1 ∧
        CallStage.afterTry operation token retries renewed result = .trying token left renewed) ∨
      (renewed = false ∧ ∃ message, result = .ok (.rejected message) ∧
        CallStage.afterTry operation token retries renewed result = .rejected token retries) := by
  rcases result with e | v | message
  · cases retries with
    | zero => exact .inl ⟨_, rfl, by simp⟩
    | succ retries =>
      cases he : e.isTransient with
      | false => exact .inl ⟨.error e, by simp [CallStage.afterTry, he], by simp⟩
      | true => exact .inr (.inl ⟨e, retries, rfl, rfl, by simp [CallStage.afterTry, he]⟩)
  · exact .inl ⟨_, rfl, by simp⟩
  · cases renewed with
    | true => exact .inl ⟨_, rfl, by simp⟩
    | false => exact .inr (.inr ⟨rfl, message, rfl, rfl⟩)

namespace StageTrace

variable {sent xs : List Exchange} {token : SessionToken} {result : Except Error (Answer Json)}
  {retries : Nat} {renewed : Bool}

theorem nil (r : Except Error Json) : StageTrace c request (.ended r) [] r where
  isCall := List.forall_mem_nil _
  ended _ h := by cases h; exact ⟨rfl, rfl⟩
  delivers h := by cases h
  of_delivers := List.forall_mem_nil _
  sentOnce _ := ⟨Nat.le_refl 0, List.forall_mem_nil _⟩

/-- An attempt that ends its call is the last one that sends something. -/
theorem last (hout : CallOutcome c request token xs result)
    (hdone : ∀ v, r = .ok v ↔ result = .ok (.done v)) :
    StageTrace c request (.trying token retries renewed) xs r where
  isCall x hx := ⟨token, hout.isCall x hx⟩
  ended _ h := by cases h
  delivers _ v hr := by
    have hresult := (hdone v).mp hr
    subst hresult
    obtain ⟨x, rfl, hv⟩ := hout.delivers
    exact ⟨x, rfl, hv⟩
  of_delivers x hx v hv := (hdone v).mpr (hout.of_delivers hx hv)
  sentOnce _ := by
    refine ⟨Nat.le_trans hout.few.1 ?_, hout.few.2⟩
    simp only [mostAt]
    split
    · exact Nat.le_refl 1
    · exact Nat.le_succ 1

/-- What follows on an attempt that brought nothing. -/
theorem append {next : CallStage} (h : StageTrace c request next sent r)
    (hout : CallOutcome c request token xs result) (hopen : next.isEnded = false)
    (hresult : ∀ v, result ≠ .ok (.done v))
    (honce : retries = 0 → c.retriesAt request next = 0 ∧
      xs.length + mostAt next ≤ mostAt (.trying token retries renewed) ∧
      ∀ x ∈ xs, x.isRejected = true) :
    StageTrace c request (.trying token retries renewed) (xs ++ sent) r where
  isCall := List.forall_mem_append.mpr ⟨fun x hx => ⟨token, hout.isCall x hx⟩, h.isCall⟩
  ended _ h := by cases h
  delivers _ v hr := by
    obtain ⟨x, hx, hv⟩ := h.delivers hopen v hr
    exact ⟨x, List.mem_getLast?_append_of_mem_getLast? hx, hv⟩
  of_delivers x hx v hv := by
    rcases List.mem_append.mp hx with hx | hx
    · exact absurd (hout.of_delivers hx hv) (hresult v)
    · exact h.of_delivers x hx v hv
  sentOnce hnone := by
    obtain ⟨hretries, hmost, hrejected⟩ := honce hnone
    obtain ⟨hfew, hagain⟩ := h.sentOnce hretries
    rw [List.length_append]
    exact ⟨by omega, fun x hx => (of_mem_dropLast_append hx).elim (hrejected x) (hagain x)⟩

theorem afterTry (hout : CallOutcome c request token xs result)
    (h : StageTrace c request (.afterTry request.operation token retries renewed result) sent r) :
    StageTrace c request (.trying token retries renewed) (xs ++ sent) r := by
  rcases afterTry_cases request.operation token retries renewed result with
    ⟨r', hnext, hdone⟩ | ⟨e, left, rfl, rfl, hnext⟩ | ⟨rfl, message, rfl, hnext⟩ <;> rw [hnext] at h
  · obtain ⟨rfl, rfl⟩ := h.ended _ rfl
    rw [List.append_nil]
    exact last hout hdone
  · exact h.append hout rfl (by simp) fun hnone => absurd hnone (Nat.succ_ne_zero left)
  · obtain ⟨x, rfl, hx⟩ := hout.isRejected
    refine h.append hout rfl (by simp) fun hnone => ⟨hnone, Nat.le_refl 2, ?_⟩
    exact List.forall_mem_singleton.mpr hx

end StageTrace

/-- A step that looks for a token first sends what an attempt with that token sends. -/
theorem StageTrace.attemptWith {sent : List Exchange} {look : Action SessionToken} {retries : Nat}
    {renewed : Bool} {s t : ClientState} {next : CallStage}
    (hlook : Called s [] (look.runFrom s).2)
    (hrun : (c.attemptWith request look retries renewed).run s = (next, t))
    (hopen : stage.isEnded = false) (hretries : c.retriesAt request stage = retries)
    (hmost : mostAt stage = if renewed then 1 else 2) (h : StageTrace c request next sent r) :
    ∃ xs, Called s xs t ∧ StageTrace c request stage (xs ++ sent) r := by
  have hended (r' : Except Error Json) (h' : stage = .ended r') : False := by
    subst h'
    cases hopen
  rw [attemptWith_run] at hrun
  revert hlook hrun
  rcases look.runFrom s with ⟨e | token, u⟩
  · rintro hlook ⟨⟩
    obtain ⟨rfl, rfl⟩ := h.ended _ rfl
    exact ⟨[], hlook, List.forall_mem_nil _, fun r' h' => (hended r' h').elim,
      (fun _ _ hr => by cases hr), List.forall_mem_nil _,
      fun _ => ⟨Nat.zero_le _, List.forall_mem_nil _⟩⟩
  · rintro hlook ⟨⟩
    have hcall : IsCallTry c request token ⟨u, _, _⟩ := isCallTry rfl
    have htrying := StageTrace.afterTry hcall.outcome h
    refine ⟨_, hlook.trans hcall.called, htrying.isCall, fun r' h' => (hended r' h').elim,
      fun _ => htrying.delivers rfl, htrying.of_delivers, ?_⟩
    rw [hretries, hmost]
    exact htrying.sentOnce

theorem CallTurns.stageTrace (h : CallTurns c request stage turns (.ended r)) :
    StageTrace c request stage (calledIn turns) r := by
  generalize hlast : CallStage.ended r = last at h
  induction h with
  | nil => exact hlast ▸ .nil r
  | @cons stage next last turn turns hopen hrun _ ih =>
    obtain ⟨_, before, after⟩ := turn
    have hrest := ih hlast
    cases stage with
    | waiting =>
      obtain ⟨xs, hcalled, htrace⟩ :=
        hrest.attemptWith (getToken_cases rfl).called hrun hopen rfl rfl
      rwa [calledIn_cons hcalled]
    | trying token retries renewed =>
      simp only [advance_trying] at hrun
      cases hrun
      have hcall : IsCallTry c request token ⟨before, _, _⟩ := isCallTry rfl
      rw [calledIn_cons hcall.called]
      exact .afterTry hcall.outcome hrest
    | rejected token retries =>
      obtain ⟨xs, hcalled, htrace⟩ :=
        hrest.attemptWith (refreshAfterRejection_cases rfl).called hrun hopen rfl rfl
      rwa [calledIn_cons hcalled]
    | ended r' => cases hopen

theorem CallTurns.trace (h : CallTurns c request .waiting turns (.ended r)) :
    CallTrace c request (calledIn turns) r where
  isCall := h.stageTrace.isCall
  delivers := h.stageTrace.delivers rfl
  of_delivers := h.stageTrace.of_delivers
  sentOnce hnone := h.stageTrace.sentOnce hnone

-- ---------------------------------------------------------------------------
-- The calls of a memo
-- ---------------------------------------------------------------------------

/-- The turns of a memo that is busy with a call are those of the call, and what follows. -/
theorem ItemTurns.of_call (busy after : CallStage → ItemStage) {call : CallStage}
    {outcome : BatchOutcome}
    (hrun : ∀ call s, (c.advanceItem (busy call)).run s =
      (after ((c.advance request call).run s).1, ((c.advance request call).run s).2))
    (hbusy : ∀ call, (busy call).isEnded = false)
    (hafter : ∀ call, call.isEnded = false → after call = busy call)
    (hcall : call.isEnded = false) (h : ItemTurns c (busy call) turns (.ended outcome)) :
    ∃ first rest r, turns = first ++ rest ∧ CallTurns c request call first (.ended r) ∧
      ItemTurns c (after (.ended r)) rest (.ended outcome) := by
  generalize hstage : busy call = stage at h
  generalize hlast : ItemStage.ended outcome = last at h
  induction h generalizing call with
  | nil =>
    have hopen := hbusy call
    rw [hstage.trans hlast.symm] at hopen
    cases hopen
  | @cons stage turn next turns last _ hstep hrest ih =>
    subst hstage hlast
    rw [hrun] at hstep
    obtain ⟨rfl, hturn⟩ := Prod.mk.inj hstep
    obtain ⟨next, hnext⟩ : ∃ next, ((c.advance request call).run turn.before).1 = next := ⟨_, rfl⟩
    have hadvance : (c.advance request call).run turn.before = (next, turn.after) :=
      Prod.ext hnext hturn
    rw [hnext] at hrest ih
    cases next with
    | ended r => exact ⟨[turn], turns, r, rfl, .cons hcall hadvance .nil, hrest⟩
    | _ =>
      obtain ⟨first, rest, r, rfl, hfirst, hend⟩ := ih rfl (hafter _ rfl).symm rfl
      exact ⟨turn :: first, rest, r, rfl, .cons hcall hadvance hfirst, hend⟩

theorem ItemTurns.of_posting {m : PreparedMemo} {outcome : BatchOutcome}
    (h : ItemTurns c (.posting m .waiting) turns (.ended outcome)) :
    ∃ first rest r, turns = first ++ rest ∧
      CallTurns c (postRequest m) .waiting first (.ended r) ∧
      ItemTurns c (.afterPost m (.ended r)) rest (.ended outcome) := by
  refine h.of_call (.posting m) (ItemStage.afterPost m) (fun _ _ => rfl) (fun _ => rfl)
    (fun call hcall => ?_) rfl
  cases call with
  | ended r => cases hcall
  | _ => rfl

theorem ItemTurns.of_linking {memo : MemoName} {attachments : List AttachmentName}
    {outcome : BatchOutcome}
    (h : ItemTurns c (.linking memo attachments .waiting) turns (.ended outcome)) :
    ∃ r, CallTurns c (linkRequest memo attachments) .waiting turns (.ended r) ∧
      ItemStage.afterLink memo attachments (.ended r) = .ended outcome := by
  have hafter (call : CallStage) (hcall : call.isEnded = false) :
      ItemStage.afterLink memo attachments call = .linking memo attachments call := by
    cases call with
    | ended r => cases hcall
    | _ => rfl
  obtain ⟨first, rest, r, rfl, hcall, hrest⟩ := h.of_call (.linking memo attachments)
    (ItemStage.afterLink memo attachments) (fun _ _ => rfl) (fun _ => rfl) hafter rfl
  obtain ⟨ended, hended⟩ : ∃ ended, ItemStage.afterLink memo attachments (.ended r) =
      .ended ended := by
    cases r with
    | error e => exact ⟨_, rfl⟩
    | ok v => exact ⟨_, rfl⟩
  rw [hended] at hrest
  obtain ⟨rfl, hlast⟩ := hrest.ended
  rw [List.append_nil]
  exact ⟨r, hcall, hended.trans hlast.symm⟩

/-- What follows on the creation of a memo: its attachments are linked, if it has some. -/
theorem ItemTurns.of_created {attachments : List AttachmentName} {result : Except Error Memo}
    {outcome : BatchOutcome}
    (h : ItemTurns c (.afterCreation attachments result) turns (.ended outcome)) :
    (turns = [] ∧ ((∃ e, result = .error e ∧ outcome = .failed e) ∨
        ∃ memo, result = .ok memo ∧ outcome = .created memo.name)) ∨
      ∃ memo r, result = .ok memo ∧ attachments ≠ [] ∧
        CallTurns c (linkRequest memo.name attachments) .waiting turns (.ended r) ∧
        ItemStage.afterLink memo.name attachments (.ended r) = .ended outcome := by
  rcases result with e | memo
  · obtain ⟨rfl, ⟨⟩⟩ := h.ended
    exact .inl ⟨rfl, .inl ⟨e, rfl, rfl⟩⟩
  · simp only [ItemStage.afterCreation] at h
    split at h
    · obtain ⟨rfl, ⟨⟩⟩ := h.ended
      exact .inl ⟨rfl, .inr ⟨memo, rfl, rfl⟩⟩
    · rename_i hsome
      obtain ⟨r, hcall, hlast⟩ := h.of_linking
      exact .inr ⟨memo, r, rfl, by simpa using hsome, hcall, hlast⟩

/-- A memo of a batch is checked in its first turn. If it is found without fault, it is posted, and
what follows depends on what came of that. -/
theorem ItemRun.IsRun.parts {run : ItemRun} (h : run.IsRun c) :
    ∃ check rest, run.turns = check :: rest ∧ check.after = check.before ∧
      ((∃ fault, run.memo.prepare = .error fault ∧ rest = [] ∧
          run.outcome = .failed (.validation fault)) ∨
        ∃ prepared posting others result, run.memo.prepare = .ok prepared ∧
          rest = posting ++ others ∧
          CallTurns c (postRequest prepared) .waiting posting (.ended result) ∧
          ItemTurns c (.afterPost prepared (.ended result)) others (.ended run.outcome)) := by
  obtain ⟨check, rest, hturns, hafter, hrest⟩ := ItemTurns.of_fresh h
  refine ⟨check, rest, hturns, hafter, ?_⟩
  cases hprepare : run.memo.prepare with
  | error fault =>
    rw [hprepare] at hrest
    obtain ⟨rfl, hlast⟩ := hrest.ended
    exact .inl ⟨fault, rfl, rfl, ItemStage.ended.inj hlast⟩
  | ok prepared =>
    rw [hprepare] at hrest
    obtain ⟨posting, others, result, rfl, hcall, hend⟩ := hrest.of_posting
    exact .inr ⟨prepared, posting, others, result, rfl, rfl, hcall, hend⟩

end RemoteNotes.Client
