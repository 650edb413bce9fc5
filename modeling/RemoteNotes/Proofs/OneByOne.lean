import RemoteNotes.Proofs.Creation

/-!
# One memo at a time

Nothing comes between the steps of a memo as long as no other one is in flight. What there is left
to do for it is then the same before and after each of its steps, so that such a batch creates its
memos one after another, each by itself (`createMemosBatch_one_by_one`).
-/

namespace RemoteNotes

open RemoteNotes.Action (runFrom runFrom_bind run_bind_runFrom)

-- ---------------------------------------------------------------------------
-- What is left of a call
-- ---------------------------------------------------------------------------

namespace Client

/-- What the last attempts of a call come to. -/
def lastAnswer (request : ApiRequest) : Answer Json × Nat → Action Json
  | (.done v, _) => return v
  | (.rejected message, _) => throw (.authentication request.operation message (some 401))

/-- What is left of a call after the attempts with its first token. -/
def firstAnswer (c : Client) (request : ApiRequest) (token : SessionToken) :
    Answer Json × Nat → Action Json
  | (.done v, _) => return v
  | (.rejected _, left) => do
    let token ← c.refreshAfterRejection token
    Action.retrying (c.callOnce request token) left >>= lastAnswer request

end Client

/-- What is left of a call if nothing comes between its steps. -/
def CallStage.rest (c : Client) (request : ApiRequest) : CallStage → Action Json
  | .waiting => c.call request
  | .trying token retries renewed => Action.retrying (c.callOnce request token) retries >>=
      if renewed then Client.lastAnswer request else c.firstAnswer request token
  | .rejected token retries => do
    let token ← c.refreshAfterRejection token
    Action.retrying (c.callOnce request token) retries >>= Client.lastAnswer request
  | .ended result => .ofExcept result

namespace Client

variable {c : Client} {request : ApiRequest}

theorem retrying_bind_runFrom {α β : Type} (act : Action α) (f : α × Nat → Action β)
    (retries : Nat) (s : ClientState) :
    (act.retrying retries >>= f).runFrom s = match act.runFrom s with
      | (.ok a, t) => (f (a, retries)).runFrom t
      | (.error e, t) => match retries with
        | 0 => (.error e, t)
        | left + 1 =>
          if e.isTransient then (act.retrying left >>= f).runFrom t else (.error e, t) := by
  cases retries with
  | zero =>
    rw [runFrom_bind, Action.retrying, runFrom_bind]
    rcases act.runFrom s with ⟨e | a, t⟩ <;> rfl
  | succ left =>
    rw [runFrom_bind, Action.retrying, runFrom_bind, Action.runFrom_result]
    rcases act.runFrom s with ⟨e | a, t⟩
    · simp only [runFrom_bind]
      cases e.isTransient <;> rfl
    · rfl

/-- An attempt leaves as much to do as there was. -/
theorem attempt_rest (token : SessionToken) (retries : Nat) (renewed : Bool) (s : ClientState) :
    ((CallStage.trying token retries renewed).rest c request).runFrom s =
      ((CallStage.afterTry request.operation token retries renewed
        ((c.callOnce request token).runFrom s).1).rest c request).runFrom
          ((c.callOnce request token).runFrom s).2 := by
  rw [CallStage.rest, retrying_bind_runFrom]
  rcases (c.callOnce request token).runFrom s with ⟨e | v | message, t⟩
  · cases retries with
    | zero => rfl
    | succ retries =>
      simp only [CallStage.afterTry]
      split <;> rfl
  · cases renewed <;> rfl
  · cases renewed <;> rfl

theorem attemptWith_rest (c : Client) (request : ApiRequest) (look : Action SessionToken)
    (retries : Nat) (renewed : Bool) (s : ClientState) :
    (do ((CallStage.trying (← look) retries renewed).rest c request)).runFrom s =
      (((c.attemptWith request look retries renewed).run s).1.rest c request).runFrom
        ((c.attemptWith request look retries renewed).run s).2 := by
  rw [runFrom_bind, attemptWith_run]
  rcases look.runFrom s with ⟨e | token, t⟩
  · rfl
  · exact attempt_rest token retries renewed t

/-- A call asks for a token, and the attempts with it are left. -/
theorem call_eq_rest (c : Client) (request : ApiRequest) : c.call request =
    (do ((CallStage.trying (← c.getToken) (c.retriesFor request) false).rest c request)) := by
  refine congrArg (c.getToken >>= ·) (funext fun token => ?_)
  refine congrArg (Action.retrying (c.callOnce request token) (c.retriesFor request) >>= ·) ?_
  funext ⟨answer, left⟩
  cases answer with
  | done v => rfl
  | rejected message =>
    refine congrArg (c.refreshAfterRejection token >>= ·) (funext fun token => ?_)
    refine congrArg (Action.retrying (c.callOnce request token) left >>= ·) ?_
    funext ⟨answer, left⟩
    cases answer <;> rfl

theorem advance_rest (stage : CallStage) (s : ClientState) :
    (stage.rest c request).runFrom s =
      (((c.advance request stage).run s).1.rest c request).runFrom
        ((c.advance request stage).run s).2 := by
  cases stage with
  | waiting =>
    rw [CallStage.rest, call_eq_rest]
    exact attemptWith_rest c request c.getToken (c.retriesFor request) false s
  | trying token retries renewed => exact attempt_rest token retries renewed s
  | rejected token retries =>
    exact attemptWith_rest c request (c.refreshAfterRejection token) retries true s
  | ended r => rfl

end Client

-- ---------------------------------------------------------------------------
-- What is left of a memo
-- ---------------------------------------------------------------------------

namespace Client

/-- What is left of a memo whose attachments are to be linked by a call that is left. -/
def linkRest (memo : MemoName) (call : Action Json) : StateM ClientState BatchOutcome := do
  match ← call.run with
  | .ok _ => return .created memo
  | .error e => return .createdWithError memo e

/-- What is left of a memo once its creation came to something. -/
def creationRest (c : Client) (attachments : List AttachmentName) :
    Except Error Memo → StateM ClientState BatchOutcome
  | .error e => return .failed e
  | .ok memo =>
    if attachments.isEmpty then return .created memo.name
    else linkRest memo.name (c.call (linkRequest memo.name attachments))

end Client

/-- What is left of a memo of a batch if nothing comes between its steps. -/
def ItemStage.rest (c : Client) : ItemStage → StateM ClientState BatchOutcome
  | .fresh m => c.createItem m
  | .posting m call => do
    let result ← (call.rest c (Client.postRequest m)).run
    c.creationRest m.attachments (result.bind fun v => (WireModel.ofWire v).mapError .validation)
  | .linking memo attachments call =>
    Client.linkRest memo (call.rest c (Client.linkRequest memo attachments))
  | .ended outcome => return outcome

namespace Client

variable {c : Client} {s : ClientState}

theorem linkRest_run (memo : MemoName) (call : Action Json) (s : ClientState) :
    (linkRest memo call).run s = match call.runFrom s with
      | (.ok _, t) => (.created memo, t)
      | (.error e, t) => (.createdWithError memo e, t) := by
  rw [linkRest, run_bind_runFrom]
  rcases call.runFrom s with ⟨_ | _, _⟩ <;> rfl

theorem afterCreation_rest (attachments : List AttachmentName) (r : Except Error Memo) :
    (ItemStage.afterCreation attachments r).rest c = c.creationRest attachments r := by
  cases r with
  | error e => rfl
  | ok memo =>
    simp only [ItemStage.afterCreation, creationRest]
    split <;> rfl

theorem afterPost_rest (m : PreparedMemo) (call : CallStage) :
    (ItemStage.afterPost m call).rest c = (ItemStage.posting m call).rest c := by
  cases call with
  | ended r => exact afterCreation_rest _ _
  | _ => rfl

theorem afterLink_rest (memo : MemoName) (attachments : List AttachmentName) (call : CallStage) :
    (ItemStage.afterLink memo attachments call).rest c =
      (ItemStage.linking memo attachments call).rest c := by
  cases call with
  | ended r => cases r <;> rfl
  | _ => rfl

theorem createItem_rest (m : NewMemo) (s : ClientState) :
    (c.createItem m).run s = ((ItemStage.afterCheck m.prepare).rest c).run s := by
  rw [createItem_run]
  cases m.prepare with
  | error fault => rfl
  | ok prepared =>
    have hpost : (c.postMemo prepared).runFrom s = _ := fetch_runFrom c (postRequest prepared) s
    have hrest : ((ItemStage.afterCheck (.ok prepared)).rest c).run s =
        (c.creationRest prepared.attachments
          (((c.call (postRequest prepared)).runFrom s).1.bind fun v =>
            (WireModel.ofWire v).mapError .validation)).run
          ((c.call (postRequest prepared)).runFrom s).2 := rfl
    rw [hrest]
    simp only [hpost]
    rcases Except.bind _ _ with e | created
    · rfl
    · simp only [creationRest, linkAttachments_runFrom]
      split
      · rfl
      · rw [linkRest_run]
        rcases (c.call (linkRequest created.name prepared.attachments)).runFrom _ with ⟨_ | _, _⟩ <;>
          rfl

/-- A step of a memo leaves as much to do as there was. -/
theorem advanceItem_rest (stage : ItemStage) (s : ClientState) :
    (stage.rest c).run s =
      (((c.advanceItem stage).run s).1.rest c).run ((c.advanceItem stage).run s).2 := by
  cases stage with
  | fresh m => exact createItem_rest m s
  | posting m call =>
    rw [advanceItem_posting, afterPost_rest, ItemStage.rest, ItemStage.rest, run_bind_runFrom,
      run_bind_runFrom, advance_rest]
  | linking memo attachments call =>
    rw [advanceItem_linking, afterLink_rest, ItemStage.rest, ItemStage.rest, linkRest_run,
      linkRest_run, advance_rest]
  | ended outcome => rfl

-- ---------------------------------------------------------------------------
-- What is left of a batch
-- ---------------------------------------------------------------------------

/-- A step of the first memo that has not come to its end leaves as much to do as there was. -/
theorem mapM_rest_set {stages : List ItemStage} {place : Nat} {stage : ItemStage}
    (hstage : stages[place]? = some stage)
    (hfirst : ∀ i < place, ∀ st, stages[i]? = some st → st.isEnded = true) (s : ClientState) :
    (stages.mapM (ItemStage.rest c)).run s =
      ((stages.set place ((c.advanceItem stage).run s).1).mapM (ItemStage.rest c)).run
        ((c.advanceItem stage).run s).2 := by
  induction stages generalizing place with
  | nil => cases hstage
  | cons head stages ih =>
    cases place with
    | zero =>
      cases hstage
      rw [List.set_cons_zero, List.mapM_cons, List.mapM_cons, StateT.run_bind, StateT.run_bind,
        advanceItem_rest]
    | succ place =>
      have hhead := hfirst 0 (Nat.succ_pos _) head rfl
      cases head with
      | ended outcome =>
        have hrest := @ih place hstage fun i hi st hst =>
          hfirst (i + 1) (Nat.succ_lt_succ hi) st hst
        rw [List.set_cons_succ, List.mapM_cons, List.mapM_cons, StateT.run_bind, StateT.run_bind]
        change ((stages.mapM (ItemStage.rest c)) >>= _ : StateM ClientState _).run s =
          ((List.mapM (ItemStage.rest c) _) >>= _ : StateM ClientState _).run _
        rw [StateT.run_bind, StateT.run_bind, hrest]
        rfl
      | _ => cases hhead

/-- Nothing is left of a batch that has come to its end. -/
theorem mapM_rest_ended (outcomes : List BatchOutcome) (s : ClientState) :
    ((outcomes.map .ended).mapM (ItemStage.rest c)).run s = (outcomes, s) := by
  induction outcomes with
  | nil => rfl
  | cons outcome outcomes ih =>
    rw [List.map_cons, List.mapM_cons, StateT.run_bind]
    change ((outcomes.map .ended).mapM (ItemStage.rest c) >>= _ : StateM ClientState _).run s = _
    rw [StateT.run_bind, ih]
    rfl

/-- Where one memo is in flight at a time, it is the first one that has not come to its end. -/
theorem isEnded_before_chosen {width turn place : Nat} {stages : List ItemStage}
    {stage : ItemStage} (h : c.chosen? width turn stages = some (place, stage))
    (hsolo : width ≤ 1 ∨ stages.length ≤ 1) :
    ∀ i < place, ∀ st, stages[i]? = some st → st.isEnded = true := by
  obtain ⟨hmem, hstage, -⟩ := chosen?_eq_some h
  obtain ⟨⟨hle, hlt⟩, -⟩ := ItemStage.mem_inFlight.mp hmem
  intro i hi st hst
  have hplace : place < stages.length := (List.getElem?_eq_some_iff.mp hstage).1
  have hi' : i < stages.findIdx fun stage => !stage.isEnded := by omega
  obtain ⟨hlen, rfl⟩ := List.getElem?_eq_some_iff.mp hst
  simpa using List.not_of_lt_findIdx hi'

theorem fly_one_by_one (c : Client) {width : Nat} (turn : Nat) (stages : List ItemStage)
    (s : ClientState) (hwidth : 0 < width) (hsolo : width ≤ 1 ∨ stages.length ≤ 1) :
    c.fly width turn stages s =
      (((stages.mapM (ItemStage.rest c)).run s).1.map .ended,
        ((stages.mapM (ItemStage.rest c)).run s).2) := by
  fun_induction fly c width turn stages s with
  | case1 turn stages s hnone =>
    obtain ⟨outcomes, rfl⟩ := exists_outcomes (isEnded_of_chosen? hwidth hnone)
    rw [mapM_rest_ended]
  | case2 turn stages s place stage hchosen next ih =>
    rw [ih (by rwa [List.length_set]),
      mapM_rest_set (chosen?_eq_some hchosen).2.1 (isEnded_before_chosen hchosen hsolo)]

/-- A batch with one memo in flight at a time creates its memos one after another. -/
theorem createMemosBatch_one_by_one (c : Client) (memos : List NewMemo) (s : ClientState)
    (hsolo : maxInFlight c.config.policy.batchMode ≤ 1 ∨ memos.length ≤ 1) :
    (c.createMemosBatch memos).run s =
      (.ofItems (((memos.mapM c.createItem).run s).1.mapIdx .mk),
        ((memos.mapM c.createItem).run s).2) := by
  have hrest : (memos.map .fresh).mapM (ItemStage.rest c) = memos.mapM c.createItem := by
    rw [List.mapM_map]
    rfl
  have hfly := c.fly_one_by_one 0 (memos.map .fresh) s
    (maxInFlight_pos c.config.policy.batchMode) (by rwa [List.length_map])
  rw [hrest] at hfly
  simp only [createMemosBatch_run, hfly, items_ended]

/-- Such a batch keeps what calls keep. -/
theorem KeepsCalls.createMemosBatch {R : ClientState → ClientState → Prop} (h : KeepsCalls c R)
    {memos : List NewMemo}
    (hsolo : maxInFlight c.config.policy.batchMode ≤ 1 ∨ memos.length ≤ 1) (s : ClientState) :
    R s ((c.createMemosBatch memos).run s).2 := by
  rw [createMemosBatch_one_by_one c memos s hsolo]
  clear hsolo
  change R s ((memos.mapM c.createItem).run s).2
  induction memos generalizing s with
  | nil => exact h.refl s
  | cons m memos ih =>
    rw [List.mapM_cons, StateT.run_bind]
    change R s ((memos.mapM c.createItem >>= _ : StateM ClientState _).run _).2
    rw [StateT.run_bind]
    exact h.trans (h.createItem m s) (ih _)

end Client

end RemoteNotes
