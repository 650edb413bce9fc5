import RemoteNotes.Client.Call
import RemoteNotes.Memo.New

/-!
# Calls and memos in steps

A call that shares its client with others goes on in steps, and the others have their steps while
it waits for a reply. It keeps a copy of its token: what the others do to the token that the client
holds is not noticed before the server rejects the copy. The memos of a batch that are in flight
together go on in the steps of their calls.

A step goes from one reply that is waited for to the next one. A login is a part of its step:
whoever needs another token waits for the login to end, and what else goes on besides it is done
with tokens that were there before, so that it might as well have come first.
-/

namespace RemoteNotes

/-- How far a call has come. -/
inductive CallStage
  | waiting
  /-- It is to be repeated with its copy of a token, be that the first one or its replacement. -/
  | trying (token : SessionToken) (retries : Nat) (renewed : Bool)
  | rejected (token : SessionToken) (retries : Nat)
  | ended (result : Except Error Json)

namespace CallStage

def isEnded : CallStage → Bool
  | .ended _ => true
  | _ => false

/-- What follows on an attempt. -/
def afterTry (operation : String) (token : SessionToken) (retries : Nat) (renewed : Bool) :
    Except Error (Answer Json) → CallStage
  | .ok (.done v) => .ended (.ok v)
  | .ok (.rejected message) =>
    if renewed then .ended (.error (.authentication operation message (some 401)))
    else .rejected token retries
  | .error e =>
    match retries with
    | 0 => .ended (.error e)
    | retries + 1 => if e.isTransient then .trying token retries renewed else .ended (.error e)

/-- How many steps a call can take at most whose client repeats so many failed attempts. -/
def stepsLeft (most : Nat) : CallStage → Nat
  | .waiting => most + 4
  | .trying _ retries false => retries + 3
  | .rejected _ retries => retries + 2
  | .trying _ retries true => retries + 1
  | .ended _ => 0

theorem stepsLeft_afterTry {most retries : Nat} {operation : String} {token : SessionToken}
    {renewed : Bool} (r : Except Error (Answer Json)) :
    (afterTry operation token retries renewed r).stepsLeft most <
      (trying token retries renewed).stepsLeft most := by
  rcases r with e | v | message
  · cases retries with
    | zero => cases renewed <;> exact Nat.succ_pos _
    | succ retries =>
      simp only [afterTry]
      split <;> cases renewed <;> simp only [stepsLeft] <;> omega
  · cases renewed <;> exact Nat.succ_pos _
  · cases renewed <;> simp [afterTry, stepsLeft]

end CallStage

namespace Client

theorem retriesFor_le (c : Client) (request : ApiRequest) : c.retriesFor request ≤ c.retries := by
  unfold retriesFor
  split
  · exact Nat.le_refl _
  · exact Nat.zero_le _

def attempt (c : Client) (request : ApiRequest) (token : SessionToken) (retries : Nat)
    (renewed : Bool) : StateM ClientState CallStage :=
  return .afterTry request.operation token retries renewed (← (c.callOnce request token).run)

/-- An attempt with a token that is asked for first. -/
def attemptWith (c : Client) (request : ApiRequest) (look : Action SessionToken) (retries : Nat)
    (renewed : Bool) : StateM ClientState CallStage := do
  match ← look.run with
  | .error e => return .ended (.error e)
  | .ok token => c.attempt request token retries renewed

/-- The next step of a call. -/
def advance (c : Client) (request : ApiRequest) : CallStage → StateM ClientState CallStage
  | .waiting => c.attemptWith request c.getToken (c.retriesFor request) false
  | .trying token retries renewed => c.attempt request token retries renewed
  | .rejected token retries =>
    c.attemptWith request (c.refreshAfterRejection token) retries true
  | .ended result => return .ended result

theorem attemptWith_stepsLeft (c : Client) (request : ApiRequest) (look : Action SessionToken)
    (retries : Nat) (renewed : Bool) (s : ClientState) :
    ((c.attemptWith request look retries renewed).run s).1.stepsLeft c.retries ≤
      retries + if renewed then 1 else 3 := by
  change ((match (look.run s).1 with
    | .error e => pure (.ended (.error e))
    | .ok token => c.attempt request token retries renewed : StateM ClientState CallStage).run
      (look.run s).2).1.stepsLeft c.retries ≤ _
  rcases (look.run s).1 with e | token
  · exact Nat.zero_le _
  · have hlt : ((c.attempt request token retries renewed).run (look.run s).2).1.stepsLeft
        c.retries < (CallStage.trying token retries renewed).stepsLeft c.retries :=
      CallStage.stepsLeft_afterTry _
    refine Nat.le_trans (Nat.le_of_lt hlt) ?_
    cases renewed <;> exact Nat.le_refl _

/-- Every step of a call takes it to its end or closer to it. -/
theorem advance_stepsLeft (c : Client) (request : ApiRequest) (stage : CallStage)
    (s : ClientState) :
    (∃ r, ((c.advance request stage).run s).1 = .ended r) ∨
      ((c.advance request stage).run s).1.stepsLeft c.retries < stage.stepsLeft c.retries := by
  cases stage with
  | waiting =>
    have hle := c.retriesFor_le request
    refine .inr (Nat.lt_of_le_of_lt (attemptWith_stepsLeft c request _ _ false s) ?_)
    simp only [CallStage.stepsLeft, Bool.false_eq_true, ↓reduceIte]
    omega
  | trying token retries renewed => exact .inr (CallStage.stepsLeft_afterTry _)
  | rejected token retries =>
    exact .inr (Nat.lt_succ_of_le (attemptWith_stepsLeft c request _ _ true s))
  | ended r => exact .inl ⟨r, rfl⟩

end Client

/-- How far a memo of a batch has come. -/
inductive ItemStage
  | fresh (memo : NewMemo)
  | posting (memo : PreparedMemo) (call : CallStage)
  | linking (memo : MemoName) (attachments : List AttachmentName) (call : CallStage)
  | ended (outcome : BatchOutcome)

namespace ItemStage

def isEnded : ItemStage → Bool
  | .ended _ => true
  | _ => false

/-- What follows on the check of a memo. -/
def afterCheck : Except ValidationError PreparedMemo → ItemStage
  | .error fault => .ended (.failed fault)
  | .ok m => .posting m .waiting

/-- What follows on the creation of a memo. Its attachments are linked, if it has some. -/
def afterCreation (attachments : List AttachmentName) : Except Error Memo → ItemStage
  | .error e => .ended (.failed e)
  | .ok memo =>
    if attachments.isEmpty then .ended (.created memo.name)
    else .linking memo.name attachments .waiting

def afterPost (m : PreparedMemo) : CallStage → ItemStage
  | .ended r =>
    afterCreation m.attachments (r.bind fun v => (WireModel.ofWire v).mapError .validation)
  | call => .posting m call

def afterLink (memo : MemoName) (attachments : List AttachmentName) : CallStage → ItemStage
  | .ended (.ok _) => .ended (.created memo)
  | .ended (.error e) => .ended (.createdWithError memo e)
  | call => .linking memo attachments call

/-- How many steps a memo can take at most. -/
def stepsLeft (most : Nat) : ItemStage → Nat
  | .fresh _ => 2 * most + 11
  | .posting _ call => call.stepsLeft most + most + 6
  | .linking _ _ call => call.stepsLeft most + 1
  | .ended _ => 0

theorem stepsLeft_afterCheck {most : Nat} (m : NewMemo)
    (r : Except ValidationError PreparedMemo) :
    (afterCheck r).stepsLeft most < (fresh m).stepsLeft most := by
  cases r <;> simp only [afterCheck, stepsLeft, CallStage.stepsLeft] <;> omega

theorem stepsLeft_afterPost {most : Nat} {m : PreparedMemo} {call next : CallStage}
    (h : (∃ r, next = .ended r) ∨ next.stepsLeft most < call.stepsLeft most) :
    (afterPost m next).stepsLeft most < (posting m call).stepsLeft most := by
  cases next with
  | ended r =>
    simp only [afterPost]
    rcases r.bind _ with e | memo
    · simp only [afterCreation, stepsLeft]
      omega
    · simp only [afterCreation]
      split <;> simp only [stepsLeft, CallStage.stepsLeft] <;> omega
  | _ =>
    have hlt := h.resolve_left (by rintro ⟨r, ⟨⟩⟩)
    simp only [afterPost, stepsLeft]
    omega

theorem stepsLeft_afterLink {most : Nat} {memo : MemoName} {attachments : List AttachmentName}
    {call next : CallStage}
    (h : (∃ r, next = .ended r) ∨ next.stepsLeft most < call.stepsLeft most) :
    (afterLink memo attachments next).stepsLeft most <
      (linking memo attachments call).stepsLeft most := by
  cases next with
  | ended r => cases r <;> exact Nat.succ_pos _
  | _ =>
    have hlt := h.resolve_left (by rintro ⟨r, ⟨⟩⟩)
    simp only [afterLink, stepsLeft]
    omega

/-! ### In flight -/

/-- The places of the memos that can go on. The first memo that has not come to its end opens a
window of so many places, and of the memos in it those can go on that have not either. -/
def inFlight (width : Nat) (stages : List ItemStage) : List Nat :=
  (List.range' (stages.findIdx fun stage => !stage.isEnded) width).filter fun place =>
    (stages[place]?).any fun stage => !stage.isEnded

theorem mem_inFlight {width place : Nat} {stages : List ItemStage} :
    place ∈ inFlight width stages ↔
      (stages.findIdx (fun stage => !stage.isEnded) ≤ place ∧
        place < stages.findIdx (fun stage => !stage.isEnded) + width) ∧
      ∃ stage, stages[place]? = some stage ∧ stage.isEnded = false := by
  simp [inFlight, List.mem_range'_1, Option.any_eq_true]

/-- How many steps the memos of a batch can take at most. -/
def allStepsLeft (most : Nat) : List ItemStage → Nat
  | [] => 0
  | stage :: stages => stage.stepsLeft most + allStepsLeft most stages

/-- A step of one memo takes the whole batch closer to its end. -/
theorem allStepsLeft_set {most place : Nat} {stages : List ItemStage} {stage next : ItemStage}
    (hstage : stages[place]? = some stage) (hlt : next.stepsLeft most < stage.stepsLeft most) :
    allStepsLeft most (stages.set place next) < allStepsLeft most stages := by
  induction stages generalizing place with
  | nil => cases hstage
  | cons first rest ih =>
    cases place with
    | zero =>
      cases hstage
      exact Nat.add_lt_add_right hlt _
    | succ place => exact Nat.add_lt_add_left (@ih place hstage) _

def item? (stage : ItemStage) (place : Nat) : Option BatchItem :=
  match stage with
  | .ended outcome => some (.mk place outcome)
  | _ => none

/-- What became of the memos that have come to their ends, each at its place. -/
def items (stages : List ItemStage) : List BatchItem :=
  stages.zipIdx.filterMap fun (stage, place) => stage.item? place

end ItemStage

end RemoteNotes
