import RemoteNotes.Client.State

/-!
# Runs of actions

What an action comes to from a state: its result and the state it leaves behind. A run of
actions in sequence is taken apart by `bind_runFrom`, and a relation between states that the
parts of an action respect is respected by the whole of it.
-/

namespace RemoteNotes.Action

variable {α β : Type} {s s' : ClientState}

/-- The result of an action from a state, and the state that it leaves. -/
def runFrom (act : Action α) (s : ClientState) : Except Error α × ClientState := act.run.run s

-- ---------------------------------------------------------------------------
-- Single actions
-- ---------------------------------------------------------------------------

@[simp] theorem runFrom_pure (a : α) : (pure a : Action α).runFrom s = (.ok a, s) := rfl

@[simp] theorem runFrom_throw (e : Error) : (throw e : Action α).runFrom s = (.error e, s) := rfl

@[simp] theorem runFrom_ofExcept (r : Except Error α) : (ofExcept r).runFrom s = (r, s) := rfl

@[simp] theorem runFrom_get : (get : Action ClientState).runFrom s = (.ok s, s) := rfl

@[simp] theorem runFrom_modify (f : ClientState → ClientState) :
    (modify f : Action Unit).runFrom s = (.ok (), f s) := rfl

@[simp] theorem runFrom_lift (m : StateM ClientState α) :
    Action.runFrom (ExceptT.lift m) s = (.ok (m.run s).1, (m.run s).2) := rfl

@[simp] theorem runFrom_result (act : Action α) :
    act.result.runFrom s = (.ok (act.runFrom s).1, (act.runFrom s).2) := rfl

-- ---------------------------------------------------------------------------
-- Actions in sequence
-- ---------------------------------------------------------------------------

@[simp] theorem throw_bind (e : Error) (f : α → Action β) :
    (throw e >>= f : Action β) = throw e := rfl

theorem runFrom_bind (act : Action α) (f : α → Action β) (s : ClientState) :
    (act >>= f).runFrom s = match act.runFrom s with
      | (.ok a, t) => (f a).runFrom t
      | (.error e, t) => (.error e, t) := by
  have h : (act >>= f).runFrom s = ExceptT.bindCont f (act.runFrom s).1 (act.runFrom s).2 := rfl
  rw [h]
  rcases act.runFrom s with ⟨_ | _, _⟩ <;> rfl

/-- A run of two actions gets to the second one, or ends with an error of the first. -/
theorem bind_runFrom {act : Action α} {f : α → Action β} {r : Except Error β} :
    (act >>= f).runFrom s = (r, s') ↔
      (∃ a t, act.runFrom s = (.ok a, t) ∧ (f a).runFrom t = (r, s')) ∨
        ∃ e, act.runFrom s = (.error e, s') ∧ r = .error e := by
  rw [runFrom_bind]
  rcases act.runFrom s with ⟨e | a, t⟩
  · simp only [Prod.mk.injEq, reduceCtorEq, false_and, exists_false, false_or, Except.error.injEq]
    constructor
    · rintro ⟨rfl, rfl⟩; exact ⟨e, ⟨rfl, rfl⟩, rfl⟩
    · rintro ⟨_, ⟨rfl, rfl⟩, rfl⟩; exact ⟨rfl, rfl⟩
  · simp only [Prod.mk.injEq, Except.ok.injEq, reduceCtorEq, false_and, exists_false, or_false]
    constructor
    · intro h; exact ⟨a, t, ⟨rfl, rfl⟩, h⟩
    · rintro ⟨_, _, ⟨rfl, rfl⟩, h⟩; exact h

theorem runFrom_map (g : α → β) (act : Action α) (s : ClientState) :
    (g <$> act).runFrom s = ((act.runFrom s).1.map g, (act.runFrom s).2) := by
  have h : (g <$> act).runFrom s = (act >>= fun a => pure (g a)).runFrom s := rfl
  rw [h, runFrom_bind]
  rcases act.runFrom s with ⟨_ | _, _⟩ <;> rfl

@[simp] theorem runFrom_discard (act : Action α) :
    (discard act).runFrom s = ((act.runFrom s).1.map fun _ => (), (act.runFrom s).2) :=
  runFrom_map (fun _ => ()) act s

theorem run_bind_runFrom (act : Action α) (f : Except Error α → StateM ClientState β) :
    (ExceptT.run act >>= f).run s = (f (act.runFrom s).1).run (act.runFrom s).2 := rfl

-- ---------------------------------------------------------------------------
-- Relations that actions respect
-- ---------------------------------------------------------------------------

/-- A relation between states that runs can be put together under. -/
structure Chains (R : ClientState → ClientState → Prop) : Prop where
  refl : ∀ s, R s s
  trans : ∀ {s t u}, R s t → R t u → R s u

/-- Every run of an action leaves a state that is related to the one it started from. -/
def Respects (R : ClientState → ClientState → Prop) (act : Action α) : Prop :=
  ∀ s, R s (act.runFrom s).2

namespace Respects

variable {R : ClientState → ClientState → Prop}

theorem pure (hR : Chains R) (a : α) : Respects R (Pure.pure a : Action α) := fun s => hR.refl s

theorem throw (hR : Chains R) (e : Error) : Respects R (MonadExcept.throw e : Action α) :=
  fun s => hR.refl s

theorem ofExcept (hR : Chains R) (r : Except Error α) : Respects R (Action.ofExcept r) :=
  fun s => hR.refl s

theorem get (hR : Chains R) : Respects R (MonadState.get : Action ClientState) :=
  fun s => hR.refl s

theorem bind (hR : Chains R) {act : Action α} {f : α → Action β} (hact : Respects R act)
    (hf : ∀ a, Respects R (f a)) : Respects R (act >>= f) := by
  intro s
  have h := hact s
  rw [runFrom_bind]
  revert h
  rcases act.runFrom s with ⟨e | a, t⟩
  · exact id
  · intro h; exact hR.trans h (hf a t)

theorem discard {act : Action α} (hact : Respects R act) : Respects R (Functor.discard act) := by
  intro s
  rw [runFrom_discard]
  exact hact s

theorem result {act : Action α} (hact : Respects R act) : Respects R act.result := hact

theorem retrying (hR : Chains R) {act : Action α} (hact : Respects R act) (retries : Nat) :
    Respects R (act.retrying retries) := by
  induction retries with
  | zero => exact bind hR hact fun a => pure hR (a, 0)
  | succ retries ih =>
    refine bind hR hact.result fun r => ?_
    cases r with
    | ok a => exact pure hR (a, retries + 1)
    | error e =>
      simp only
      split
      · exact ih
      · exact throw hR e

end Respects

end RemoteNotes.Action

namespace RemoteNotes

-- ---------------------------------------------------------------------------
-- The clock and the server
-- ---------------------------------------------------------------------------

namespace ClientState

def atReading (s : ClientState) (n : Nat) : ClientState := { s with readings := n }

def record (s : ClientState) (x : Exchange) : ClientState :=
  { s with exchanges := s.exchanges ++ [x] }

def hold (s : ClientState) (token : SessionToken) : ClientState := { s with token := some token }

@[simp] theorem atReading_readings (s : ClientState) : s.atReading s.readings = s := rfl

end ClientState

namespace Client

/-- The reply to a request after what a client has sent so far. -/
def replyTo (c : Client) (s : ClientState) (request : Http.Request) : Http.Reply :=
  (c.world.server (s.exchanges.map (·.request)) request).forMethod request.method

@[simp] theorem now_runFrom (c : Client) (s : ClientState) :
    c.now.runFrom s = (.ok (c.world.clock s.readings), s.atReading (s.readings + 1)) := rfl

@[simp] theorem send_runFrom (c : Client) (purpose : Purpose) (request : Http.Request)
    (s : ClientState) : (c.send purpose request).runFrom s =
      (.ok (c.replyTo s request), s.record ⟨purpose, request, c.replyTo s request, s.token⟩) := rfl

/-- A client with the usual policy in a world that holds nothing but a server. -/
def facing (credential : Credential) (server : List Http.Request → Http.Request → Http.Reply) :
    Client where
  config := { baseUrl := "https://notes.example", credential, policy := {} }
  world := { server, clock := fun _ => ⟨0, 0⟩, files := fun _ => .missing, boundary := "part",
             schedule := fun _ => 0 }

/-- A server that gives the replies of a list, one after another. -/
def scripted (replies : List Http.Reply) (past : List Http.Request) (_ : Http.Request) :
    Http.Reply :=
  replies.getD past.length .lost

/-- A client two of whose memos may be in flight. They have their turns in the given order. -/
def inPairs (credential : Credential) (replies : List Http.Reply) (schedule : List Nat) :
    Client where
  config := { (facing credential (scripted replies)).config with
    policy := { batchMode := .concurrent 2 } }
  world := { (facing credential (scripted replies)).world with
    schedule := fun turn => schedule.getD turn 0 }

/-- A reply that grants a session. -/
def granting (secret : String) : Http.Reply :=
  .answered ⟨200, [], Text.Utf8.ofString (Json.ofFields [("accessToken", .text secret)]).write,
    .complete⟩

/-- A reply that shows a memo. -/
def showing (name : String) : Http.Reply :=
  .answered ⟨200, [], Text.Utf8.ofString (Json.ofFields [
    ("name", .text name), ("state", .text "NORMAL"), ("creator", .text "users/1"),
    ("createTime", .text "2024-01-01T00:00:00Z"), ("updateTime", .text "2024-01-01T00:00:00Z"),
    ("visibility", .text "PRIVATE")]).write, .complete⟩

/-- A reply with nothing but a status. -/
def plain (status : Nat) : Http.Reply := .answered ⟨status, [], [], .complete⟩

end Client

end RemoteNotes
