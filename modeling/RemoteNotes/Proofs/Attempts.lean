import RemoteNotes.Client.Call
import RemoteNotes.Proofs.Session

/-!
# Attempts

An action that is retried has a sequence of tries (`Tries`): all but the last one failed for
the time being. Work that needs a token has at most two such sequences, the second one with
the token that came in the place of a rejected one (`TokenedRun`), and both share the retries
of the work. How many attempts there are and how they end follows from the two facts
(`TokenedRun.withinBounds`).
-/

namespace RemoteNotes.Client

open RemoteNotes.Action (runFrom runFrom_bind run_bind_runFrom)

variable {α β : Type}

theorem of_mem_dropLast_append {xs ys : List α} {a : α} (h : a ∈ (xs ++ ys).dropLast) :
    a ∈ xs ∨ a ∈ ys.dropLast := by
  rw [List.dropLast_append] at h
  split at h
  · exact .inl (List.dropLast_subset _ h)
  · exact List.mem_append.mp h

-- ---------------------------------------------------------------------------
-- Tries
-- ---------------------------------------------------------------------------

/-- One run of an action that may be repeated. -/
structure Try (β : Type) where
  before : ClientState
  result : Except Error β
  after : ClientState

namespace Try

def failedForNow (t : Try β) : Bool :=
  match t.result with
  | .error e => e.isTransient
  | .ok _ => false

/-- The server rejected the token. -/
def wasRejected (t : Try (Answer α)) : Bool :=
  match t.result with
  | .ok (.rejected _) => true
  | _ => false

theorem wasRejected_eq_false {t : Try (Answer α)} (h : t.failedForNow = true) :
    t.wasRejected = false := by
  obtain ⟨_, e | a, _⟩ := t
  · rfl
  · cases h

end Try

/-- The tries of an action with some retries left: how they end, and how many are left then. -/
inductive Tries (act : Action β) : Nat → ClientState → List (Try β) →
    Except Error (β × Nat) → ClientState → Prop
  | done {left s a s'} : act.runFrom s = (.ok a, s') →
    Tries act left s [⟨s, .ok a, s'⟩] (.ok (a, left)) s'
  | failed {left s e s'} : act.runFrom s = (.error e, s') → (e.isTransient = true → left = 0) →
    Tries act left s [⟨s, .error e, s'⟩] (.error e) s'
  | again {left s e t tries r s'} : act.runFrom s = (.error e, t) → e.isTransient = true →
    Tries act left t tries r s' → Tries act (left + 1) s (⟨s, .error e, t⟩ :: tries) r s'

theorem retrying_tries (act : Action β) (left : Nat) (s : ClientState) :
    ∃ tries, Tries act left s tries ((act.retrying left).runFrom s).1
      ((act.retrying left).runFrom s).2 := by
  induction left generalizing s with
  | zero =>
    rw [Action.retrying, runFrom_bind]
    rcases hrun : act.runFrom s with ⟨e | a, t⟩
    · exact ⟨_, .failed hrun fun _ => rfl⟩
    · exact ⟨_, .done hrun⟩
  | succ left ih =>
    rw [Action.retrying, runFrom_bind, Action.runFrom_result]
    rcases hrun : act.runFrom s with ⟨e | a, t⟩
    · cases he : e.isTransient with
      | true =>
        obtain ⟨tries, htries⟩ := ih t
        simp only [he, ↓reduceIte]
        exact ⟨_, .again hrun he htries⟩
      | false =>
        simp only [he, Bool.false_eq_true, ↓reduceIte]
        exact ⟨_, .failed hrun fun h => by cases he.symm.trans h⟩
    · exact ⟨_, .done hrun⟩

/-- There are no other tries than those of the run. -/
theorem Tries.run {act : Action β} {left : Nat} {s s' : ClientState} {tries : List (Try β)}
    {r : Except Error (β × Nat)} (h : Tries act left s tries r s') :
    (act.retrying left).runFrom s = (r, s') := by
  induction h with
  | @done left s a s' hrun =>
    cases left with
    | zero => rw [Action.retrying, runFrom_bind, hrun]; rfl
    | succ left => rw [Action.retrying, runFrom_bind, Action.runFrom_result, hrun]; rfl
  | @failed left s e s' hrun hleft =>
    cases left with
    | zero => rw [Action.retrying, runFrom_bind, hrun]
    | succ left =>
      have hfinal : e.isTransient = false := by
        cases he : e.isTransient with
        | false => rfl
        | true => cases hleft he
      rw [Action.retrying, runFrom_bind, Action.runFrom_result, hrun]
      simp [hfinal]
  | again hrun he _ ih =>
    rw [Action.retrying, runFrom_bind, Action.runFrom_result, hrun]
    simp only [he, ↓reduceIte]
    exact ih

/-- How tries end that began with some retries: a value leaves those that were not needed,
and an error that might pass leaves none. -/
def EndsLike (left failures : Nat) (last : Try β) : Except Error (β × Nat) → Prop
  | .ok (a, rest) => last.result = .ok a ∧ failures + rest = left
  | .error e => last.result = .error e ∧ failures ≤ left ∧ (e.isTransient = true → failures = left)

theorem EndsLike.le {left failures : Nat} {last : Try β} {r : Except Error (β × Nat)}
    (h : EndsLike left failures last r) : failures ≤ left := by
  rcases r with e | ⟨a, rest⟩
  · exact h.2.1
  · exact Nat.le.intro h.2

/-- All tries but the last one failed for the time being. -/
theorem Tries.shape {act : Action β} {left : Nat} {s s' : ClientState} {tries : List (Try β)}
    {r : Except Error (β × Nat)} (h : Tries act left s tries r s') :
    ∃ front last, tries = front ++ [last] ∧ (∀ t ∈ front, t.failedForNow = true) ∧
      EndsLike left front.length last r := by
  induction h with
  | done => exact ⟨[], _, rfl, List.forall_mem_nil _, rfl, Nat.zero_add _⟩
  | failed _ hleft =>
    exact ⟨[], _, rfl, List.forall_mem_nil _, rfl, Nat.zero_le _, fun he => (hleft he).symm⟩
  | @again left s e t tries r s' _ he _ ih =>
    -- the failed try in front takes one of the retries
    obtain ⟨front, last, rfl, hfront, hend⟩ := ih
    refine ⟨⟨s, .error e, t⟩ :: front, last, rfl, List.forall_mem_cons.mpr ⟨he, hfront⟩, ?_⟩
    rcases r with e' | ⟨a, rest⟩
    · obtain ⟨hlast, hle, heq⟩ := hend
      exact ⟨hlast, Nat.succ_le_succ hle, fun h => congrArg Nat.succ (heq h)⟩
    · obtain ⟨hlast, hsum⟩ := hend
      exact ⟨hlast, by rw [List.length_cons]; omega⟩

/-- What holds of every run of an action holds of its tries. -/
theorem Tries.forall_mem {act : Action β} {left : Nat} {s s' : ClientState}
    {tries : List (Try β)} {r : Except Error (β × Nat)} (h : Tries act left s tries r s')
    {P : Try β → Prop} (hP : ∀ s r s', act.runFrom s = (r, s') → P ⟨s, r, s'⟩) :
    ∀ t ∈ tries, P t := by
  induction h with
  | done hrun => exact List.forall_mem_singleton.mpr (hP _ _ _ hrun)
  | failed hrun => exact List.forall_mem_singleton.mpr (hP _ _ _ hrun)
  | again hrun _ _ ih => exact List.forall_mem_cons.mpr ⟨hP _ _ _ hrun, ih⟩

theorem Tries.length_pos {act : Action β} {left : Nat} {s s' : ClientState}
    {tries : List (Try β)} {r : Except Error (β × Nat)} (h : Tries act left s tries r s') :
    0 < tries.length := by
  cases h <;> exact Nat.succ_pos _

/-- A failed try is followed by another one where the policy says so of its number, and only
there. -/
theorem Tries.shouldRetry_iff {act : Action β} {left : Nat} {s s' : ClientState}
    {tries : List (Try β)} {r : Except Error (β × Nat)} (h : Tries act left s tries r s')
    (p : RetryPolicy) (attempt : Nat) (hattempt : attempt + left = p.maxAttempts) {i : Nat}
    {t : Try β} (ht : tries[i]? = some t) {e : Error} (he : t.result = .error e) :
    p.shouldRetry (attempt + i) e = true ↔ i + 1 < tries.length := by
  induction h generalizing attempt i with
  | done =>
    simp only [List.getElem?_singleton, Option.ite_none_right_eq_some, Option.some.injEq] at ht
    obtain ⟨-, rfl⟩ := ht
    cases he
  | failed _ hleft =>
    simp only [List.getElem?_singleton, Option.ite_none_right_eq_some, Option.some.injEq] at ht
    obtain ⟨rfl, rfl⟩ := ht
    cases he
    simp only [RetryPolicy.shouldRetry, Bool.and_eq_true, decide_eq_true_eq]
    constructor
    · rintro ⟨hlt, htransient⟩
      have hnone := hleft htransient
      omega
    · exact fun hlt => absurd hlt (Nat.lt_irrefl 1)
  | again _ htransient hrest ih =>
    cases i with
    | zero =>
      simp only [List.getElem?_cons_zero, Option.some.injEq] at ht
      subst ht
      cases he
      have hpos := hrest.length_pos
      simp only [RetryPolicy.shouldRetry, htransient, Bool.and_true, decide_eq_true_eq,
        List.length_cons]
      omega
    | succ i =>
      rw [List.getElem?_cons_succ] at ht
      have hiff := ih (attempt + 1) (by omega) ht
      rw [Nat.add_right_comm attempt 1 i] at hiff
      rw [List.length_cons, ← Nat.add_assoc, hiff]
      omega

-- ---------------------------------------------------------------------------
-- Work that needs a token
-- ---------------------------------------------------------------------------

/-- What the last try means for the work as a whole, once no other token will be tried. -/
def settle (operation : String) : Except Error (Answer α × Nat) → Except Error α
  | .ok (.done a, _) => .ok a
  | .ok (.rejected message, _) => .error (.authentication operation message (some 401))
  | .error e => .error e

theorem settle_eq_ok {operation : String} {r : Except Error (Answer α × Nat)} {a : α} :
    settle operation r = .ok a ↔ ∃ left, r = .ok (.done a, left) := by
  rcases r with e | ⟨a' | m, left⟩ <;> simp [settle]

section

variable (c : Client) (operation : String) (retries : Nat)
  (attempt : SessionToken → Action (Answer α)) (s : ClientState)

/-- The tries of work that needs a token, those with the first token before those with the
second one, and how often a token was asked for in the place of a rejected one. -/
inductive TokenedRun : List (Try (Answer α)) → List (Try (Answer α)) → Nat → Except Error α →
    ClientState → Prop
  | noToken {e s'} : c.getToken.runFrom s = (.error e, s') → TokenedRun [] [] 0 (.error e) s'
  | settled {token t first r s'} : c.getToken.runFrom s = (.ok token, t) →
    Tries (attempt token) retries t first r s' → (∀ m left, r ≠ .ok (.rejected m, left)) →
    TokenedRun first [] 0 (settle operation r) s'
  | notRenewed {token t first m left u e s'} : c.getToken.runFrom s = (.ok token, t) →
    Tries (attempt token) retries t first (.ok (.rejected m, left)) u →
    (c.refreshAfterRejection token).runFrom u = (.error e, s') →
    TokenedRun first [] 1 (.error e) s'
  | renewed {token t first m left u token' v second r s'} :
    c.getToken.runFrom s = (.ok token, t) →
    Tries (attempt token) retries t first (.ok (.rejected m, left)) u →
    (c.refreshAfterRejection token).runFrom u = (.ok token', v) →
    Tries (attempt token') left v second r s' →
    TokenedRun first second 1 (settle operation r) s'

theorem withToken_run :
    ∃ first second renewals, TokenedRun c operation retries attempt s first second renewals
      ((c.withToken operation retries attempt).runFrom s).1
      ((c.withToken operation retries attempt).runFrom s).2 := by
  unfold withToken
  rw [runFrom_bind]
  rcases htoken : c.getToken.runFrom s with ⟨e | token, t⟩
  · exact ⟨_, _, _, .noToken htoken⟩
  simp only
  rw [runFrom_bind]
  obtain ⟨first, hfirst⟩ := retrying_tries (attempt token) retries t
  rcases hrun : ((attempt token).retrying retries).runFrom t with ⟨e | ⟨_ | m, left⟩, u⟩ <;>
    rw [hrun] at hfirst
  · exact ⟨_, _, _, .settled htoken hfirst nofun⟩
  · exact ⟨_, _, _, .settled htoken hfirst nofun⟩
  simp only
  rw [runFrom_bind]
  rcases hrefresh : (c.refreshAfterRejection token).runFrom u with ⟨e | token', v⟩
  · exact ⟨_, _, _, .notRenewed htoken hfirst hrefresh⟩
  simp only
  rw [runFrom_bind]
  obtain ⟨second, hsecond⟩ := retrying_tries (attempt token') left v
  rcases hrun : ((attempt token').retrying left).runFrom v with ⟨e | ⟨_ | m, left⟩, u⟩ <;>
    rw [hrun] at hsecond <;>
    exact ⟨_, _, _, .renewed htoken hfirst hrefresh hsecond⟩

end

theorem TokenedRun.run {c : Client} {operation : String} {retries renewals : Nat}
    {attempt : SessionToken → Action (Answer α)} {s s' : ClientState}
    {first second : List (Try (Answer α))} {r : Except Error α}
    (h : TokenedRun c operation retries attempt s first second renewals r s') :
    (c.withToken operation retries attempt).runFrom s = (r, s') := by
  unfold withToken
  cases h with
  | noToken hget => rw [runFrom_bind, hget]
  | @settled _ _ _ r _ hget htries hsettled =>
    simp only [runFrom_bind, hget, htries.run]
    rcases r with e | ⟨a | message, left⟩
    · rfl
    · rfl
    · exact absurd rfl (hsettled message left)
  | notRenewed hget htries hrefresh =>
    simp only [runFrom_bind, hget, htries.run, hrefresh]
  | @renewed _ _ _ _ _ _ _ _ _ r _ hget htries hrefresh htries' =>
    simp only [runFrom_bind, hget, htries.run, hrefresh, htries'.run]
    rcases r with e | ⟨a | message, left⟩ <;> rfl

-- ---------------------------------------------------------------------------
-- How many attempts there are
-- ---------------------------------------------------------------------------

/-- The bounds on the attempts of work with at most `N` tries in all, which are used only
where failures are `allowed`, and on how often its token is renewed. -/
structure WithinBounds (operation : String) (N : Nat) (allowed : Bool)
    (attempts : List (Try (Answer α))) (renewals : Nat) (r : Except Error α) : Prop where
  few : attempts.length ≤ if allowed then N + 1 else 2
  renewedOnce : renewals ≤ 1
  /-- Only a rejection or a failure that might pass is followed by another attempt. -/
  front : ∀ t ∈ attempts.dropLast,
    t.wasRejected = true ∨ allowed = true ∧ t.failedForNow = true
  rejectedOnce : attempts.dropLast.countP (·.wasRejected) ≤ 1
  /-- A second rejection is the end. -/
  rejectedTwice : attempts.countP (·.wasRejected) = 2 →
    (∃ last ∈ attempts.getLast?, last.wasRejected = true) ∧
      ∃ message, r = .error (.authentication operation message (some 401))
  /-- A failure that might pass is the end only where no tries are left. -/
  exhausted : allowed = true → ∀ e, r = .error e → e.isTransient = true →
    attempts.countP (·.failedForNow) = N

def retriesOf (N : Nat) (allowed : Bool) : Nat := if allowed then N - 1 else 0

section

variable {front : List (Try (Answer α))}

theorem countP_wasRejected (h : ∀ t ∈ front, t.failedForNow = true) :
    front.countP (·.wasRejected) = 0 := by
  rw [List.countP_eq_zero]
  intro t ht
  simp [Try.wasRejected_eq_false (h t ht)]

theorem countP_failedForNow (h : ∀ t ∈ front, t.failedForNow = true) :
    front.countP (·.failedForNow) = front.length := List.countP_eq_length.mpr h

theorem allowed_of_mem {t : Try (Answer α)} {N : Nat} {allowed : Bool} (ht : t ∈ front)
    (hlen : front.length ≤ retriesOf N allowed) : allowed = true := by
  have hpos := List.length_pos_of_mem ht
  cases allowed with
  | true => rfl
  | false => exact absurd (Nat.lt_of_lt_of_le hpos hlen) (Nat.lt_irrefl 0)

theorem retriesOf_le {N : Nat} (allowed : Bool) (hN : 1 ≤ N) :
    retriesOf N allowed + 2 ≤ if allowed then N + 1 else 2 := by
  cases allowed with
  | true => simp only [retriesOf, ↓reduceIte]; omega
  | false => exact Nat.le_refl 2

variable {front' : List (Try (Answer α))} {last last' : Try (Answer α)} {operation : String}
  {N renewals : Nat} {allowed : Bool} {r : Except Error α}

theorem WithinBounds.of_one (hN : 1 ≤ N) (hfront : ∀ t ∈ front, t.failedForNow = true)
    (hlen : front.length ≤ retriesOf N allowed) (hrenewals : renewals ≤ 1)
    (hend : ∀ e, r = .error e → e.isTransient = true →
      last.failedForNow = true ∧ front.length = retriesOf N allowed) :
    WithinBounds operation N allowed (front ++ [last]) renewals r where
  few := by
    have hle := retriesOf_le allowed hN
    simp only [List.length_append, List.length_singleton]
    omega
  renewedOnce := hrenewals
  front t ht := by
    rw [List.dropLast_concat] at ht
    exact .inr ⟨allowed_of_mem ht hlen, hfront t ht⟩
  rejectedOnce := by rw [List.dropLast_concat, countP_wasRejected hfront]; exact Nat.zero_le _
  rejectedTwice h := by
    have hlast := List.countP_le_length (p := fun t => t.wasRejected) (l := [last])
    rw [List.countP_append, countP_wasRejected hfront] at h
    rw [List.length_singleton] at hlast
    omega
  exhausted hallowed e he htransient := by
    obtain ⟨hlast, hall⟩ := hend e he htransient
    rw [List.countP_append, countP_failedForNow hfront, hall, retriesOf, if_pos hallowed]
    simp only [List.countP_singleton, hlast, ↓reduceIte]
    omega

/-- Two sequences of tries that share their retries are within the bounds, if the first one
ended in a rejection and a second rejection was the end. -/
theorem WithinBounds.of_two (hN : 1 ≤ N) (hfront : ∀ t ∈ front, t.failedForNow = true)
    (hlast : last.wasRejected = true) (hfront' : ∀ t ∈ front', t.failedForNow = true)
    (hlen : front.length + front'.length ≤ retriesOf N allowed)
    (hrejected : last'.wasRejected = true →
      ∃ message, r = .error (.authentication operation message (some 401)))
    (hend : ∀ e, r = .error e → e.isTransient = true →
      last'.failedForNow = true ∧ front.length + front'.length = retriesOf N allowed) :
    WithinBounds operation N allowed ((front ++ [last]) ++ (front' ++ [last'])) 1 r where
  few := by
    have hle := retriesOf_le allowed hN
    simp only [List.length_append, List.length_singleton]
    omega
  renewedOnce := Nat.le_refl 1
  front t ht := by
    rw [← List.append_assoc, List.dropLast_concat, List.mem_append, List.mem_append,
      List.mem_singleton] at ht
    rcases ht with (ht | rfl) | ht
    · exact .inr ⟨allowed_of_mem ht (Nat.le_trans (Nat.le_add_right ..) hlen), hfront t ht⟩
    · exact .inl hlast
    · exact .inr ⟨allowed_of_mem ht (Nat.le_trans (Nat.le_add_left ..) hlen), hfront' t ht⟩
  rejectedOnce := by
    rw [← List.append_assoc, List.dropLast_concat, List.countP_append, List.countP_append,
      countP_wasRejected hfront, countP_wasRejected hfront']
    simp [hlast]
  rejectedTwice h := by
    rw [List.countP_append, List.countP_append, List.countP_append, countP_wasRejected hfront,
      countP_wasRejected hfront'] at h
    have hlast' : last'.wasRejected = true := by
      cases hr : last'.wasRejected with
      | true => rfl
      | false => simp [hlast, hr] at h
    refine ⟨⟨last', ?_, hlast'⟩, hrejected hlast'⟩
    rw [← List.append_assoc, List.getLast?_concat]
    rfl
  exhausted hallowed e he htransient := by
    obtain ⟨hlast', hall⟩ := hend e he htransient
    have hfirst : last.failedForNow = false := by
      cases h : last.failedForNow with
      | false => rfl
      | true => cases hlast.symm.trans (Try.wasRejected_eq_false h)
    rw [List.countP_append, List.countP_append, List.countP_append, countP_failedForNow hfront,
      countP_failedForNow hfront']
    rw [retriesOf, if_pos hallowed] at hall
    simp only [List.countP_singleton, hlast', hfirst, Bool.false_eq_true, ↓reduceIte]
    omega

end

theorem settle_of_wasRejected {operation : String} {left failures : Nat}
    {last : Try (Answer α)} {r : Except Error (Answer α × Nat)}
    (hend : EndsLike left failures last r) (hlast : last.wasRejected = true) :
    ∃ message, settle operation r = .error (.authentication operation message (some 401)) := by
  rcases r with e | ⟨_ | message, rest⟩
  · simp [Try.wasRejected, hend.1] at hlast
  · simp [Try.wasRejected, hend.1] at hlast
  · exact ⟨message, rfl⟩

/-- Work that ends in a failure that might pass ended in such a try, after all retries. -/
theorem EndsLike.of_settle {operation : String} {left failures : Nat} {last : Try (Answer α)}
    {r : Except Error (Answer α × Nat)} (hend : EndsLike left failures last r) {e : Error}
    (he : settle operation r = .error e) (htransient : e.isTransient = true) :
    last.failedForNow = true ∧ failures = left := by
  rcases r with e' | ⟨_ | message, rest⟩
  · cases he
    exact ⟨by simp [Try.failedForNow, hend.1, htransient], hend.2.2 htransient⟩
  · cases he
  · cases he
    cases htransient

theorem TokenedRun.withinBounds {c : Client} {operation : String} {N : Nat} {allowed : Bool}
    {attempt : SessionToken → Action (Answer α)} {s s' : ClientState}
    {first second : List (Try (Answer α))} {renewals : Nat} {r : Except Error α}
    (hN : 1 ≤ N)
    (h : TokenedRun c operation (retriesOf N allowed) attempt s first second renewals r s') :
    WithinBounds operation N allowed (first ++ second) renewals r := by
  cases h with
  | noToken hget =>
    have hfinal := (getToken_error hget).not_transient
    exact {
      few := Nat.zero_le _
      renewedOnce := Nat.zero_le _
      front := List.forall_mem_nil _
      rejectedOnce := Nat.zero_le _
      rejectedTwice := nofun
      exhausted := by rintro - _ ⟨⟩ h; cases hfinal.symm.trans h }
  | settled _ htries _ =>
    obtain ⟨front, last, rfl, hfront, hend⟩ := htries.shape
    rw [List.append_nil]
    refine .of_one hN hfront hend.le (Nat.zero_le _) fun e he htransient => ?_
    exact hend.of_settle he htransient
  | notRenewed _ htries hrefresh =>
    obtain ⟨front, last, rfl, hfront, hend⟩ := htries.shape
    have hfinal := (refreshAfterRejection_error hrefresh).not_transient
    rw [List.append_nil]
    refine .of_one hN hfront hend.le (Nat.le_refl 1) ?_
    rintro _ ⟨⟩ h
    cases hfinal.symm.trans h
  | renewed _ htries _ htries' =>
    obtain ⟨front, last, rfl, hfront, hlast, hsum⟩ := htries.shape
    -- the second sequence began with the retries that the first one had left
    obtain ⟨front', last', rfl, hfront', hend'⟩ := htries'.shape
    have hle := hend'.le
    refine .of_two hN hfront (by simp [Try.wasRejected, hlast]) hfront' (by omega)
      (settle_of_wasRejected hend') fun e he htransient => ?_
    obtain ⟨hfailed, hall⟩ := hend'.of_settle he htransient
    exact ⟨hfailed, by omega⟩

end RemoteNotes.Client
