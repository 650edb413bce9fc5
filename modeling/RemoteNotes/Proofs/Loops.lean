import RemoteNotes.Proofs.Calls

/-!
# The loops of calls and downloads

Calls and downloads have a loop each, which counts its attempts and remembers whether the token
has been renewed. The two loops are written in different ways. What both of them do is to share
some retries between the attempts with one token and those with the next one
(`call_eq_loop`, `openDownload_eq_loop`).
-/

namespace RemoteNotes.Client

open RemoteNotes.Action (runFrom runFrom_bind)

variable {α : Type} {c : Client}

-- ---------------------------------------------------------------------------
-- The loops
-- ---------------------------------------------------------------------------

theorem lt_of_shouldRetry {p : RetryPolicy} {number : Nat} {e : Error}
    (h : p.shouldRetry number e = true) : number < p.maxAttempts := by
  simp only [RetryPolicy.shouldRetry, Bool.and_eq_true, decide_eq_true_eq] at h
  exact h.1

/-- The attempts of a call from the one with some number on. -/
def callLoop (c : Client) (request : ApiRequest) (token : SessionToken) (renewed : Bool)
    (number : Nat) : Action Json := do
  match ← (c.callOnce request token).result with
  | .ok (.done v) => return v
  | .ok (.rejected message) =>
    if renewed then throw (.authentication request.operation message (some 401))
    else
      let token ← c.refreshAfterRejection token
      callLoop c request token true number
  | .error e =>
    if request.retry.allows request.method && c.config.policy.retry.shouldRetry number e then
      callLoop c request token renewed (number + 1)
    else throw e
termination_by (c.config.policy.retry.maxAttempts - number, if renewed then 0 else 1)
decreasing_by
  · next hnot => exact .right _ (by simp [hnot])
  · next hretry =>
    have hlt := lt_of_shouldRetry (Bool.and_eq_true_iff.mp hretry).2
    exact .left _ _ (by omega)

/-- The attempts of a download from the one with some number on. Whatever else an attempt comes to
than a file or a rejection is dealt with in one place. -/
def downloadLoop (c : Client) (s : Subject) (url : String) (pairs : List (String × String))
    (token : SessionToken) (renewed : Bool) (number : Nat) : Action Http.Response := do
  let failed (e : Error) : Action Http.Response :=
    if !c.config.policy.retry.shouldRetry number e then throw e
    else downloadLoop c s url pairs token renewed (number + 1)
  match ← (c.exchange .download s (c.build? .get url pairs (some token.secret) none)).result with
  | .ok r =>
    if r.isUnauthorized then
      let message := Http.failureText r.status (bodyTextOrEmpty r)
      if renewed then throw (.authentication s.operation message (some 401))
      else
        let token ← c.refreshAfterRejection token
        downloadLoop c s url pairs token true number
    else if r.isSuccess then return r
    else
      failed (.api s.operation s.resource r.status (Http.failureText r.status (bodyTextOrEmpty r)))
  | .error e => failed e
termination_by (c.config.policy.retry.maxAttempts - number, if renewed then 0 else 1)
decreasing_by
  · next hretry =>
    have hlt := lt_of_shouldRetry (by simpa using hretry)
    exact .left _ _ (by omega)
  · next hnot => exact .right _ (by simp [hnot])

-- ---------------------------------------------------------------------------
-- What the loops have in common
-- ---------------------------------------------------------------------------

/-- What follows on an attempt, given the loop that goes on. -/
def afterAttempt (c : Client) (operation : String) (allowed : Bool)
    (loop : SessionToken → Bool → Nat → Action α) (token : SessionToken) (renewed : Bool)
    (number : Nat) : Except Error (Answer α) → Action α
  | .ok (.done a) => return a
  | .ok (.rejected message) =>
    if renewed then throw (.authentication operation message (some 401))
    else do loop (← c.refreshAfterRejection token) true number
  | .error e =>
    if allowed && c.config.policy.retry.shouldRetry number e then loop token renewed (number + 1)
    else throw e

/-- A loop goes through attempts of one kind. -/
def LoopsOver (c : Client) (operation : String) (allowed : Bool)
    (attempt : SessionToken → Action (Answer α)) (loop : SessionToken → Bool → Nat → Action α) :
    Prop :=
  ∀ token renewed number s, (loop token renewed number).runFrom s =
    (afterAttempt c operation allowed loop token renewed number
      ((attempt token).runFrom s).1).runFrom ((attempt token).runFrom s).2

theorem callLoop_loopsOver (c : Client) (request : ApiRequest) :
    LoopsOver c request.operation (request.retry.allows request.method) (c.callOnce request)
      (c.callLoop request) := by
  intro token renewed number s
  rw [callLoop, runFrom_bind, Action.runFrom_result]
  rcases (c.callOnce request token).runFrom s with ⟨e | v | message, t⟩ <;> rfl

theorem downloadLoop_loopsOver (c : Client) (subject : Subject) (url : String)
    (pairs : List (String × String)) :
    LoopsOver c subject.operation true (c.openOnce subject url pairs)
      (c.downloadLoop subject url pairs) := by
  intro token renewed number s
  rw [downloadLoop, runFrom_bind, Action.runFrom_result, openOnce, runFrom_bind]
  rcases (c.exchange .download subject
    (c.build? .get url pairs (some token.secret) none)).runFrom s with ⟨e | r, t⟩
  · -- no reply came
    simp only [afterAttempt, Bool.true_and]
    cases c.config.policy.retry.shouldRetry number e <;> rfl
  · simp only [Action.runFrom_ofExcept, fileAnswer]
    cases hu : r.isUnauthorized with
    | true => rfl
    | false =>
      cases hsuccess : r.isSuccess with
      | true => rfl
      | false =>
        simp only [Bool.false_eq_true, ↓reduceIte, afterAttempt, Bool.true_and]
        cases c.config.policy.retry.shouldRetry number _ <;> rfl

/-- How many attempts may follow the one with some number. -/
def retriesAfter (c : Client) (allowed : Bool) (number : Nat) : Nat :=
  if allowed then c.config.policy.retry.maxAttempts - number else 0

theorem repeats_iff {allowed : Bool} {number : Nat} {e : Error} :
    (allowed && c.config.policy.retry.shouldRetry number e) = true ↔
      e.isTransient = true ∧ 0 < c.retriesAfter allowed number := by
  cases allowed with
  | false => simp [retriesAfter]
  | true =>
    simp only [RetryPolicy.shouldRetry, retriesAfter, Bool.true_and, Bool.and_eq_true,
      decide_eq_true_eq, ↓reduceIte, Nat.sub_pos_iff_lt]
    exact and_comm

theorem retriesAfter_succ {allowed : Bool} {number left : Nat}
    (h : left + 1 = c.retriesAfter allowed number) :
    left = c.retriesAfter allowed (number + 1) := by
  unfold retriesAfter at h ⊢
  cases allowed with
  | true => simp only [↓reduceIte] at h ⊢; omega
  | false => cases h

section

variable {operation : String} {allowed : Bool} {attempt : SessionToken → Action (Answer α)}
  {loop : SessionToken → Bool → Nat → Action α} {token : SessionToken} {renewed : Bool}
  {left number : Nat} {s t : ClientState} {tries : List (Try (Answer α))}

/-- What a run of a loop comes to after tries with some end: it ends with their error, or goes on
as after the last attempt. -/
def GoesOn (c : Client) (operation : String) (allowed : Bool)
    (loop : SessionToken → Bool → Nat → Action α) (token : SessionToken) (renewed : Bool)
    (t : ClientState) (run : Except Error α × ClientState) :
    Except Error (Answer α × Nat) → Prop
  | .error e => run = (.error e, t)
  | .ok (a, left) => ∃ number, left = c.retriesAfter allowed number ∧
    run = (afterAttempt c operation allowed loop token renewed number (.ok a)).runFrom t

theorem LoopsOver.after_tries (hloop : LoopsOver c operation allowed attempt loop)
    {r : Except Error (Answer α × Nat)} (h : Tries (attempt token) left s tries r t)
    (hleft : left = c.retriesAfter allowed number) (renewed : Bool) :
    GoesOn c operation allowed loop token renewed t ((loop token renewed number).runFrom s) r := by
  induction h generalizing number with
  | done hrun =>
    refine ⟨number, hleft, ?_⟩
    rw [hloop, hrun]
  | @failed left s e t hrun hnone =>
    have hlast : (allowed && c.config.policy.retry.shouldRetry number e) = false := by
      rw [Bool.eq_false_iff, ne_eq, repeats_iff]
      rintro ⟨htransient, hpos⟩
      have hzero := hnone htransient
      omega
    rw [GoesOn, hloop, hrun]
    simp [afterAttempt, hlast]
  | @again left s e u tries r t hrun htransient _ ih =>
    have hnext : (allowed && c.config.policy.retry.shouldRetry number e) = true :=
      repeats_iff.mpr ⟨htransient, by omega⟩
    have hstep : (loop token renewed number).runFrom s =
        (loop token renewed (number + 1)).runFrom u := by
      rw [hloop, hrun]
      simp only [afterAttempt, hnext, ↓reduceIte]
    rw [hstep]
    exact ih (retriesAfter_succ hleft)

/-- With a renewed token the tries decide. -/
theorem LoopsOver.settled (hloop : LoopsOver c operation allowed attempt loop)
    {r : Except Error (Answer α × Nat)} (h : Tries (attempt token) left s tries r t)
    (hleft : left = c.retriesAfter allowed number)
    (hr : renewed = true ∨ ∀ m rest, r ≠ .ok (.rejected m, rest)) :
    (loop token renewed number).runFrom s = (settle operation r, t) := by
  have hgoes := hloop.after_tries h hleft renewed
  rcases r with e | ⟨a | message, rest⟩
  · exact hgoes
  · obtain ⟨_, -, hrun⟩ := hgoes
    exact hrun
  · obtain ⟨_, -, hrun⟩ := hgoes
    rcases hr with rfl | hr
    · exact hrun
    · exact absurd rfl (hr message rest)

/-- A loop that begins with the first attempt is work with a token that shares its retries. -/
theorem LoopsOver.eq_withToken (hloop : LoopsOver c operation allowed attempt loop)
    (s : ClientState) :
    (c.withToken operation (if allowed then c.retries else 0) attempt).runFrom s =
      (do loop (← c.getToken) false 1).runFrom s := by
  obtain ⟨first, second, renewals, hrun⟩ :=
    withToken_run c operation (if allowed then c.retries else 0) attempt s
  have hfirst : (if allowed then c.retries else 0) = c.retriesAfter allowed 1 := rfl
  rw [runFrom_bind]
  generalize (c.withToken operation (if allowed then c.retries else 0) attempt).runFrom s = run at *
  obtain ⟨r, t⟩ := run
  -- after a rejection the loop asks for another token and goes on from the same number
  have hrejected {token : SessionToken} {t u : ClientState} {first : List (Try (Answer α))}
      {message : String} {left : Nat} (htries : Tries (attempt token)
        (if allowed then c.retries else 0) t first (.ok (.rejected message, left)) u) :
      ∃ number, left = c.retriesAfter allowed number ∧ (loop token false 1).runFrom t =
        (do loop (← c.refreshAfterRejection token) true number).runFrom u :=
    hloop.after_tries htries hfirst false
  cases hrun with
  | noToken hget => rw [hget]
  | settled hget htries hsettled =>
    rw [hget]
    exact (hloop.settled htries hfirst (.inr hsettled)).symm
  | notRenewed hget htries hrefresh =>
    obtain ⟨number, -, hrun⟩ := hrejected htries
    rw [hget]
    simp only [hrun, runFrom_bind, hrefresh]
  | renewed hget htries hrefresh htries' =>
    obtain ⟨number, hleft, hrun⟩ := hrejected htries
    rw [hget]
    simp only [hrun, runFrom_bind, hrefresh]
    exact (hloop.settled htries' hleft (.inl rfl)).symm

end

/-- A call is its loop, from the first attempt on. -/
theorem call_eq_loop (c : Client) (request : ApiRequest) (s : ClientState) :
    (c.call request).runFrom s =
      (do c.callLoop request (← c.getToken) false 1).runFrom s :=
  (callLoop_loopsOver c request).eq_withToken s

/-- A download is opened by its loop, from the first attempt on. -/
theorem openDownload_eq_loop (c : Client) (subject : Subject) (url : String)
    (pairs : List (String × String)) (s : ClientState) :
    (c.openDownload subject url pairs).runFrom s =
      (do c.downloadLoop subject url pairs (← c.getToken) false 1).runFrom s :=
  (downloadLoop_loopsOver c subject url pairs).eq_withToken s

end RemoteNotes.Client
