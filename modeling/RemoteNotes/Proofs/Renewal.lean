import RemoteNotes.Proofs.Logins

/-!
# Renewing a token for many

Several callers may find out at about the same time that a token is not accepted any more.
They ask for another one in turn, and so may callers that just need a token. The first of them
that cannot do with the token at hand logs in, and all that come after it are given the token of
that login (`rejections_share_one_login`).
-/

namespace RemoteNotes.Client

open RemoteNotes.Action (Respects runFrom runFrom_bind)

variable {c : Client} {s t : ClientState} {stale token : SessionToken}

-- ---------------------------------------------------------------------------
-- Turns
-- ---------------------------------------------------------------------------

/-- What is asked of a client by those who share a token. -/
inductive TokenCall
  | get
  /-- The rest of a `get` that found no valid token before it was its turn. -/
  | getInTurn
  /-- The token was rejected. -/
  | replace

def TokenCall.run (c : Client) (stale : SessionToken) : TokenCall → Action SessionToken
  | .get => c.getToken
  | .getInTurn => c.getTokenInTurn
  | .replace => c.refreshAfterRejection stale

structure Turn where
  call : TokenCall
  before : ClientState
  result : Except Error SessionToken
  after : ClientState

def takeTurn (c : Client) (stale : SessionToken) (s : ClientState) (call : TokenCall) : Turn where
  call
  before := s
  result := ((call.run c stale).runFrom s).1
  after := ((call.run c stale).runFrom s).2

/-- The turns of calls in the order of the list, and the state after the last one. -/
def takeTurns (c : Client) (stale : SessionToken) (s : ClientState) :
    List TokenCall → List Turn × ClientState
  | [] => ([], s)
  | call :: calls =>
    let turn := c.takeTurn stale s call
    let (turns, t) := takeTurns c stale turn.after calls
    (turn :: turns, t)

namespace Turn

/-- The client logged in, be it with success or not. -/
def LogsIn (c : Client) (turn : Turn) : Prop :=
  ∃ n, c.renew.runFrom (turn.before.atReading n) = (turn.result, turn.after)

/-- The turn ends with a token that was there, and nothing is sent. -/
structure Uses (turn : Turn) (token : SessionToken) : Prop where
  result : turn.result = .ok token
  after : ∃ n, turn.after = turn.before.atReading n

theorem Uses.keeps {turn : Turn} (h : turn.Uses token) :
    turn.after.closed = turn.before.closed ∧ turn.after.token = turn.before.token := by
  obtain ⟨n, hafter⟩ := h.after
  rw [hafter]
  exact ⟨rfl, rfl⟩

theorem LogsIn.sends {turn : Turn} (hc : c.config.credential.isRenewable = true)
    (h : turn.LogsIn c) (hresult : turn.result = .ok token) :
    turn.after.exchanges ≠ turn.before.exchanges := by
  obtain ⟨n, hrun⟩ := h
  obtain ⟨sent, htrace⟩ := renew_trace hc hrun
  obtain ⟨x, hx, -⟩ := htrace.grants token hresult
  rw [htrace.recorded]
  intro hnone
  cases List.append_right_eq_self.mp hnone
  cases hx

theorem Uses.not_logsIn {turn : Turn} (hc : c.config.credential.isRenewable = true)
    (h : turn.Uses token) : ¬turn.LogsIn c := by
  intro hlogin
  obtain ⟨n, hafter⟩ := h.after
  exact hlogin.sends hc h.result (by rw [hafter]; rfl)

/-- A login that brings a token leaves the client open and holding that token. -/
theorem LogsIn.holds {turn : Turn} (h : turn.LogsIn c) (hresult : turn.result = .ok token) :
    turn.after.closed = turn.before.closed ∧ turn.after.token = some token := by
  obtain ⟨n, hrun⟩ := h
  have hclosed : Respects (fun s t : ClientState => t.closed = s.closed) c.renew :=
    renew_respects ⟨fun _ => rfl, fun h k => k.trans h⟩ (fun _ => rfl) (fun _ _ => rfl)
      fun _ _ => rfl
  have hopen := hclosed (turn.before.atReading n)
  have hsettles := settles_renew (c := c) (turn.before.atReading n)
  rw [hrun] at hopen hsettles
  rw [hresult] at hsettles
  exact ⟨hopen, hsettles⟩

end Turn

-- ---------------------------------------------------------------------------
-- One turn
-- ---------------------------------------------------------------------------

section

variable (call : TokenCall) (hopen : s.closed = false)

include hopen

/-- As long as the client holds the rejected token, a turn uses that one or logs in. -/
theorem takeTurn_stale (hc : c.config.credential.isRenewable = true) (hs : s.token = some stale) :
    (call ≠ .replace ∧ (c.takeTurn stale s call).Uses stale) ∨
      (c.takeTurn stale s call).LogsIn c := by
  have hcases : ∃ usable refusal, (call = .replace → usable stale = false) ∧
      TokenRun c usable refusal s ((call.run c stale).runFrom s).1
        ((call.run c stale).runFrom s).2 := by
    cases call with
    | get => exact ⟨_, _, nofun, getToken_run c s⟩
    | getInTurn => exact ⟨_, _, nofun, getTokenInTurn_cases rfl⟩
    | replace =>
      exact ⟨(· != stale), _, fun _ => bne_self_eq_false stale, refreshAfterRejection_run c stale s⟩
  obtain ⟨usable, refusal, hreplace, hcases⟩ := hcases
  unfold takeTurn
  rcases hrun : (call.run c stale).runFrom s with ⟨r, t⟩
  rw [hrun] at hcases
  cases hcases with
  | closed hclosed => cases hclosed.symm.trans hopen
  | refused _ hnot => cases hnot.symm.trans hc
  | login _ _ _ hrenew => exact .inr ⟨_, hrenew⟩
  | held _ htoken husable _ =>
    cases hs.symm.trans htoken
    refine .inl ⟨fun h => ?_, rfl, _, rfl⟩
    cases husable.symm.trans (hreplace h)

/-- A client that holds another token uses it for whatever call. -/
theorem takeTurn_held (hs : s.token = some token) (hne : token ≠ stale)
    (hvalid : token.isExpiredAt (c.world.clock s.readings) = false) :
    (c.takeTurn stale s call).Uses token := by
  have hrun : (call.run c stale).runFrom s = (.ok token, s.atReading (s.readings + 1)) := by
    have hother : (token != stale) = true := bne_iff_ne.mpr hne
    cases call <;>
      simp [TokenCall.run, getToken, getTokenInTurn, refreshAfterRejection, runFrom_bind,
        ensureOpen_runFrom, hopen, validToken?_runFrom hs, hvalid, Option.filter_some, hother]
  unfold takeTurn
  rw [hrun]
  exact ⟨rfl, _, rfl⟩

end

-- ---------------------------------------------------------------------------
-- Turns one after another
-- ---------------------------------------------------------------------------

/-- The first login brings the token, which does not expire before the last turn. -/
def FirstLoginBrings (c : Client) (token : SessionToken) (turns : List Turn) : Prop :=
  ∀ front login rest, turns = front ++ login :: rest → (∀ turn ∈ front, ¬turn.LogsIn c) →
    login.LogsIn c → login.result = .ok token ∧
      ∀ turn ∈ rest, token.isExpiredAt (c.world.clock turn.before.readings) = false

/-- The turns before the login use the rejected token, and those after it the new one. -/
structure OneLogin (c : Client) (stale token : SessionToken) (front : List Turn) (login : Turn)
    (rest : List Turn) : Prop where
  front : ∀ turn ∈ front, turn.call ≠ .replace ∧ turn.Uses stale
  logsIn : login.LogsIn c
  granted : login.result = .ok token
  rest : ∀ turn ∈ rest, turn.Uses token

theorem OneLogin.cons {turn login : Turn} {front rest : List Turn}
    (hcall : turn.call ≠ .replace) (huses : turn.Uses stale)
    (h : OneLogin c stale token front login rest) :
    OneLogin c stale token (turn :: front) login rest :=
  ⟨List.forall_mem_cons.mpr ⟨⟨hcall, huses⟩, h.front⟩, h.logsIn, h.granted, h.rest⟩

theorem takeTurns_held {calls : List TokenCall} (hopen : s.closed = false)
    (hs : s.token = some token) (hne : token ≠ stale)
    (hvalid : ∀ turn ∈ (c.takeTurns stale s calls).1,
      token.isExpiredAt (c.world.clock turn.before.readings) = false) :
    (∀ turn ∈ (c.takeTurns stale s calls).1, turn.Uses token) ∧
      (c.takeTurns stale s calls).2.token = some token := by
  induction calls generalizing s with
  | nil => exact ⟨List.forall_mem_nil _, hs⟩
  | cons call calls ih =>
    obtain ⟨hnow, hlater⟩ := List.forall_mem_cons.mp hvalid
    have huses := takeTurn_held call hopen hs hne hnow
    obtain ⟨hclosed, htoken⟩ := huses.keeps
    obtain ⟨hall, hend⟩ := ih (hclosed.trans hopen) (htoken.trans hs) hlater
    exact ⟨List.forall_mem_cons.mpr ⟨huses, hall⟩, hend⟩

theorem takeTurns_stale {calls : List TokenCall} (hopen : s.closed = false)
    (hc : c.config.credential.isRenewable = true) (hs : s.token = some stale)
    (hcalls : .replace ∈ calls) (hne : token ≠ stale)
    (hfirst : FirstLoginBrings c token (c.takeTurns stale s calls).1) :
    (∃ front login rest, (c.takeTurns stale s calls).1 = front ++ login :: rest ∧
        OneLogin c stale token front login rest) ∧
      (c.takeTurns stale s calls).2.token = some token := by
  induction calls generalizing s with
  | nil => cases hcalls
  | cons call calls ih =>
    rcases takeTurn_stale call hopen hc hs with ⟨hcall, huses⟩ | hlogin
    · -- nothing has changed, and the login is still to come
      obtain ⟨hclosed, htoken⟩ := huses.keeps
      have hlater := (List.mem_cons.mp hcalls).resolve_left fun h => hcall h.symm
      have hfirst' : FirstLoginBrings c token
          (c.takeTurns stale (c.takeTurn stale s call).after calls).1 := by
        intro front login rest hturns hfront
        refine hfirst (c.takeTurn stale s call :: front) login rest ?_ ?_
        · rw [List.cons_append, ← hturns]; rfl
        · exact List.forall_mem_cons.mpr ⟨huses.not_logsIn hc, hfront⟩
      obtain ⟨⟨front, login, rest, hturns, hone⟩, hend⟩ :=
        ih (hclosed.trans hopen) (htoken.trans hs) hlater hfirst'
      refine ⟨⟨_ :: front, login, rest, ?_, hone.cons hcall huses⟩, hend⟩
      rw [List.cons_append, ← hturns]
      rfl
    · obtain ⟨hgranted, hvalid⟩ := hfirst [] _ _ rfl (List.forall_mem_nil _) hlogin
      obtain ⟨hclosed, htoken⟩ := hlogin.holds hgranted
      obtain ⟨hrest, hend⟩ := takeTurns_held (hclosed.trans hopen) htoken hne hvalid
      exact ⟨⟨[], _, _, rfl, List.forall_mem_nil _, hlogin, hgranted, hrest⟩, hend⟩

/-- A token that was rejected is renewed by one login for all who ask, and they are all given
the new token. -/
theorem rejections_share_one_login (c : Client) (s : ClientState) (stale token : SessionToken)
    (calls : List TokenCall) (hopen : s.closed = false)
    (hc : c.config.credential.isRenewable = true) (hs : s.token = some stale)
    (hcalls : .replace ∈ calls) (hne : token ≠ stale)
    (hfirst : FirstLoginBrings c token (c.takeTurns stale s calls).1) :
    let (turns, t) := c.takeTurns stale s calls
    (∃ front login rest, turns = front ++ login :: rest ∧
        OneLogin c stale token front login rest ∧ ∀ turn ∈ front ++ rest, ¬turn.LogsIn c) ∧
      (∀ turn ∈ turns, turn.call = .replace → turn.result = .ok token) ∧
      t.token = some token := by
  obtain ⟨⟨front, login, rest, hturns, hone⟩, hend⟩ :=
    takeTurns_stale hopen hc hs hcalls hne hfirst
  refine ⟨⟨front, login, rest, hturns, hone, List.forall_mem_append.mpr ⟨?_, ?_⟩⟩, ?_, hend⟩
  · exact fun turn hturn => (hone.front turn hturn).2.not_logsIn hc
  · exact fun turn hturn => (hone.rest turn hturn).not_logsIn hc
  · intro turn hturn hcall
    rw [hturns, List.mem_append, List.mem_cons] at hturn
    rcases hturn with hturn | rfl | hturn
    · exact absurd hcall (hone.front turn hturn).1
    · exact hone.granted
    · exact (hone.rest turn hturn).result

/-- Of four callers the second one logs in, and the others are given its token. -/
theorem login_of_second_caller :
    let c := facing (.password "alice" "secret") fun _ _ =>
      .answered ⟨200, [], Text.Utf8.ofString (Json.ofFields [("accessToken", .text "new")]).write,
        .complete⟩
    let old : SessionToken := ⟨"old", none⟩
    let new : SessionToken := ⟨"new", some (Time.Instant.addDays ⟨0, 0⟩ 14)⟩
    (c.takeTurns old { token := some old } [.get, .replace, .getInTurn, .replace]).2.token =
      some new := by
  intro c old new
  have hturns : ∀ turn ∈
      (c.takeTurns old { token := some old } [.get, .replace, .getInTurn, .replace]).1,
      turn.result.toOption = some new ∨
        turn.result.toOption = some old ∧ turn.after.exchanges = turn.before.exchanges := by
    decide +kernel
  refine (rejections_share_one_login c _ old new _ rfl rfl rfl (by simp) (by decide) ?_).2.2
  intro front login rest hsplit _ hlogin
  have hmem : login ∈ front ++ login :: rest := by simp
  rw [← hsplit] at hmem
  rcases hresult : login.result with e | token
  · rcases hturns login hmem with h | ⟨h, -⟩ <;> simp [hresult, Except.toOption] at h
  · rcases hturns login hmem with h | ⟨-, hquiet⟩
    · rw [hresult] at h
      cases h
      exact ⟨rfl, fun _ _ => rfl⟩
    · exact absurd hquiet (hlogin.sends rfl hresult)

end RemoteNotes.Client
