import Mathlib.Data.List.Induction
import RemoteNotes.Proofs.Authorization
import RemoteNotes.Proofs.CallTurns

/-!
# Tokens of memos in flight

Memos of a batch that are in flight together share the token of their client. A call of theirs
shows the token that the client holds when it asks for one, at its beginning and after a rejection.
What it repeats in between shows its copy of that token, which another memo may have replaced by
then (`SharedConversation`). Where an operation has the client for itself, no copy outlives the
token that the client holds (`requests_show_held_token`).
-/

namespace RemoteNotes.Client

open RemoteNotes.Action (Chains Respects runFrom run_bind_runFrom)

variable {c : Client} {request : ApiRequest} {s t : ClientState} {token : SessionToken}
  {retries : Nat} {renewed : Bool} {turns : List ItemTurn} {sent : List Exchange}

-- ---------------------------------------------------------------------------
-- Conversations in turns
-- ---------------------------------------------------------------------------

/-- The turns in which a call works with one token. In the first of them it asks for the token,
which takes logins unless the client holds one, and shows the token that is held then. In the
others it shows its copy. A rejection is the end. -/
structure Spell (c : Client) (token : SessionToken) (turns : List ItemTurn)
    (logins shown : List Exchange) : Prop where
  sent : turns.flatMap ItemTurn.sent = logins ++ shown
  areLogins : ∀ x ∈ logins, IsLogin c x
  shows : ∀ x ∈ shown, x.Shows token
  held : ∀ turn ∈ turns.head?, ∀ x ∈ turn.sent, x.purpose = .call → x.Carries token
  settled : ∀ x ∈ shown.dropLast, x.rejects = false

/-- Turns that follow on the rejection of a token. What they show is another token that is held by
then, or else one that they logged in for. -/
def Renews (c : Client) (stale : SessionToken) (turns : List ItemTurn) : Prop :=
  ∃ token renewal second, Spell c token turns renewal second ∧
    (second ≠ [] → (renewal = [] ∧ token ≠ stale) ∨ ∃ x ∈ renewal.getLast?, x.Grants token)

/-- What a call sends that shares its client with others, in two parts: a spell with one token, and
after a rejection a spell with another one. -/
structure SharedConversation (c : Client) (token : SessionToken) (first second : List ItemTurn)
    (logins shown : List Exchange) : Prop where
  opening : Spell c token first logins shown
  rejected : second ≠ [] → ∃ x ∈ shown.getLast?, x.rejects = true
  renews : Renews c token second

def ConversesInTurns (c : Client) (turns : List ItemTurn) : Prop :=
  ∃ token first second logins shown, turns = first ++ second ∧
    SharedConversation c token first second logins shown

theorem Spell.nil (token : SessionToken) : Spell c token [] [] [] :=
  ⟨rfl, List.forall_mem_nil _, List.forall_mem_nil _, nofun, List.forall_mem_nil _⟩

theorem Renews.nil (stale : SessionToken) : Renews c stale [] :=
  ⟨stale, [], [], .nil stale, absurd rfl⟩

theorem ConversesInTurns.nil : ConversesInTurns c [] :=
  ⟨⟨"", none⟩, [], [], [], [], rfl, .nil _, absurd rfl, .nil _⟩

/-- A spell in which no token is got. -/
theorem Spell.of_logins {turn : ItemTurn} (h : turn.sent = sent) (hlogins : ∀ x ∈ sent, IsLogin c x)
    (token : SessionToken) : Spell c token [turn] sent [] where
  sent := by simp [h]
  areLogins := hlogins
  shows := List.forall_mem_nil _
  held := by
    rintro _ ⟨⟩ x hx hpurpose
    rw [h] at hx
    cases (hlogins x hx).purpose.symm.trans hpurpose
  settled := List.forall_mem_nil _

-- ---------------------------------------------------------------------------
-- Attempts in turns
-- ---------------------------------------------------------------------------

/-- What follows on requests that showed a copy of a token: some more of them in the first turns,
and after a rejection turns that renew the token, if it was not the second one already. -/
structure Repeats (c : Client) (token : SessionToken) (renewed : Bool) (sent : List Exchange)
    (first second : List ItemTurn) : Prop where
  shows : ∀ x ∈ first.flatMap ItemTurn.sent, x.Shows token
  settled : ∀ x ∈ (sent ++ first.flatMap ItemTurn.sent).dropLast, x.rejects = false
  noneLeft : renewed = true → second = []
  rejected : second ≠ [] → ∃ x ∈ (sent ++ first.flatMap ItemTurn.sent).getLast?, x.rejects = true
  renews : Renews c token second

/-- What the turns of a call come to from a stage on. -/
def TurnsOut (c : Client) : CallStage → List ItemTurn → Prop
  | .waiting, turns => ConversesInTurns c turns
  | .trying token _ renewed, turns =>
    ∃ first second, turns = first ++ second ∧ Repeats c token renewed [] first second
  | .rejected token _, turns => Renews c token turns
  | .ended _, turns => turns = []

section

variable {result : Except Error (Answer Json)}

theorem AttemptTrace.sent_eq {turn : ItemTurn}
    (h : AttemptTrace token turn.before sent result turn.after) : turn.sent = sent := by
  rw [ItemTurn.sent, h.recorded, List.drop_left]

theorem AttemptTrace.repeats (h : AttemptTrace token s sent result t)
    (hturns : TurnsOut c (.afterTry request.operation token retries renewed result) turns) :
    ∃ first second, turns = first ++ second ∧ Repeats c token renewed sent first second := by
  rcases afterTry_cases request.operation token retries renewed result with
    ⟨r, hnext, -⟩ | ⟨e, left, rfl, -, hnext⟩ | ⟨rfl, message, rfl, hnext⟩ <;> rw [hnext] at hturns
  · -- the call has come to its end
    obtain rfl : turns = [] := hturns
    exact ⟨[], [], rfl, List.forall_mem_nil _, by simpa using h.settled, fun _ => rfl, absurd rfl,
      .nil token⟩
  · obtain ⟨first, second, rfl, hrest⟩ := hturns
    refine ⟨first, second, rfl, hrest.shows, fun x hx => ?_, hrest.noneLeft, fun hsecond => ?_,
      hrest.renews⟩
    · exact (of_mem_dropLast_append hx).elim (h.not_rejects x) (hrest.settled x)
    · obtain ⟨x, hx, hrejects⟩ := hrest.rejected hsecond
      exact ⟨x, List.mem_getLast?_append_of_mem_getLast? hx, hrejects⟩
  · -- a rejection is the end of the first turns
    exact ⟨[], turns, rfl, List.forall_mem_nil _, by simpa using h.settled, nofun,
      fun _ => by simpa using h.rejects, hturns⟩

end

/-- A turn that begins with a look for a token begins a spell. -/
theorem attemptWith_spell (hc : c.config.IsAccepted) {look : Action SessionToken}
    {usable : SessionToken → Bool} {refusal : Error} {turn : ItemTurn} {next : CallStage}
    (hlook : TokenRun c usable refusal turn.before (look.runFrom turn.before).1
      (look.runFrom turn.before).2)
    (hrun : (c.attemptWith request look retries renewed).run turn.before = (next, turn.after))
    (hturns : TurnsOut c next turns) :
    ∃ token first second logins shown, turn :: turns = first ++ second ∧
      Spell c token first logins shown ∧ (renewed = true → second = []) ∧
      (second ≠ [] → ∃ x ∈ shown.getLast?, x.rejects = true) ∧ Renews c token second ∧
      (shown ≠ [] →
        (logins = [] ∧ usable token = true) ∨ ∃ x ∈ logins.getLast?, x.Grants token) := by
  obtain ⟨logins, hlogins, hkind, hgranted⟩ := hlook.trace
  have hsettles := hlook.settles
  rw [attemptWith_run] at hrun
  revert hrun hlogins hgranted hsettles
  rcases look.runFrom turn.before with ⟨e | token, u⟩
  · rintro hrun hlogins - -
    obtain ⟨rfl, hafter⟩ := Prod.mk.inj hrun
    obtain rfl : turns = [] := hturns
    have hsent : turn.sent = logins := by
      rw [ItemTurn.sent, ← hafter, hlogins, List.drop_left]
    exact ⟨⟨"", none⟩, [turn], [], logins, [], rfl, .of_logins hsent hkind _, fun _ => rfl,
      absurd rfl, .nil _, absurd rfl⟩
  · rintro hrun hlogins hgranted (hheld : u.token = some token)
    obtain ⟨rfl, hafter⟩ := Prod.mk.inj hrun
    obtain ⟨sent, htrace⟩ := callOnce_attempt hc request token u
    obtain ⟨first, second, rfl, hrest⟩ := htrace.repeats hturns
    have hsent : turn.sent = logins ++ sent := by
      rw [ItemTurn.sent, ← hafter, htrace.recorded, hlogins, List.append_assoc, List.drop_left]
    refine ⟨token, turn :: first, second, logins, sent ++ first.flatMap ItemTurn.sent, rfl,
      ⟨?_, hkind, ?_, ?_, hrest.settled⟩, hrest.noneLeft, hrest.rejected, hrest.renews, fun _ => ?_⟩
    · rw [List.flatMap_cons, hsent, List.append_assoc]
    · exact List.forall_mem_append.mpr ⟨htrace.shows, hrest.shows⟩
    · rintro _ ⟨⟩ x hx hpurpose
      rw [hsent] at hx
      rcases List.mem_append.mp hx with hx | hx
      · cases (hkind x hx).purpose.symm.trans hpurpose
      · exact htrace.carries hheld x hx
    · exact (hgranted token rfl).imp_left fun h => ⟨h.1, h.2.2⟩

theorem CallTurns.turnsOut (hc : c.config.IsAccepted) {stage : CallStage} {r : Except Error Json}
    (h : CallTurns c request stage turns (.ended r)) : TurnsOut c stage turns := by
  generalize hlast : CallStage.ended r = last at h
  induction h with
  | nil => subst hlast; rfl
  | @cons stage next last turn turns hopen hrun _ ih =>
    have hrest := ih hlast
    cases stage with
    | waiting =>
      obtain ⟨token, first, second, logins, shown, hturns, hspell, -, hrejected, hrenews, -⟩ :=
        attemptWith_spell hc (getToken_cases rfl) hrun hrest
      exact ⟨token, first, second, logins, shown, hturns, hspell, hrejected, hrenews⟩
    | trying token retries renewed =>
      simp only [advance_trying] at hrun
      obtain ⟨rfl, hafter⟩ := Prod.mk.inj hrun
      obtain ⟨sent, htrace⟩ := callOnce_attempt hc request token turn.before
      rw [hafter] at htrace
      obtain ⟨first, second, rfl, hrepeats⟩ := htrace.repeats hrest
      refine ⟨turn :: first, second, rfl, ?_, ?_, hrepeats.noneLeft, ?_, hrepeats.renews⟩
      · rw [List.flatMap_cons, htrace.sent_eq]
        exact List.forall_mem_append.mpr ⟨htrace.shows, hrepeats.shows⟩
      · simpa [htrace.sent_eq] using hrepeats.settled
      · simpa [htrace.sent_eq] using hrepeats.rejected
    | rejected stale retries =>
      obtain ⟨token, first, second, renewal, shown, hturns, hspell, hlast, -, -, hshown⟩ :=
        attemptWith_spell hc (refreshAfterRejection_cases rfl) hrun hrest
      rw [hlast rfl, List.append_nil] at hturns
      refine ⟨token, renewal, shown, hturns ▸ hspell, fun h => (hshown h).imp_left fun h => ?_⟩
      exact ⟨h.1, by simpa using h.2⟩
    | ended r' => cases hopen

-- ---------------------------------------------------------------------------
-- Batches
-- ---------------------------------------------------------------------------

/-- A memo of a batch is checked, posted and linked. What it sends are the conversations of two
calls at most. -/
def ItemRun.Converses (c : Client) (r : ItemRun) : Prop :=
  ∃ checked posting linking, r.turns = checked ++ posting ++ linking ∧
    (∀ turn ∈ checked, turn.after = turn.before) ∧
    ConversesInTurns c posting ∧ ConversesInTurns c linking

theorem ItemRun.IsRun.converses (hc : c.config.IsAccepted) {r : ItemRun} (h : r.IsRun c) :
    r.Converses c := by
  obtain ⟨check, rest, hturns, hafter, hparts⟩ := h.parts
  have hchecked : ∀ turn ∈ [check], turn.after = turn.before := List.forall_mem_singleton.mpr hafter
  rcases hparts with ⟨fault, -, rfl, -⟩ |
    ⟨prepared, posting, others, result, -, rfl, hcall, hend⟩
  · exact ⟨[check], [], [], hturns, hchecked, .nil, .nil⟩
  · refine ⟨[check], posting, others, by simp [hturns], hchecked, hcall.turnsOut hc, ?_⟩
    rcases hend.of_created with ⟨rfl, -⟩ | ⟨memo, r, -, -, hlink, -⟩
    · exact .nil
    · exact hlink.turnsOut hc

theorem sends_attempt (hc : c.config.IsAccepted) (request : ApiRequest) (token : SessionToken) :
    Respects (Sends Exchange.IsSigned) (c.callOnce request token) := by
  intro s
  obtain ⟨sent, htrace⟩ := callOnce_attempt hc request token s
  exact ⟨sent, htrace.recorded, fun x hx => (htrace.shows x hx).isSigned⟩

theorem TokenRun.sends (hc : c.config.IsAccepted) {usable : SessionToken → Bool} {refusal : Error}
    {r : Except Error SessionToken} (h : TokenRun c usable refusal s r t) :
    Sends Exchange.IsSigned s t := by
  obtain ⟨logins, hlogins, hkind, -⟩ := h.trace
  exact ⟨logins, hlogins, fun x hx => ((hkind x hx).isAuthorized hc none).isSigned⟩

theorem sends_attemptWith (hc : c.config.IsAccepted) (request : ApiRequest)
    {look : Action SessionToken} (hlook : Respects (Sends Exchange.IsSigned) look) (retries : Nat)
    (renewed : Bool) (s : ClientState) :
    Sends Exchange.IsSigned s ((c.attemptWith request look retries renewed).run s).2 := by
  have hl := hlook s
  rw [attemptWith_run]
  revert hl
  rcases look.runFrom s with ⟨e | token, t⟩
  · exact id
  · exact fun hl => (sends_chains _).trans hl (sends_attempt hc request token t)

theorem sends_advance (hc : c.config.IsAccepted) (request : ApiRequest) (stage : CallStage)
    (s : ClientState) : Sends Exchange.IsSigned s ((c.advance request stage).run s).2 := by
  cases stage with
  | waiting =>
    exact sends_attemptWith hc request (fun s => (getToken_run c s).sends hc) _ _ s
  | trying token retries renewed => exact sends_attempt hc request token s
  | rejected token retries =>
    exact sends_attemptWith hc request (fun s => (refreshAfterRejection_run c token s).sends hc)
      _ _ s
  | ended r => exact sends_none rfl

theorem sends_advanceItem (hc : c.config.IsAccepted) (stage : ItemStage) (s : ClientState) :
    Sends Exchange.IsSigned s ((c.advanceItem stage).run s).2 := by
  cases stage with
  | fresh m => exact sends_none rfl
  | posting m call => exact sends_advance hc (postRequest m) call s
  | linking memo attachments call => exact sends_advance hc (linkRequest memo attachments) call s
  | ended outcome => exact sends_none rfl

-- ---------------------------------------------------------------------------
-- All that is sent
-- ---------------------------------------------------------------------------

/-- Whatever is sent shows one token or none, and it is the one that is held where the operation
has the client for itself. -/
theorem sends_isSigned (hc : c.config.IsAccepted) (op : Operation) (s : ClientState) :
    Sends (fun x => x.IsSigned ∧ (op.IsSolo c → x.IsAuthorized s.token)) s (c.after s op) := by
  by_cases hsolo : op.IsSolo c
  · obtain ⟨sent, hsent, hauthorized⟩ := sends_isAuthorized hc hsolo s
    exact ⟨sent, hsent, fun x hx => ⟨(hauthorized x hx).isSigned, fun _ => hauthorized x hx⟩⟩
  · cases op with
    | createMemosBatch memos =>
      obtain ⟨runs, hruns, -⟩ := createMemosBatch_runs c memos s
      obtain ⟨sent, hsent, hsigned⟩ := hruns.respects (sends_advanceItem hc) (sends_chains _)
      exact ⟨sent, hsent, fun x hx => ⟨hsigned x hx, fun h => absurd h hsolo⟩⟩
    | _ => exact absurd trivial hsolo

theorem exchanges_start (c : Client) : c.start.exchanges = [] := by
  unfold start
  split <;> rfl

/-- All that a client sends in the course of its use was sent by one of the operations. -/
theorem isSigned_of_mem (hc : c.config.IsAccepted) (ops : List Operation) {x : Exchange}
    (hx : x ∈ (c.afterAll c.start ops).exchanges) :
    ∃ front op rest, ops = front ++ op :: rest ∧ x.IsSigned ∧
      (op.IsSolo c → x.IsAuthorized (c.afterAll c.start front).token) := by
  induction ops using List.reverseRecOn generalizing x with
  | nil =>
    rw [afterAll, List.foldl_nil, exchanges_start] at hx
    cases hx
  | append_singleton front op ih =>
    obtain ⟨sent, hrecorded, hsent⟩ := sends_isSigned hc op (c.afterAll c.start front)
    rw [afterAll, List.foldl_append, List.foldl_cons, List.foldl_nil] at hx
    change x ∈ (c.after (c.afterAll c.start front) op).exchanges at hx
    rw [hrecorded, List.mem_append] at hx
    rcases hx with hx | hx
    · obtain ⟨front', op', rest, rfl, hsigned⟩ := ih hx
      exact ⟨front', op', rest ++ [op], by simp, hsigned⟩
    · exact ⟨front, op, [], rfl, hsent x hx⟩

/-- Every request but a login shows one token. It is the token that the client holds, and what is
sent after a rejection shows the token of a login that came after it, as long as no other memo of
a batch is in flight. With others in flight that is so of what a call sends first and of what it
sends first after a rejection, or else that shows another token than the rejected one. What the
call repeats shows its copy. -/
theorem requests_show_held_token (c : Client) (hc : c.config.IsAccepted) :
    (∀ ops, ∀ x ∈ (c.afterAll c.start ops).exchanges, ∃ front op rest,
        ops = front ++ op :: rest ∧ x.IsSigned ∧
          (op.IsSolo c → x.IsAuthorized (c.afterAll c.start front).token)) ∧
      (∀ s op, op.IsSolo c → Sends (Exchange.IsAuthorized s.token) s (c.after s op)) ∧
      (∀ s op, op.IsSolo c → op.givesUp = false → op.isLogin = false →
        CallPath c s (c.after s op)) ∧
      ∀ s memos, ∃ runs, ItemRuns c s runs (c.after s (.createMemosBatch memos)) ∧
        (runs.map fun r => (r.index, r.memo)).Perm (memos.mapIdx fun i m => (i, m)) ∧
        ∀ r ∈ runs, r.Converses c := by
  refine ⟨fun ops _ hx => isSigned_of_mem hc ops hx, fun s _ hsolo => sends_isAuthorized hc hsolo s,
    fun s _ hsolo hop hlogin => callPath_after hc hsolo hop hlogin s, fun s memos => ?_⟩
  obtain ⟨runs, hruns, -, hperm⟩ := createMemosBatch_runs c memos s
  exact ⟨runs, hruns, hperm, fun r hr => (hruns.isRun r hr).converses hc⟩

theorem isAccepted_inPairs (replies : List Http.Reply) (schedule : List Nat) :
    (inPairs (.password "ada" "pw") replies schedule).config.IsAccepted where
  passed := by
    refine ⟨{ baseUrl := "https://notes.example", username := some "ada", password := some "pw",
              policy := { batchMode := .concurrent 2 } }, ?_⟩
    change ClientDraft.build _ =
      .ok ⟨"https://notes.example", .password "ada" "pw", { batchMode := .concurrent 2 }⟩
    decide +kernel
  namesNoUser url hurl := by
    have hnone : (Http.Url.parse? "https://notes.example").all
        (fun url => '@' ∉ url.authority.toList) = true := by decide +kernel
    change Http.Url.parse? "https://notes.example" = some url at hurl
    simpa [hurl] using hnone

theorem afterAll_singleton (c : Client) (s : ClientState) (op : Operation) :
    c.afterAll s [op] = c.after s op := rfl

/-- A server rejects the first token of a client, which logs in again and shows the second one. -/
theorem requests_of_rejected_client :
    let c := inPairs (.password "ada" "pw")
      [granting "old", plain 401, granting "new", plain 200] []
    let t := c.afterAll c.start [.currentUser]
    t.exchanges.map (·.request.authorizations) = [[], ["Bearer old"], [], ["Bearer new"]] ∧
      (∀ x ∈ t.exchanges, x.IsAuthorized none) ∧ CallPath c c.start t := by
  intro c t
  obtain ⟨hrun, -, hpath, -⟩ := requests_show_held_token c (isAccepted_inPairs _ _)
  have hshown : t.exchanges.map (·.request.authorizations) =
      [[], ["Bearer old"], [], ["Bearer new"]] := by decide +kernel
  refine ⟨hshown, fun x hx => ?_, ?_⟩
  · obtain ⟨front, op, rest, hops, -, hauthorized⟩ := hrun [.currentUser] x hx
    obtain ⟨rfl, rfl, -⟩ : front = [] ∧ op = .currentUser ∧ rest = [] := by
      simpa [List.singleton_eq_append_iff] using hops
    exact hauthorized trivial
  · have hafter : t = c.after c.start .currentUser := afterAll_singleton _ _ _
    rw [hafter]
    exact hpath c.start .currentUser trivial rfl rfl

/-- The link of the first memo gets no reply in time. Before it is sent again, the server rejects
the token of the second memo, which logs in again. The first one still shows its copy of the token
that was rejected. -/
theorem stale_token_of_slow_memo :
    let c := inPairs (.password "ada" "pw") [granting "old", showing "memos/1", showing "memos/2",
      .timedOut, plain 401, granting "new", plain 200, plain 200] [0, 1, 0, 1, 0, 1, 1]
    let m : NewMemo := { content := "hello", attachments := ["attachments/2"] }
    c.config.IsAccepted ∧ ∃ x ∈ (c.afterAll c.start [.createMemosBatch [m, m]]).exchanges,
      x.held.map (·.secret) = some "new" ∧ x.request.authorizations = ["Bearer old"] ∧
        ∀ atCall, ¬x.IsAuthorized atCall := by
  intro c m
  have hsome : ((c.afterAll c.start [.createMemosBatch [m, m]]).exchanges.any fun x =>
      x.purpose = .call && x.held.map (·.secret) = some "new" &&
        x.request.authorizations = ["Bearer old"]) = true := by decide +kernel
  obtain ⟨x, hx, hstale⟩ := List.any_eq_true.mp hsome
  simp only [Bool.and_eq_true, decide_eq_true_eq] at hstale
  obtain ⟨⟨hpurpose, hheld⟩, hshown⟩ := hstale
  refine ⟨isAccepted_inPairs _ _, x, hx, hheld, hshown, fun atCall hauthorized => ?_⟩
  rw [Exchange.IsAuthorized, hpurpose] at hauthorized
  obtain ⟨token, hcarries⟩ := hauthorized
  rw [hcarries.held] at hheld
  have hsecret : token.secret = "new" := Option.some.inj hheld
  have hnew := hcarries.shown
  rw [hsecret, hshown] at hnew
  exact absurd hnew (by decide)

end RemoteNotes.Client
