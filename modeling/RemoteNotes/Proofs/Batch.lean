import Mathlib.Data.List.Perm.Basic
import RemoteNotes.Client.Service
import RemoteNotes.Proofs.Action

/-!
# Runs of batches

A batch is a sequence of turns, in each of which one of the memos that are in flight takes a step
(`fly_turns`). The turns of one memo make up its run. They are steps that lead from the fresh memo
to an outcome, and between two of them the other memos may have changed the state of the client.
Each memo of the batch has exactly one run, and the batch reports on the runs
(`createMemosBatch_runs`).
-/

namespace RemoteNotes.Client

open RemoteNotes.Action (Chains runFrom run_bind_runFrom)

variable {c : Client}

-- ---------------------------------------------------------------------------
-- One memo by itself
-- ---------------------------------------------------------------------------

theorem createItem_run (m : NewMemo) (s : ClientState) :
    (c.createItem m).run s = match m.prepare with
      | .error fault => (.failed fault, s)
      | .ok prepared => match (c.postMemo prepared).runFrom s with
        | (.error e, t) => (.failed e, t)
        | (.ok created, t) =>
          if prepared.attachments.isEmpty then (.created created.name, t)
          else match (c.linkAttachments created.name prepared.attachments).runFrom t with
            | (.ok (), u) => (.created created.name, u)
            | (.error e, u) => (.createdWithError created.name e, u) := by
  unfold createItem
  cases m.prepare with
  | error => rfl
  | ok prepared =>
    simp only
    rw [run_bind_runFrom]
    rcases (c.postMemo prepared).runFrom s with ⟨e | created, t⟩
    · rfl
    · simp only
      split
      · rfl
      · rw [run_bind_runFrom]
        rcases runFrom _ t with ⟨_ | _, _⟩ <;> rfl

-- ---------------------------------------------------------------------------
-- Single steps
-- ---------------------------------------------------------------------------

section

variable (c) (request : ApiRequest) (s : ClientState)

theorem attemptWith_run (look : Action SessionToken) (retries : Nat) (renewed : Bool) :
    (c.attemptWith request look retries renewed).run s = match look.runFrom s with
      | (.error e, t) => (.ended (.error e), t)
      | (.ok token, t) =>
        (.afterTry request.operation token retries renewed ((c.callOnce request token).runFrom t).1,
          ((c.callOnce request token).runFrom t).2) := by
  rw [attemptWith, run_bind_runFrom]
  rcases look.runFrom s with ⟨_ | _, _⟩ <;> rfl

theorem advance_waiting : c.advance request .waiting =
    c.attemptWith request c.getToken (c.retriesFor request) false := rfl

@[simp] theorem advance_trying (token : SessionToken) (retries : Nat) (renewed : Bool) :
    (c.advance request (.trying token retries renewed)).run s =
      (.afterTry request.operation token retries renewed ((c.callOnce request token).runFrom s).1,
        ((c.callOnce request token).runFrom s).2) := rfl

@[simp] theorem advanceItem_fresh (m : NewMemo) :
    (c.advanceItem (.fresh m)).run s = (.afterCheck m.prepare, s) := rfl

@[simp] theorem advanceItem_posting (m : PreparedMemo) (call : CallStage) :
    (c.advanceItem (.posting m call)).run s =
      (.afterPost m ((c.advance (postRequest m) call).run s).1,
        ((c.advance (postRequest m) call).run s).2) := rfl

@[simp] theorem advanceItem_linking (memo : MemoName) (attachments : List AttachmentName)
    (call : CallStage) : (c.advanceItem (.linking memo attachments call)).run s =
      (.afterLink memo attachments ((c.advance (linkRequest memo attachments) call).run s).1,
        ((c.advance (linkRequest memo attachments) call).run s).2) := rfl

end

-- ---------------------------------------------------------------------------
-- Turns
-- ---------------------------------------------------------------------------

/-- A turn of the memo at some place, and the states around the step that it took. -/
structure ItemTurn where
  place : Nat
  before : ClientState
  after : ClientState

/-- Turns that follow on each other from one state to another. -/
inductive Turns : ClientState → List ItemTurn → ClientState → Prop
  | nil {s} : Turns s [] s
  | cons {turn turns t} : Turns turn.after turns t → Turns turn.before (turn :: turns) t

theorem Turns.respects {R : ClientState → ClientState → Prop} (hR : Chains R) {s t : ClientState}
    {turns : List ItemTurn} (h : Turns s turns t)
    (hturn : ∀ turn ∈ turns, R turn.before turn.after) : R s t := by
  induction h with
  | nil => exact hR.refl _
  | cons _ ih =>
    obtain ⟨hfirst, hrest⟩ := List.forall_mem_cons.mp hturn
    exact hR.trans hfirst (ih hrest)

/-- What every turn respects holds between the first state and the one before any turn. -/
theorem Turns.forall_before {R : ClientState → ClientState → Prop} (hR : Chains R)
    {s t : ClientState} {turns : List ItemTurn} (h : Turns s turns t)
    (hturn : ∀ turn ∈ turns, R turn.before turn.after) : ∀ turn ∈ turns, R s turn.before := by
  induction h with
  | nil => exact List.forall_mem_nil _
  | cons _ ih =>
    obtain ⟨hfirst, hrest⟩ := List.forall_mem_cons.mp hturn
    exact List.forall_mem_cons.mpr ⟨hR.refl _, fun turn h => hR.trans hfirst (ih hrest turn h)⟩

/-- The turns of one memo, which are steps from one stage to another. The state that a step finds
is not the one that the step before it left, if others had their turns in between. -/
inductive ItemTurns (c : Client) : ItemStage → List ItemTurn → ItemStage → Prop
  | nil {stage} : ItemTurns c stage [] stage
  | cons {stage turn next turns last} : stage.isEnded = false →
    (c.advanceItem stage).run turn.before = (next, turn.after) → ItemTurns c next turns last →
    ItemTurns c stage (turn :: turns) last

theorem ItemTurns.ended {outcome : BatchOutcome} {turns : List ItemTurn} {last : ItemStage}
    (h : ItemTurns c (.ended outcome) turns last) : turns = [] ∧ last = .ended outcome := by
  cases h with
  | nil => exact ⟨rfl, rfl⟩
  | cons hopen => cases hopen

/-- The first turn of a memo checks it, and no more. -/
theorem ItemTurns.of_fresh {m : NewMemo} {outcome : BatchOutcome} {turns : List ItemTurn}
    (h : ItemTurns c (.fresh m) turns (.ended outcome)) :
    ∃ turn rest, turns = turn :: rest ∧ turn.after = turn.before ∧
      ItemTurns c (.afterCheck m.prepare) rest (.ended outcome) := by
  cases h with
  | cons _ hrun hrest =>
    obtain ⟨rfl, hafter⟩ := Prod.mk.inj hrun
    exact ⟨_, _, rfl, hafter.symm, hrest⟩

/-- What every step of a memo respects, its turns do. -/
theorem ItemTurns.respects {R : ClientState → ClientState → Prop}
    (hstep : ∀ stage s, R s ((c.advanceItem stage).run s).2) {stage last : ItemStage}
    {turns : List ItemTurn} (h : ItemTurns c stage turns last) :
    ∀ turn ∈ turns, R turn.before turn.after := by
  induction h with
  | nil => exact List.forall_mem_nil _
  | @cons stage turn _ _ _ _ hrun _ ih =>
    have hturn := hstep stage turn.before
    rw [hrun] at hturn
    exact List.forall_mem_cons.mpr ⟨hturn, ih⟩

-- ---------------------------------------------------------------------------
-- From stages to outcomes
-- ---------------------------------------------------------------------------

/-- There is a memo to choose as long as one has not come to its end. -/
theorem isEnded_of_chosen? {width turn : Nat} {stages : List ItemStage} (hwidth : 0 < width)
    (h : c.chosen? width turn stages = none) : ∀ stage ∈ stages, stage.isEnded = true := by
  have hnone : ItemStage.inFlight width stages = [] := by
    by_contra hsome
    have hlt : c.world.schedule turn % (ItemStage.inFlight width stages).length <
        (ItemStage.inFlight width stages).length :=
      Nat.mod_lt _ (List.length_pos_iff.mpr hsome)
    obtain ⟨-, stage, hstage, -⟩ := ItemStage.mem_inFlight.mp (List.getElem_mem hlt)
    simp [chosen?, List.getElem?_eq_getElem hlt, hstage] at h
  intro stage hstage
  cases hopen : stage.isEnded with
  | true => rfl
  | false =>
    -- the window opens with the first memo that has not come to its end
    have hfirst : stages.findIdx (fun stage => !stage.isEnded) < stages.length :=
      List.findIdx_lt_length.mpr ⟨stage, hstage, by simp [hopen]⟩
    have hmem : stages.findIdx (fun stage => !stage.isEnded) ∈ ItemStage.inFlight width stages := by
      refine ItemStage.mem_inFlight.mpr ⟨⟨Nat.le_refl _, by omega⟩, _,
        List.getElem?_eq_getElem hfirst, ?_⟩
      simpa using List.findIdx_getElem (w := hfirst)
    rw [hnone] at hmem
    cases hmem

theorem exists_outcomes {stages : List ItemStage} (h : ∀ stage ∈ stages, stage.isEnded = true) :
    ∃ outcomes : List BatchOutcome, stages = outcomes.map .ended := by
  induction stages with
  | nil => exact ⟨[], rfl⟩
  | cons first rest ih =>
    obtain ⟨hfirst, hrest⟩ := List.forall_mem_cons.mp h
    obtain ⟨outcomes, rfl⟩ := ih hrest
    cases first with
    | ended outcome => exact ⟨outcome :: outcomes, rfl⟩
    | _ => cases hfirst

/-- The turns of the memo at a place, out of all turns. -/
def turnsAt (place : Nat) (turns : List ItemTurn) : List ItemTurn := turns.filter (·.place = place)

/-- The memos of a batch take their steps in turns, until all of them have come to their ends. -/
theorem fly_turns (c : Client) {width : Nat} (hwidth : 0 < width) (turn : Nat)
    (stages : List ItemStage) (s : ClientState) :
    ∃ (turns : List ItemTurn) (outcomes : List BatchOutcome),
      Turns s turns (c.fly width turn stages s).2 ∧
      (c.fly width turn stages s).1 = outcomes.map .ended ∧ outcomes.length = stages.length ∧
      (∀ turn ∈ turns, turn.place < stages.length) ∧
      ∀ (place : Nat) (stage : ItemStage) (outcome : BatchOutcome), stages[place]? = some stage →
        outcomes[place]? = some outcome →
        ItemTurns c stage (turnsAt place turns) (.ended outcome) := by
  fun_induction fly c width turn stages s with
  | case1 turn stages s hnone =>
    obtain ⟨outcomes, rfl⟩ := exists_outcomes (isEnded_of_chosen? hwidth hnone)
    refine ⟨[], outcomes, .nil, rfl, by simp, List.forall_mem_nil _, ?_⟩
    intro place stage outcome hstage houtcome
    obtain rfl : ItemStage.ended outcome = stage := by simpa [houtcome] using hstage
    exact .nil
  | case2 turn stages s place stage hchosen next ih =>
    obtain ⟨-, hstage, hopen⟩ := chosen?_eq_some hchosen
    obtain ⟨turns, outcomes, hturns, hended, hlength, hplaces, hpaths⟩ := ih
    rw [List.length_set] at hlength hplaces
    have hlt : place < stages.length := (List.getElem?_eq_some_iff.mp hstage).1
    refine ⟨⟨place, s, next.2⟩ :: turns, outcomes, @Turns.cons ⟨place, s, next.2⟩ _ _ hturns,
      hended, hlength, List.forall_mem_cons.mpr ⟨hlt, hplaces⟩, ?_⟩
    intro place' stage' outcome hstage' houtcome
    by_cases hplace : place = place'
    · -- this memo has the turn, and its other turns lead on from the stage that the step gave
      subst hplace
      obtain rfl : stage = stage' := Option.some.inj (hstage.symm.trans hstage')
      have hrest := hpaths place next.1 outcome (by simp [hlt]) houtcome
      simpa [turnsAt] using @ItemTurns.cons c stage ⟨place, s, next.2⟩ _ _ _ hopen rfl hrest
    · have hrest := hpaths place' stage' outcome (by simp [hplace, hstage']) houtcome
      simpa [turnsAt, hplace] using hrest

-- ---------------------------------------------------------------------------
-- Runs
-- ---------------------------------------------------------------------------

/-- What became of one memo of a batch, and the turns that it took. -/
structure ItemRun where
  index : Nat
  memo : NewMemo
  turns : List ItemTurn
  outcome : BatchOutcome

namespace ItemRun

def IsRun (c : Client) (r : ItemRun) : Prop :=
  ItemTurns c (.fresh r.memo) r.turns (.ended r.outcome)

def item (r : ItemRun) : BatchItem := .mk r.index r.outcome

end ItemRun

/-- Runs of memos that share the turns from one state to another. -/
structure ItemRuns (c : Client) (s : ClientState) (runs : List ItemRun) (s' : ClientState) :
    Prop where
  isRun : ∀ r ∈ runs, r.IsRun c
  interleaved : ∃ turns, Turns s turns s' ∧
    (∀ r ∈ runs, r.turns = turnsAt r.index turns) ∧
    ∀ turn ∈ turns, ∃ r ∈ runs, r.index = turn.place

section

variable {R : ClientState → ClientState → Prop}
  (hstep : ∀ stage s, R s ((c.advanceItem stage).run s).2) {s s' : ClientState}
  {runs : List ItemRun} (h : ItemRuns c s runs s')

include hstep h

theorem ItemRuns.turn_respects : ∃ turns, Turns s turns s' ∧
    (∀ r ∈ runs, r.turns = turnsAt r.index turns) ∧ ∀ turn ∈ turns, R turn.before turn.after := by
  obtain ⟨turns, hturns, hown, hall⟩ := h.interleaved
  refine ⟨turns, hturns, hown, fun turn hturn => ?_⟩
  obtain ⟨r, hr, hplace⟩ := hall turn hturn
  refine ItemTurns.respects hstep (h.isRun r hr) turn ?_
  rw [hown r hr]
  exact List.mem_filter.mpr ⟨hturn, by simp [hplace]⟩

theorem ItemRuns.respects (hR : Chains R) : R s s' := by
  obtain ⟨turns, hturns, -, hrespects⟩ := h.turn_respects hstep
  exact hturns.respects hR hrespects

/-- What every step respects holds between the first state and the one that a step finds. -/
theorem ItemRuns.forall_before (hR : Chains R) : ∀ r ∈ runs, ∀ turn ∈ r.turns, R s turn.before := by
  obtain ⟨turns, hturns, hown, hrespects⟩ := h.turn_respects hstep
  intro r hr turn hturn
  rw [hown r hr] at hturn
  exact hturns.forall_before hR hrespects turn (List.mem_of_mem_filter hturn)

end

theorem map_fst_mapIdx (memos : List NewMemo) :
    (memos.mapIdx fun i m => (i, m)).map (·.1) = List.range memos.length := by
  refine List.ext_getElem (by simp) fun i _ _ => ?_
  simp

theorem mem_places {memos : List NewMemo} {i : Nat} {m : NewMemo} :
    ((i, m) ∈ memos.mapIdx fun i m => (i, m)) ↔ memos[i]? = some m := by
  simp only [List.mem_mapIdx, Prod.mk.injEq, List.getElem?_eq_some_iff]
  constructor
  · rintro ⟨_, hi, rfl, hm⟩
    exact ⟨hi, hm⟩
  · rintro ⟨hi, hm⟩
    exact ⟨i, hi, rfl, hm⟩

section

variable {runs : List ItemRun} {memos : List NewMemo}
  (hperm : (runs.map fun r => (r.index, r.memo)).Perm (memos.mapIdx fun i m => (i, m)))

include hperm

theorem memo_of_run {r : ItemRun} (hr : r ∈ runs) : memos[r.index]? = some r.memo :=
  mem_places.mp (hperm.mem_iff.mp (List.mem_map_of_mem hr))

theorem exists_run {i : Nat} {m : NewMemo} (hm : memos[i]? = some m) :
    ∃ r ∈ runs, r.index = i ∧ r.memo = m := by
  obtain ⟨r, hr, hplace⟩ := List.mem_map.mp (hperm.mem_iff.mpr (mem_places.mpr hm))
  exact ⟨r, hr, Prod.mk.inj hplace⟩

end

theorem items_ended (outcomes : List BatchOutcome) :
    ItemStage.items (outcomes.map .ended) = outcomes.mapIdx .mk := by
  rw [ItemStage.items, List.zipIdx_map, List.filterMap_map, List.mapIdx_eq_zipIdx_map]
  exact congrFun List.filterMap_eq_map _

theorem maxInFlight_pos (mode : BatchMode) : 0 < maxInFlight mode := by
  cases mode with
  | sequential => exact Nat.one_pos
  | concurrent n => exact Nat.lt_of_lt_of_le Nat.one_pos (Nat.le_max_right n 1)

theorem createMemosBatch_run (c : Client) (memos : List NewMemo) (s : ClientState) :
    (c.createMemosBatch memos).run s =
      let flight := c.fly (maxInFlight c.config.policy.batchMode) 0 (memos.map .fresh) s
      (.ofItems (ItemStage.items flight.1), flight.2) := rfl

/-- A batch reports on the runs of its memos, of which each has one. -/
theorem createMemosBatch_runs (c : Client) (memos : List NewMemo) (s : ClientState) :
    ∃ runs, ItemRuns c s runs ((c.createMemosBatch memos).run s).2 ∧
      ((c.createMemosBatch memos).run s).1 = .ofItems (runs.map ItemRun.item) ∧
      (runs.map fun r => (r.index, r.memo)).Perm (memos.mapIdx fun i m => (i, m)) := by
  obtain ⟨turns, outcomes, hturns, hended, hlength, hplaces, hpaths⟩ :=
    c.fly_turns (maxInFlight_pos c.config.policy.batchMode) 0 (memos.map .fresh) s
  rw [List.length_map] at hlength hplaces
  let runs : List ItemRun := (memos.zip outcomes).mapIdx fun i (m, outcome) =>
    ⟨i, m, turnsAt i turns, outcome⟩
  have hruns (r : ItemRun) (hr : r ∈ runs) : memos[r.index]? = some r.memo ∧
      outcomes[r.index]? = some r.outcome ∧ r.turns = turnsAt r.index turns := by
    obtain ⟨i, hi, rfl⟩ := List.mem_mapIdx.mp hr
    rw [List.length_zip] at hi
    have hm : i < memos.length := by omega
    have ho : i < outcomes.length := by omega
    simp [hm, ho]
  have hplace (i : Nat) (hi : i < memos.length) : ∃ r ∈ runs, r.index = i := by
    have hlt : i < runs.length := by simp [runs, hlength, hi]
    exact ⟨runs[i], List.getElem_mem hlt, by simp [runs]⟩
  refine ⟨runs, ⟨fun r hr => ?_, turns, hturns, fun r hr => (hruns r hr).2.2, fun turn hturn =>
    hplace turn.place (hplaces turn hturn)⟩, ?_, ?_⟩
  · obtain ⟨hmemo, houtcome, hown⟩ := hruns r hr
    rw [ItemRun.IsRun, hown]
    exact hpaths r.index (.fresh r.memo) r.outcome (by simp [hmemo]) houtcome
  · have hitems : outcomes.mapIdx BatchItem.mk = runs.map ItemRun.item := by
      refine List.ext_getElem (by simp [runs, hlength]) fun i _ _ => ?_
      simp [runs, ItemRun.item]
    rw [createMemosBatch_run, ← hitems, ← items_ended, ← hended]
  · refine .of_eq (List.ext_getElem (by simp [runs, hlength]) fun i _ _ => ?_)
    simp [runs]

end RemoteNotes.Client
