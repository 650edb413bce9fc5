import Mathlib.Data.List.Perm.Basic
import RemoteNotes.Proofs.Batch

/-!
# Reports on batches

A report accounts for every memo of its batch once, in the order of the input, whatever order
the memos came to an end in (`accounts_ofItems`). A batch gives each of its memos a run of its
own and reports what became of it, whatever became of the others (`createMemosBatch_report`).
-/

namespace RemoteNotes

namespace BatchOutcome

def isCreated : BatchOutcome → Bool
  | .created _ => true
  | _ => false

/-- Why the memo was never created. -/
def failure? : BatchOutcome → Option Error
  | .failed e => some e
  | _ => none

theorem isCreated_eq (o : BatchOutcome) : o.isCreated = o.error?.isNone := by
  cases o <;> rfl

theorem isSome_failure? (o : BatchOutcome) : o.failure?.isSome = !o.name?.isSome := by
  cases o <;> rfl

end BatchOutcome

namespace BatchReport

-- ---------------------------------------------------------------------------
-- Order
-- ---------------------------------------------------------------------------

theorem items_ofItems_perm (items : List BatchItem) : (ofItems items).items.Perm items :=
  List.mergeSort_perm ..

theorem items_ofItems_sorted (items : List BatchItem) :
    ((ofItems items).items.map (·.index)).Pairwise (· ≤ ·) := by
  rw [List.pairwise_map]
  refine (List.pairwise_mergeSort (fun a b c => ?_) (fun a b => ?_) items).imp of_decide_eq_true
  · simp only [decide_eq_true_eq]
    exact Nat.le_trans
  · simp [Nat.le_total]

theorem indices_ofItems {items : List BatchItem} {count : Nat}
    (h : (items.map (·.index)).Perm (List.range count)) :
    (ofItems items).items.map (·.index) = List.range count :=
  List.Perm.eq_of_pairwise (fun _ _ _ _ => Nat.le_antisymm) (items_ofItems_sorted items)
    List.pairwise_le_range (((items_ofItems_perm items).map _).trans h)

/-- Where the indices are the places, each item stands at its index. -/
theorem getElem?_index {items : List BatchItem} {count : Nat}
    (h : items.map (·.index) = List.range count) {item : BatchItem} (hitem : item ∈ items) :
    items[item.index]? = some item := by
  obtain ⟨place, hplace, rfl⟩ := List.getElem_of_mem hitem
  have hindex : items[place].index = place := by
    have hlt : place < (items.map (·.index)).length := by simpa using hplace
    have hget : (items.map (·.index))[place] = items[place].index := by simp
    rw [← hget]
    simp [h]
  rw [hindex]
  exact List.getElem?_eq_getElem hplace

-- ---------------------------------------------------------------------------
-- Views
-- ---------------------------------------------------------------------------

section

variable {β : Type} (f : BatchOutcome → Option β) (items : List BatchItem)

/-- What a view of outcomes shows of a list of items, with the indices. -/
def listing : List (Nat × β) :=
  items.filterMap fun item => (f item.outcome).map fun b => (item.index, b)

theorem mem_listing {i : Nat} {b : β} :
    (i, b) ∈ listing f items ↔ ∃ o, .mk i o ∈ items ∧ f o = some b := by
  simp only [listing, List.mem_filterMap, Option.map_eq_some_iff, Prod.mk.injEq]
  constructor
  · rintro ⟨⟨j, o⟩, hitem, _, hb, rfl, rfl⟩
    exact ⟨o, hitem, hb⟩
  · rintro ⟨o, hitem, hb⟩
    exact ⟨.mk i o, hitem, b, hb, rfl, rfl⟩

theorem indices_listing :
    (listing f items).map (·.1) =
      (items.filter fun item => (f item.outcome).isSome).map (·.index) := by
  induction items with
  | nil => rfl
  | cons item items ih =>
    simp only [listing, List.filterMap_cons, List.filter_cons] at ih ⊢
    cases f item.outcome with
    | none => simpa using ih
    | some b => simpa using ih

end

theorem notCreated_eq (r : BatchReport) : r.notCreated = listing BatchOutcome.failure? r.items := by
  refine congrArg (fun view => r.items.filterMap view) (funext fun ⟨i, o⟩ => ?_)
  cases o <;> rfl

theorem mem_notCreated_iff {r : BatchReport} {i : Nat} {e : Error} :
    (i, e) ∈ r.notCreated ↔ .mk i (.failed e) ∈ r.items := by
  rw [notCreated_eq, mem_listing]
  constructor
  · rintro ⟨o, hitem, ho⟩
    cases o with
    | failed => cases ho; exact hitem
    | _ => cases ho
  · exact fun hitem => ⟨_, hitem, rfl⟩

theorem allSucceeded_iff (r : BatchReport) :
    r.allSucceeded = true ↔ ∀ item ∈ r.items, item.outcome.isCreated = true := by
  simp only [allSucceeded, failed, List.isEmpty_iff, List.filterMap_eq_nil_iff,
    Option.map_eq_none_iff, BatchOutcome.isCreated_eq, Option.isNone_iff_eq_none]

/-- Outcomes without a fault are names. -/
theorem outcomes_of_created {items : List BatchItem}
    (h : ∀ item ∈ items, item.outcome.isCreated = true) :
    items.map (·.outcome) = ((listing BatchOutcome.name? items).map (·.2)).map .created := by
  induction items with
  | nil => rfl
  | cons item items ih =>
    obtain ⟨hitem, hitems⟩ := List.forall_mem_cons.mp h
    obtain ⟨i, o⟩ := item
    cases o with
    | created name => exact congrArg (BatchOutcome.created name :: ·) (ih hitems)
    | _ => cases hitem

theorem toExcept_eq_ok {r : BatchReport} {names : List MemoName} :
    r.toExcept = .ok names ↔ r.items.map (·.outcome) = names.map .created := by
  have hinj : Function.Injective BatchOutcome.created := fun _ _ h => by cases h; rfl
  unfold toExcept
  split
  · next hall =>
    rw [outcomes_of_created (r.allSucceeded_iff.mp hall), (List.map_injective_iff.mpr hinj).eq_iff]
    simp [succeeded, listing]
  · next hall =>
    refine iff_of_false nofun fun houtcomes => hall (r.allSucceeded_iff.mpr fun item hitem => ?_)
    have hmem : item.outcome ∈ names.map .created := houtcomes ▸ List.mem_map_of_mem hitem
    obtain ⟨name, -, hname⟩ := List.mem_map.mp hmem
    rw [← hname]
    rfl

theorem toExcept_eq_error {r : BatchReport} {e : Error} :
    r.toExcept = .error e ↔ e = .partialBatch operation r.items ∧
      ∃ item ∈ r.items, item.outcome.isCreated = false := by
  have hfailing : (∃ item ∈ r.items, item.outcome.isCreated = false) ↔ ¬r.allSucceeded = true := by
    simp [allSucceeded_iff]
  rw [hfailing]
  unfold toExcept
  split
  · next hall => exact iff_of_false nofun fun h => h.2 hall
  · next hall => rw [Except.error.injEq, and_iff_left hall, eq_comm]

-- ---------------------------------------------------------------------------
-- Whole reports
-- ---------------------------------------------------------------------------

/-- A report on a batch of so many memos. -/
structure AccountsFor (r : BatchReport) (count : Nat) : Prop where
  indices : r.items.map (·.index) = List.range count
  /-- A memo exists or was never created. -/
  divided : (r.succeeded.map (·.1) ++ r.notCreated.map (·.1)).Perm (List.range count)
  succeeded : ∀ i name, (i, name) ∈ r.succeeded ↔ ∃ o, .mk i o ∈ r.items ∧ o.name? = some name
  notCreated : ∀ i e, (i, e) ∈ r.notCreated ↔ .mk i (.failed e) ∈ r.items
  failed : r.failed.map (·.1) =
    (r.items.filter fun item => !item.outcome.isCreated).map (·.index)
  ok_iff : ∀ names, r.toExcept = .ok names ↔ r.items.map (·.outcome) = names.map .created
  error_iff : ∀ e, r.toExcept = .error e ↔ e = .partialBatch operation r.items ∧
    ∃ item ∈ r.items, item.outcome.isCreated = false

theorem indices_failed (r : BatchReport) : r.failed.map (·.1) =
    (r.items.filter fun item => !item.outcome.isCreated).map (·.index) := by
  rw [show r.failed = listing BatchOutcome.error? r.items from rfl, indices_listing]
  simp [BatchOutcome.isCreated_eq]

theorem accountsFor {r : BatchReport} {count : Nat}
    (indices : r.items.map (·.index) = List.range count) : r.AccountsFor count where
  indices := indices
  divided := by
    rw [notCreated_eq, show r.succeeded = listing BatchOutcome.name? r.items from rfl,
      indices_listing, indices_listing, ← List.map_append, ← indices]
    simp only [BatchOutcome.isSome_failure?]
    exact (List.filter_append_perm ..).map _
  succeeded i name := mem_listing BatchOutcome.name? r.items
  notCreated i e := mem_notCreated_iff
  failed := indices_failed r
  ok_iff _ := toExcept_eq_ok
  error_iff _ := toExcept_eq_error

/-- The order that items come in does not matter. -/
theorem accounts_ofItems {items : List BatchItem} {count : Nat}
    (h : (items.map (·.index)).Perm (List.range count)) : (ofItems items).AccountsFor count :=
  accountsFor (indices_ofItems h)

end BatchReport

namespace Client

section

variable {runs : List ItemRun} {memos : List NewMemo}
  (hperm : (runs.map fun r => (r.index, r.memo)).Perm (memos.mapIdx fun i m => (i, m)))

include hperm

theorem indices_perm :
    ((runs.map ItemRun.item).map (·.index)).Perm (List.range memos.length) := by
  have hindices := hperm.map (·.1)
  rw [map_fst_mapIdx, List.map_map] at hindices
  rwa [List.map_map]

theorem item_of_run {r : ItemRun} (hr : r ∈ runs) :
    (BatchReport.ofItems (runs.map ItemRun.item)).items[r.index]? = some r.item :=
  BatchReport.getElem?_index (BatchReport.indices_ofItems (indices_perm hperm))
    ((BatchReport.items_ofItems_perm _).mem_iff.mpr (List.mem_map_of_mem hr))

end

/-- Every memo of a batch has a run of its own, and the report tells at its place what came of
it. Whatever order the memos come to an end in, the report is in the order of the input. -/
theorem createMemosBatch_report (c : Client) (memos : List NewMemo) (s : ClientState) :
    (∃ runs, ItemRuns c s runs ((c.createMemosBatch memos).run s).2 ∧
      (runs.map fun r => (r.index, r.memo)).Perm (memos.mapIdx fun i m => (i, m)) ∧
      let report := ((c.createMemosBatch memos).run s).1
      report.AccountsFor memos.length ∧
      ∀ i (hi : i < memos.length), ∃ r ∈ runs, r.index = i ∧ r.memo = memos[i] ∧ r.IsRun c ∧
        report.items[i]? = some (.mk i r.outcome)) ∧
    ∀ done : List BatchItem, (done.map (·.index)).Perm (List.range memos.length) →
      (BatchReport.ofItems done).items.Perm done ∧
        (BatchReport.ofItems done).AccountsFor memos.length := by
  refine ⟨?_, fun done hdone =>
    ⟨BatchReport.items_ofItems_perm done, BatchReport.accounts_ofItems hdone⟩⟩
  obtain ⟨runs, hruns, hreport, hperm⟩ := createMemosBatch_runs c memos s
  simp only [hreport]
  refine ⟨runs, hruns, hperm, BatchReport.accounts_ofItems (indices_perm hperm), fun i hi => ?_⟩
  obtain ⟨r, hr, rfl, hmemo⟩ := exists_run hperm (List.getElem?_eq_getElem hi)
  exact ⟨r, hr, rfl, hmemo, hruns.isRun r hr, item_of_run hperm hr⟩

/-- Which memos of a batch failed is told by what became of them in flight. -/
theorem failed_createMemosBatch (c : Client) (memos : List NewMemo) (s : ClientState) :
    (((c.createMemosBatch memos).run s).1.failed.map (·.1)).Perm
      (((ItemStage.items (c.fly (maxInFlight c.config.policy.batchMode) 0 (memos.map .fresh) s).1
        ).filter fun item => !item.outcome.isCreated).map (·.index)) := by
  rw [BatchReport.indices_failed]
  exact ((BatchReport.items_ofItems_perm _).filter _).map _

theorem createMemosBatch_state (c : Client) (memos : List NewMemo) (s : ClientState) :
    ((c.createMemosBatch memos).run s).2 =
      (c.fly (maxInFlight c.config.policy.batchMode) 0 (memos.map .fresh) s).2 := rfl

/-- The second memo of a batch is refused before the first one is sent. The report tells so at its
place, whichever of the two items came first. -/
theorem report_of_overtaken_memo :
    let c := inPairs (.token "key") [plain 400, showing "memos/1"] [1, 1]
    let memos : List NewMemo := [{ content := "one" }, { content := "two" }]
    let run := (c.createMemosBatch memos).run c.start
    run.2.exchanges.map (fun x => some x.request.body) =
        memos.reverse.map (fun m => m.prepare.toOption.map fun p =>
          Text.Utf8.ofString p.body.write) ∧
      run.1.failed.map (·.1) = [1] ∧ run.1.AccountsFor 2 ∧
      (BatchReport.ofItems run.1.items.reverse).AccountsFor 2 := by
  intro c memos
  have hflight : (c.fly (maxInFlight c.config.policy.batchMode) 0 (memos.map .fresh)
        c.start).2.exchanges.map (fun x => some x.request.body) =
      memos.reverse.map (fun m => m.prepare.toOption.map fun p =>
        Text.Utf8.ofString p.body.write) ∧
      ((ItemStage.items (c.fly (maxInFlight c.config.policy.batchMode) 0 (memos.map .fresh)
        c.start).1).filter fun item => !item.outcome.isCreated).map (·.index) = [1] := by
    decide +kernel
  obtain ⟨⟨runs, -, -, hreport, -⟩, hany⟩ := createMemosBatch_report c memos c.start
  have hfailed := failed_createMemosBatch c memos c.start
  rw [hflight.2] at hfailed
  have hdone : (((c.createMemosBatch memos).run c.start).1.items.reverse.map (·.index)).Perm
      (List.range memos.length) := by
    rw [List.map_reverse, hreport.indices]
    exact List.reverse_perm _
  refine ⟨?_, List.perm_singleton.mp hfailed, hreport, (hany _ hdone).2⟩
  rw [← hflight.1, ← createMemosBatch_state]

end Client

end RemoteNotes
