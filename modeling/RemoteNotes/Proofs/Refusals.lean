import RemoteNotes.Proofs.BatchReports
import RemoteNotes.Proofs.Closing

/-!
# Refused parameters

An operation looks at all of its parameters before it does anything else. Where one of them is
faulty, the operation ends with the first fault and leaves the client as it was, with nothing
sent and the same token (`refused_before_sending`). A faulty memo of a batch ends its own run
in the same way, and no other one.
-/

namespace RemoteNotes

-- ---------------------------------------------------------------------------
-- Faults of checks
-- ---------------------------------------------------------------------------

section

variable {α β : Type}

theorem findSome?_cons_or (f : α → Option β) (x : α) (xs : List α) :
    (x :: xs).findSome? f = (f x).or (xs.findSome? f) := by
  rw [List.findSome?_cons]
  cases f x <;> rfl

def faultOf : Except ValidationError α → Option ValidationError
  | .ok _ => none
  | .error fault => some fault

theorem faultOf_eq_some {r : Except ValidationError α} {fault : ValidationError} :
    faultOf r = some fault ↔ r = .error fault := by
  cases r <;> simp [faultOf]

/-- Of two checks the first one that fails counts. -/
theorem faultOf_bind {k : α → Except ValidationError β} {later : Option ValidationError}
    (hk : ∀ a, faultOf (k a) = later) (r : Except ValidationError α) :
    faultOf (r >>= k) = (faultOf r).or later := by
  cases r with
  | error fault => rfl
  | ok a => exact hk a

@[simp] theorem faultOf_ok (a : α) : faultOf (.ok a) = none := rfl

@[simp] theorem faultOf_map (f : α → β) (r : Except ValidationError α) :
    faultOf (f <$> r) = faultOf r := by
  cases r <;> rfl

theorem faultOf_mapM (f : α → Except ValidationError β) (xs : List α) :
    faultOf (xs.mapM f) = xs.findSome? fun x => faultOf (f x) := by
  induction xs with
  | nil => rfl
  | cons x xs ih =>
    rw [List.mapM_cons, findSome?_cons_or, ← ih]
    exact faultOf_bind (fun b => faultOf_map (b :: ·) (xs.mapM f)) (f x)

end

namespace Checked

variable {α : Type}

/-- The fault of a check is told by its violations. -/
theorem faultOf_toExcept (subject : String) (a : Checked α) :
    faultOf (a.toExcept subject) =
      faultOf ((withViolations a.violations ()).toExcept subject) := by
  cases a <;> rfl

end Checked

-- ---------------------------------------------------------------------------
-- Parameters
-- ---------------------------------------------------------------------------

/-- What an operation is given and checks. -/
inductive Parameter
  | name (kind : ResourceKind) (raw : String)
  | filter (f : SearchFilter)
  | memo (m : NewMemo)
  | update (u : MemoUpdate)
  | upload (u : AttachmentUpload)

def Parameter.fault? : Parameter → Option ValidationError
  | .name kind raw => faultOf (ResourceName.parse raw : Except _ (ResourceName kind))
  | .filter f => faultOf ((Checked.withViolations f.violations ()).toExcept SearchFilter.subject)
  | .memo m => faultOf m.prepare
  | .update u => faultOf ((Checked.withViolations u.violations ()).toExcept MemoUpdate.subject)
  | .upload u => faultOf u.validate

theorem SearchFilter.faultOf_toQuery (f : SearchFilter) :
    faultOf f.toQuery = (Parameter.filter f).fault? := by
  simp only [Parameter.fault?]
  rw [← violations_checkClauses, ← Checked.faultOf_toExcept]
  unfold toQuery filterExpression clauses
  cases f.checkClauses <;> rfl

/-- An update is judged in the same way for every memo. -/
theorem MemoUpdate.faultOf_prepare (u : MemoUpdate) (name : MemoName) :
    faultOf (u.prepare name) = (Parameter.update u).fault? := by
  rw [prepare, Checked.faultOf_toExcept, Checked.violations_withViolations]
  rfl

namespace Operation

/-- The parameters in the order in which they are looked at. -/
def parameters : Operation → List Parameter
  | .searchMemos filter => [.filter filter]
  | .getMemo name | .deleteMemo name | .listMemoAttachments name => [.name .memo name]
  | .createMemo memo => [.memo memo]
  | .updateMemo name update => [.name .memo name, .update update]
  | .setMemoAttachments memo attachments =>
    .name .memo memo :: attachments.map (.name .attachment)
  | .uploadAttachment upload => [.upload upload]
  | .getAttachment name | .deleteAttachment name => [.name .attachment name]
  | .getUser name => [.name .user name]
  | _ => []

/-- The fault of the first parameter that has one. -/
def fault? (op : Operation) : Option ValidationError := op.parameters.findSome? Parameter.fault?

theorem faultOf_checks (op : Operation) : faultOf op.checks = op.fault? := by
  cases op with
  | searchMemos filter => simp [checks, fault?, parameters, SearchFilter.faultOf_toQuery]
  | updateMemo name update =>
    have hupdate (n : MemoName) :
        faultOf (update.prepare n >>= fun _ => pure ()) = (Parameter.update update).fault? := by
      simp [MemoUpdate.faultOf_prepare]
    rw [checks, faultOf_bind hupdate, fault?, parameters, findSome?_cons_or, findSome?_cons_or]
    simp [Parameter.fault?]
  | setMemoAttachments memo attachments =>
    have hattachments (n : MemoName) :
        faultOf ((attachments.mapM ResourceName.parse : Except _ (List AttachmentName)) >>=
          fun _ => pure ()) =
        (attachments.map (Parameter.name .attachment)).findSome? Parameter.fault? := by
      simp [faultOf_mapM, List.findSome?_map, Function.comp_def, Parameter.fault?]
    rw [checks, faultOf_bind hattachments, fault?, parameters, findSome?_cons_or]
    rfl
  | _ => simp [checks, fault?, parameters, Parameter.fault?]

end Operation

namespace Client

variable {c : Client} {α β : Type}

/-- A fault of the parameters is all that comes of an action. -/
def RefusedBy (act : Action α) (check : Except ValidationError Unit) : Prop :=
  ∀ s fault, check = .error fault → EndsAtOnce act s (.validation fault)

namespace RefusedBy

variable {check : Except ValidationError Unit}

theorem accepted (act : Action α) : RefusedBy act (.ok ()) := nofun

theorem discard {act : Action α} (h : RefusedBy act check) :
    RefusedBy (Functor.discard act) check :=
  fun s fault hfault => (h s fault hfault).discard

theorem checked {r : Except ValidationError α} {f : α → Action β}
    {k : α → Except ValidationError Unit} (h : ∀ a, RefusedBy (f a) (k a)) :
    RefusedBy (checked r >>= f) (r >>= k) := by
  intro s fault hfault
  cases r with
  | error => cases hfault; rfl
  | ok a => exact h a s fault hfault

end RefusedBy

theorem perform_refused (op : Operation) : RefusedBy (op.perform c) op.checks := by
  cases op with
  | searchMemos filter => exact .discard (.checked fun _ => .accepted _)
  | getMemo name => exact .discard (.checked fun _ => .accepted _)
  | createMemo memo => exact .discard (.checked fun _ => .accepted _)
  | updateMemo name update => exact .discard (.checked fun _ => .checked fun _ => .accepted _)
  | deleteMemo name => exact .checked fun _ => .accepted _
  | setMemoAttachments memo attachments =>
    exact .checked fun _ => .checked fun _ => .accepted _
  | listMemoAttachments memo => exact .discard (.checked fun _ => .accepted _)
  | uploadAttachment upload => exact .discard (.checked fun _ => .accepted _)
  | getAttachment name => exact .discard (.checked fun _ => .accepted _)
  | deleteAttachment name => exact .checked fun _ => .accepted _
  | getUser name => exact .discard (.checked fun _ => .accepted _)
  | _ => exact .accepted _

theorem ItemRun.IsRun.of_faulty {r : ItemRun} (h : r.IsRun c) {fault : ValidationError}
    (hfault : r.memo.prepare = .error fault) :
    r.outcome = .failed (.validation fault) ∧ ∀ turn ∈ r.turns, turn.after = turn.before := by
  obtain ⟨turn, rest, hturns, hafter, hrest⟩ := ItemTurns.of_fresh h
  rw [hfault] at hrest
  obtain ⟨rfl, hlast⟩ := hrest.ended
  rw [hturns]
  exact ⟨ItemStage.ended.inj hlast, List.forall_mem_singleton.mpr hafter⟩

/-- Faulty parameters are refused whatever the client is like, and leave it as it was. The same
is true of each faulty memo of a batch, whose turns change nothing. -/
theorem refused_before_sending (c : Client) (s : ClientState) :
    (∀ op : Operation, ∀ p ∈ op.parameters, p.fault? ≠ none → ∃ fault, op.fault? = some fault ∧
      (op.perform c).runFrom s = (.error (.validation fault), s)) ∧
    ∀ memos, ∃ runs, ItemRuns c s runs ((c.createMemosBatch memos).run s).2 ∧
      (runs.map fun r => (r.index, r.memo)).Perm (memos.mapIdx fun i m => (i, m)) ∧
      ∀ i m fault, memos[i]? = some m → m.prepare = .error fault →
        ((c.createMemosBatch memos).run s).1.items[i]? =
          some (.mk i (.failed (.validation fault))) ∧
        ∀ r ∈ runs, r.index = i → ∀ turn ∈ r.turns, turn.after = turn.before := by
  constructor
  · intro op p hp hfaulty
    have hfirst : op.fault?.isSome = true :=
      List.findSome?_isSome_iff.mpr ⟨p, hp, Option.isSome_iff_ne_none.mpr hfaulty⟩
    obtain ⟨fault, hfault⟩ := Option.isSome_iff_exists.mp hfirst
    refine ⟨fault, hfault, perform_refused op s fault (faultOf_eq_some.mp ?_)⟩
    rw [op.faultOf_checks, hfault]
  · intro memos
    obtain ⟨runs, hruns, hreport, hperm⟩ := createMemosBatch_runs c memos s
    refine ⟨runs, hruns, hperm, fun i m fault hm hfault => ?_⟩
    have hfaulty (r : ItemRun) (hr : r ∈ runs) (hi : r.index = i) :
        r.outcome = .failed (.validation fault) ∧ ∀ turn ∈ r.turns, turn.after = turn.before := by
      have hmemo : r.memo = m := by
        have hplace := memo_of_run hperm hr
        rw [hi, hm] at hplace
        exact (Option.some.inj hplace).symm
      exact (hruns.isRun r hr).of_faulty (hmemo ▸ hfault)
    obtain ⟨r, hr, hi, -⟩ := exists_run hperm hm
    refine ⟨?_, fun r hr hi => (hfaulty r hr hi).2⟩
    rw [hreport, ← hi, item_of_run hperm hr, ItemRun.item, (hfaulty r hr hi).1]

/-- A client without a token, which would have to log in before it could send anything. -/
theorem refused_before_login :
    let c := facing (.password "alice" "secret") fun _ _ => .lost
    let op : Operation := .setMemoAttachments "memos/1" ["2", "a/b"]
    let inName : ValidationError :=
      .single "attachment name" "name" "id 'a/b' must not contain '/' or whitespace"
    let inContent : ValidationError := .single NewMemo.subject "content" "must not be empty"
    (op.perform c).runFrom c.start = (.error (.validation inName), c.start) ∧
      ((c.createMemosBatch [{ content := "one" }, { content := " " }]).run c.start).1.items[1]? =
        some (.mk 1 (.failed (.validation inContent))) := by
  intro c op inName inContent
  obtain ⟨hcall, hbatch⟩ := refused_before_sending c c.start
  obtain ⟨fault, hfault, hrun⟩ := hcall op (.name .attachment "a/b")
    (by simp [op, Operation.parameters]) (by decide +kernel)
  have hname : op.fault? = some inName := by decide +kernel
  obtain rfl : fault = inName := Option.some.inj (hfault.symm.trans hname)
  obtain ⟨runs, -, -, hitems⟩ := hbatch [{ content := "one" }, { content := " " }]
  have hcontent : NewMemo.prepare { content := " " } = .error inContent := by rfl
  exact ⟨hrun, (hitems 1 { content := " " } inContent rfl hcontent).1⟩

end Client

end RemoteNotes
