import Mathlib.Data.List.Nodup
import RemoteNotes.Proofs.BatchReports
import RemoteNotes.Proofs.Creation

/-!
# Memos to send again

A report lists a memo as not created if no reply showed what the server had made of it
(`ItemRun.failed_iff`). Sending it again is safe only where every reply that accepts a memo
shows it (`notCreated_safe_iff`): a reply that broke off or cannot be read accepts the memo,
and the memo is listed all the same.
-/

namespace RemoteNotes

/-- The server answered that it did what it was asked for, whether or not all of the reply
came. -/
def Exchange.isAccepted (x : Exchange) : Bool :=
  match x.reply with
  | .answered r => r.isSuccess
  | _ => false

theorem Exchange.isRejected_of_isAccepted {x : Exchange} (h : x.isAccepted = true) :
    x.isRejected = false := by
  unfold isAccepted at h
  unfold isRejected Http.Reply.whole?
  cases hreply : x.reply with
  | answered r =>
    simp only [hreply, Http.Response.isSuccess, Bool.and_eq_true, decide_eq_true_eq] at h
    have hu : r.isUnauthorized = false := by
      simp only [Http.Response.isUnauthorized, beq_eq_false_iff_ne]
      omega
    simp only
    split <;> simp [hu]
  | _ => rfl

theorem Exchange.Creates.isRejected {x : Exchange} {memo : Memo} (h : x.Creates memo) :
    x.isRejected = false := by
  obtain ⟨v, ⟨reply, hreply, hsuccess, -⟩, -⟩ := h
  refine Exchange.isRejected_of_isAccepted ?_
  unfold isAccepted
  cases hx : x.reply with
  | answered r =>
    simp only [hx, Http.Reply.whole?, Option.ite_none_right_eq_some, Option.some.injEq] at hreply
    rw [hreply.2]
    exact hsuccess
  | _ => simp [hx, Http.Reply.whole?] at hreply

namespace BatchReport

theorem mem_notCreated {items : List BatchItem} {i : Nat} :
    i ∈ (ofItems items).notCreated.map (·.1) ↔ ∃ e, .mk i (.failed e) ∈ items := by
  have hperm := items_ofItems_perm items
  rw [List.mem_map]
  constructor
  · rintro ⟨⟨_, e⟩, hlisted, rfl⟩
    exact ⟨e, hperm.mem_iff.mp (mem_notCreated_iff.mp hlisted)⟩
  · rintro ⟨e, hitem⟩
    exact ⟨(i, e), mem_notCreated_iff.mpr (hperm.mem_iff.mpr hitem), rfl⟩

end BatchReport

namespace Client

variable {c : Client}

-- ---------------------------------------------------------------------------
-- The memos of a batch
-- ---------------------------------------------------------------------------

/-- The requests that sent a memo of a batch. -/
def ItemRun.posts (r : ItemRun) : List Exchange :=
  (calledIn r.turns).filter (·.request.method = .post)

theorem Posting.filter {prepared : PreparedMemo} {posts : List Exchange}
    (h : Posting c prepared posts) : posts.filter (·.request.method = .post) = posts := by
  refine List.filter_eq_self.mpr fun x hx => ?_
  obtain ⟨token, hx⟩ := h.isCall x hx
  exact decide_eq_true hx.onWire.1

theorem filter_links {memo : MemoName} {attachments : List AttachmentName} {links : List Exchange}
    (h : ∀ x ∈ links, ∃ token, IsCall c (linkRequest memo attachments) token x) :
    links.filter (·.request.method = .post) = [] := by
  refine List.filter_eq_nil_iff.mpr fun x hx => ?_
  obtain ⟨token, hx⟩ := h x hx
  rw [hx.onWire.1]
  nofun

/-- What becomes of a memo after the server answered for it sends no memo again, and whether it
counts as failed is decided. -/
theorem ItemTurns.created {attachments : List AttachmentName} {result : Except Error Memo}
    {turns : List ItemTurn} {outcome : BatchOutcome}
    (h : ItemTurns c (.afterCreation attachments result) turns (.ended outcome)) :
    (calledIn turns).filter (·.request.method = .post) = [] ∧
      ((∃ e, outcome = .failed e) ↔ ∃ e, result = .error e) := by
  rcases h.of_created with ⟨rfl, ⟨e, rfl, rfl⟩ | ⟨memo, rfl, rfl⟩⟩ | ⟨memo, r, rfl, -, hlink, hlast⟩
  · exact ⟨rfl, fun _ => ⟨e, rfl⟩, fun _ => ⟨e, rfl⟩⟩
  · exact ⟨rfl, by simp⟩
  · refine ⟨filter_links hlink.trace.isCall, ?_⟩
    rcases r with e | v <;> cases hlast <;> simp

/-- A memo of a batch that could be sent failed where sending it did. -/
theorem ItemRun.IsRun.cases {r : ItemRun} (h : r.IsRun c) :
    (r.posts = [] ∧ ∃ e, r.outcome = .failed e) ∨
      ∃ prepared result, PostTrace c prepared r.posts result ∧
        ((∃ e, r.outcome = .failed e) ↔ ∃ e, result = .error e) := by
  obtain ⟨check, rest, hturns, hafter, hparts⟩ := h.parts
  have hchecked : calledIn (check :: rest) = calledIn rest :=
    calledIn_cons (called_nil (by rw [hafter])) rest
  rw [ItemRun.posts, hturns, hchecked]
  rcases hparts with ⟨fault, -, rfl, hfailed⟩ |
    ⟨prepared, posting, others, result, -, rfl, hcall, hend⟩
  · exact .inl ⟨rfl, _, hfailed⟩
  · have hposts := hcall.trace.posts
    obtain ⟨hnone, hiff⟩ := hend.created
    rw [calledIn_append, List.filter_append, hnone, hposts.filter, List.append_nil]
    exact .inr ⟨prepared, _, hposts, hiff⟩

/-- A memo of a batch counts as not created if no reply shows what was made of it. -/
theorem ItemRun.IsRun.failed_iff {r : ItemRun} (h : r.IsRun c) :
    (∃ e, r.outcome = .failed e) ↔ ∀ x ∈ r.posts, ∀ memo, ¬x.Creates memo := by
  rcases h.cases with ⟨hnone, hfailed⟩ | ⟨prepared, result, hposts, hiff⟩
  · rw [hnone]
    exact ⟨fun _ => List.forall_mem_nil _, fun _ => hfailed⟩
  · rw [hiff]
    constructor
    · rintro ⟨e, rfl⟩ x hx memo hmemo
      cases hposts.of_creates x hx memo hmemo
    · intro hnever
      rcases result with e | memo
      · exact ⟨e, rfl⟩
      · obtain ⟨x, hx, hmemo⟩ := hposts.creates memo rfl
        exact absurd hmemo (hnever x (List.mem_of_getLast? hx) memo)

theorem ItemRun.IsRun.eq_of_not_rejected {r : ItemRun} (h : r.IsRun c) {x y : Exchange}
    (hx : x ∈ r.posts) (hy : y ∈ r.posts) (hx' : x.isRejected = false)
    (hy' : y.isRejected = false) : x = y := by
  rcases h.cases with ⟨hnone, -⟩ | ⟨prepared, result, hposts, -⟩
  · rw [hnone] at hx
    cases hx
  · have hlast {z : Exchange} (hz : z ∈ r.posts) (hz' : z.isRejected = false) :
        r.posts.getLast? = some z := by
      rcases List.eq_nil_or_concat r.posts with hnil | ⟨front, last, hposts'⟩
      · rw [hnil] at hz
        cases hz
      · have hagain := hposts.again
        rw [hposts', List.concat_eq_append, List.dropLast_concat] at hagain
        rw [hposts', List.concat_eq_append, List.mem_append, List.mem_singleton] at hz
        rw [hposts', List.concat_eq_append, List.getLast?_concat]
        rcases hz with hz | rfl
        · cases hz'.symm.trans (hagain z hz)
        · rfl
    exact Option.some.inj ((hlast hx hx').symm.trans (hlast hy hy'))

/-- Not having been created means not having been accepted, for a memo of a batch, just where
every reply that accepted it shows what was made of it. -/
theorem ItemRun.IsRun.safe_iff {r : ItemRun} (h : r.IsRun c) :
    ((∃ e, r.outcome = .failed e) → ∀ x ∈ r.posts, x.isAccepted = false) ↔
      ∀ x ∈ r.posts, x.isAccepted = true → ∃ memo, x.Creates memo := by
  rw [h.failed_iff]
  constructor
  · intro hsafe x hx haccepted
    by_contra hnever
    -- a reply that showed a memo would be the one that accepted it
    have hnone : ∀ y ∈ r.posts, ∀ memo, ¬y.Creates memo := by
      intro y hy memo hmemo
      have hxy := h.eq_of_not_rejected hx hy (Exchange.isRejected_of_isAccepted haccepted)
        hmemo.isRejected
      exact hnever ⟨memo, hxy ▸ hmemo⟩
    cases haccepted.symm.trans (hsafe hnone x hx)
  · intro hshown hnever x hx
    cases haccepted : x.isAccepted with
    | false => rfl
    | true =>
      obtain ⟨memo, hmemo⟩ := hshown x hx haccepted
      exact absurd hmemo (hnever x hx memo)

-- ---------------------------------------------------------------------------
-- The report
-- ---------------------------------------------------------------------------

/-- The memos that a report lists as not created were never accepted just where every reply
that accepted a memo of the batch shows what was made of it. -/
theorem notCreated_safe_iff (c : Client) (memos : List NewMemo) (s : ClientState) :
    ∃ runs, ItemRuns c s runs ((c.createMemosBatch memos).run s).2 ∧
      (runs.map fun r => (r.index, r.memo)).Perm (memos.mapIdx fun i m => (i, m)) ∧
      ((∀ r ∈ runs, r.index ∈ ((c.createMemosBatch memos).run s).1.notCreated.map (·.1) →
          ∀ x ∈ r.posts, x.isAccepted = false) ↔
        ∀ r ∈ runs, ∀ x ∈ r.posts, x.isAccepted = true → ∃ memo, x.Creates memo) := by
  obtain ⟨runs, hruns, hreport, hperm⟩ := createMemosBatch_runs c memos s
  refine ⟨runs, hruns, hperm, ?_⟩
  -- every place of the input has one run, so that the index of an item tells its run
  have hnodup : (runs.map (·.index)).Nodup := by
    have h := (hperm.map (·.1)).nodup_iff.mpr (by rw [map_fst_mapIdx]; exact List.nodup_range)
    rwa [List.map_map] at h
  have hlisted (r : ItemRun) (hr : r ∈ runs) :
      r.index ∈ ((c.createMemosBatch memos).run s).1.notCreated.map (·.1) ↔
        ∃ e, r.outcome = .failed e := by
    rw [hreport, BatchReport.mem_notCreated]
    constructor
    · rintro ⟨e, hitem⟩
      obtain ⟨r', hr', hitem⟩ := List.mem_map.mp hitem
      simp only [ItemRun.item, BatchItem.mk.injEq] at hitem
      obtain rfl : r' = r := List.inj_on_of_nodup_map hnodup hr' hr hitem.1
      exact ⟨e, hitem.2⟩
    · rintro ⟨e, he⟩
      exact ⟨e, List.mem_map.mpr ⟨r, hr, by rw [ItemRun.item, he]⟩⟩
  constructor
  · intro hsafe r hr
    exact (hruns.isRun r hr).safe_iff.mp fun hfailed => hsafe r hr ((hlisted r hr).mpr hfailed)
  · intro hshown r hr hin
    exact (hruns.isRun r hr).safe_iff.mpr (hshown r hr) ((hlisted r hr).mp hin)

/-- A server accepts a memo with a reply that shows none, and the memo is listed as not
created. -/
theorem listed_though_accepted :
    let c := facing (.token "key") fun _ _ => .answered ⟨200, [], [123, 125], .complete⟩
    let run := (c.createMemosBatch [{ content := "hello" }]).run c.start
    run.1.notCreated.map (·.1) = [0] ∧
      run.2.exchanges.map (fun x => (x.request.method, x.isAccepted)) = [(.post, true)] := by
  decide +kernel

end Client

end RemoteNotes
