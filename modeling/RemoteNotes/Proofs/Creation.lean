import RemoteNotes.Proofs.CallTurns
import RemoteNotes.Proofs.Names
import RemoteNotes.Proofs.Requests
import RemoteNotes.Proofs.Results

/-!
# Creating memos

What the creation of a memo sends, in its order: the new memo, its attachments once the
server has said what it made of it, and in the end a request to read it. The memo itself is
sent again only where the server rejected the token of the first request
(`creation_trace`). That is so of a memo by itself and of every memo of a batch.
-/

namespace RemoteNotes

/-- All of a reply came, and it shows the memo that the server made. -/
def Exchange.Creates (x : Exchange) (memo : Memo) : Prop :=
  ∃ v, x.Delivers "create_memo" v ∧ WireModel.ofWire v = .ok memo

-- ---------------------------------------------------------------------------
-- Prepared memos
-- ---------------------------------------------------------------------------

namespace NewMemo

/-- The attachments of a prepared memo are those that it was given, in their order. -/
theorem prepare_attachments {m : NewMemo} {prepared : PreparedMemo}
    (h : m.prepare = .ok prepared) :
    m.attachments.map ResourceName.parseMessage = prepared.attachments.map .ok :=
  (prepare_eq_ok.mp h).2.1

end NewMemo

namespace Client

open RemoteNotes.Action (runFrom runFrom_bind run_bind_runFrom)

variable {c : Client}

-- ---------------------------------------------------------------------------
-- The three calls
-- ---------------------------------------------------------------------------

def readRequest (memo : MemoName) : ApiRequest := about .get "get_memo" memo

theorem fetch_runFrom {α : Type} [WireModel α] (c : Client) (request : ApiRequest)
    (s : ClientState) :
    (c.fetch request : Action α).runFrom s =
      (((c.call request).runFrom s).1.bind fun v => (WireModel.ofWire v).mapError .validation,
        ((c.call request).runFrom s).2) := by
  rw [fetch, runFrom_bind]
  rcases (c.call request).runFrom s with ⟨_ | _, _⟩ <;> rfl

theorem fetch_eq_ok {α : Type} [WireModel α] {r : Except Error Json} {a : α} :
    (r.bind fun v => (WireModel.ofWire v).mapError Error.validation) = .ok a ↔
      ∃ v, r = .ok v ∧ WireModel.ofWire v = .ok a :=
  bind_eq_ok.trans (exists_congr fun _ => and_congr_right fun _ => mapError_eq_ok)

/-- The requests that send a new memo: a second one only right after the server rejected the
token of the first one. -/
structure Posting (c : Client) (m : PreparedMemo) (posts : List Exchange) : Prop where
  isCall : ∀ x ∈ posts, ∃ token, IsCall c (postRequest m) token x
  few : posts.length ≤ 2
  again : ∀ x ∈ posts.dropLast, x.isRejected = true

structure PostTrace (c : Client) (m : PreparedMemo) (posts : List Exchange)
    (r : Except Error Memo) : Prop extends Posting c m posts where
  creates : ∀ memo, r = .ok memo → ∃ x ∈ posts.getLast?, x.Creates memo
  of_creates : ∀ x ∈ posts, ∀ memo, x.Creates memo → r = .ok memo

theorem CallTrace.posts {m : PreparedMemo} {posts : List Exchange} {r : Except Error Json}
    (h : CallTrace c (postRequest m) posts r) :
    PostTrace c m posts (r.bind fun v => (WireModel.ofWire v).mapError .validation) := by
  obtain ⟨hfew, hagain⟩ := h.sentOnce rfl
  refine ⟨⟨h.isCall, hfew, hagain⟩, fun memo hr => ?_, fun x hx memo hmemo => ?_⟩
  · obtain ⟨v, hr, hmemo⟩ := fetch_eq_ok.mp hr
    obtain ⟨x, hx, hv⟩ := h.delivers v hr
    exact ⟨x, hx, v, hv, hmemo⟩
  · obtain ⟨v, hv, hmemo⟩ := hmemo
    exact fetch_eq_ok.mpr ⟨v, h.of_delivers x hx v hv, hmemo⟩

theorem postMemo_trace {m : PreparedMemo} {s t : ClientState} {r : Except Error Memo}
    (h : (c.postMemo m).runFrom s = (r, t)) :
    ∃ posts, PostTrace c m posts r ∧ Called s posts t := by
  have hrun : (c.postMemo m).runFrom s = _ := fetch_runFrom c (postRequest m) s
  cases hrun.symm.trans h
  obtain ⟨posts, htrace, hcalled⟩ := call_trace c (postRequest m) s
  exact ⟨posts, htrace.posts, hcalled⟩

/-- At most one of the requests that send a memo has another outcome than a rejection. -/
theorem Posting.atMostOne {m : PreparedMemo} {posts : List Exchange} (h : Posting c m posts) :
    posts.countP (fun x => !x.isRejected) ≤ 1 := by
  rcases List.eq_nil_or_concat posts with rfl | ⟨front, last, rfl⟩
  · exact Nat.zero_le 1
  · have hagain := h.again
    rw [List.concat_eq_append, List.dropLast_concat] at hagain
    have hfront : front.countP (fun x => !x.isRejected) = 0 :=
      List.countP_eq_zero.mpr fun x hx => by simp [hagain x hx]
    rw [List.concat_eq_append, List.countP_append, hfront, Nat.zero_add]
    exact List.countP_le_length

theorem linkAttachments_runFrom (c : Client) (memo : MemoName) (attachments : List AttachmentName)
    (s : ClientState) :
    (c.linkAttachments memo attachments).runFrom s =
      (((c.call (linkRequest memo attachments)).runFrom s).1.map fun _ => (),
        ((c.call (linkRequest memo attachments)).runFrom s).2) := by
  have hrun : c.linkAttachments memo attachments =
      (c.call (linkRequest memo attachments) >>= fun _ => pure ()) := rfl
  rw [hrun, runFrom_bind]
  rcases (c.call (linkRequest memo attachments)).runFrom s with ⟨_ | _, _⟩ <;> rfl

theorem linkAttachments_trace {memo : MemoName} {attachments : List AttachmentName}
    {s t : ClientState} {r : Except Error Unit}
    (h : (c.linkAttachments memo attachments).runFrom s = (r, t)) :
    ∃ links, (∀ x ∈ links, ∃ token, IsCall c (linkRequest memo attachments) token x) ∧
      (r = .ok () → ∃ x ∈ links.getLast?, ∃ v, x.Delivers "set_memo_attachments" v) ∧
      Called s links t := by
  rw [linkAttachments_runFrom] at h
  obtain ⟨links, htrace, hcalled⟩ := call_trace c (linkRequest memo attachments) s
  rcases hcall : (c.call (linkRequest memo attachments)).runFrom s with ⟨e | v, u⟩ <;>
    rw [hcall] at h htrace hcalled <;> cases h
  · exact ⟨links, htrace.isCall, nofun, hcalled⟩
  · refine ⟨links, htrace.isCall, fun _ => ?_, hcalled⟩
    obtain ⟨x, hx, hv⟩ := htrace.delivers v rfl
    exact ⟨x, hx, v, hv⟩

theorem getMemo_runFrom (c : Client) (memo : MemoName) (s : ClientState) :
    (c.getMemo memo.text).runFrom s = (c.fetch (readRequest memo) : Action Memo).runFrom s := by
  rw [getMemo, checked, ResourceName.parse_text]
  rfl

theorem getMemo_trace (c : Client) (memo : MemoName) (s : ClientState) :
    ∃ reads, (∀ x ∈ reads, ∃ token, IsCall c (readRequest memo) token x) ∧
      Called s reads ((c.getMemo memo.text).runFrom s).2 := by
  obtain ⟨reads, htrace, hcalled⟩ := call_trace c (readRequest memo) s
  rw [getMemo_runFrom, fetch_runFrom]
  exact ⟨reads, htrace.isCall, hcalled⟩

-- ---------------------------------------------------------------------------
-- The whole creation
-- ---------------------------------------------------------------------------

/-- What the creation of a memo sends: requests that send the memo, then such that link its
attachments, then such that read it, each kind only where the one before it came to a good
end. -/
inductive CreationTrace (c : Client) (m : NewMemo) (readBack : Bool) :
    List Exchange → List Exchange → List Exchange → Prop
  | refused {fault} : m.prepare = .error fault → CreationTrace c m readBack [] [] []
  | posted {prepared posts} : m.prepare = .ok prepared → Posting c prepared posts →
    CreationTrace c m readBack posts [] []
  | linked {prepared posts memo links} : m.prepare = .ok prepared → Posting c prepared posts →
    (∃ x ∈ posts.getLast?, x.Creates memo) → prepared.attachments ≠ [] →
    (∀ x ∈ links, ∃ token, IsCall c (linkRequest memo.name prepared.attachments) token x) →
    CreationTrace c m readBack posts links []
  | read {prepared posts memo links reads} : m.prepare = .ok prepared →
    Posting c prepared posts → (∃ x ∈ posts.getLast?, x.Creates memo) →
    prepared.attachments ≠ [] →
    (∀ x ∈ links, ∃ token, IsCall c (linkRequest memo.name prepared.attachments) token x) →
    (∃ x ∈ links.getLast?, ∃ v, x.Delivers "set_memo_attachments" v) → readBack = true →
    (∀ x ∈ reads, ∃ token, IsCall c (readRequest memo.name) token x) →
    CreationTrace c m readBack posts links reads

theorem CreationTrace.atMostOne {m : NewMemo} {readBack : Bool}
    {posts links reads : List Exchange} (h : CreationTrace c m readBack posts links reads) :
    posts.countP (fun x => !x.isRejected) ≤ 1 := by
  cases h with
  | refused => exact Nat.zero_le 1
  | posted _ hposts => exact hposts.atMostOne
  | linked _ hposts => exact hposts.atMostOne
  | read _ hposts => exact hposts.atMostOne

theorem createMemo_run (c : Client) (m : NewMemo) (s : ClientState) :
    (c.createMemo m).runFrom s = match m.prepare with
      | .error fault => (.error (.validation fault), s)
      | .ok prepared => match (c.postMemo prepared).runFrom s with
        | (.error e, t) => (.error e, t)
        | (.ok created, t) =>
          if prepared.attachments.isEmpty then (.ok created, t)
          else match (c.linkAttachments created.name prepared.attachments).runFrom t with
            | (.error e, u) => (.error e, u)
            | (.ok (), u) => (c.getMemo created.name.text).runFrom u := by
  unfold createMemo
  rw [runFrom_bind, checked, Action.runFrom_ofExcept]
  cases m.prepare with
  | error => rfl
  | ok prepared =>
    simp only [mapError_ok]
    rw [runFrom_bind]
    rcases (c.postMemo prepared).runFrom s with ⟨e | created, t⟩
    · rfl
    · simp only
      split
      · rfl
      · rw [runFrom_bind]
        rcases runFrom _ t with ⟨_ | _, _⟩ <;> rfl

/-- The ways in which a memo is created, or is not: what comes of it by itself, and what comes
of it as one memo of a batch. Only the former reads the memo again. -/
inductive CreationRun (c : Client) (m : NewMemo) (s : ClientState) :
    Except Error Memo × ClientState → BatchOutcome × ClientState → Prop
  | refused {fault} : m.prepare = .error fault →
    CreationRun c m s (.error (.validation fault), s) (.failed (.validation fault), s)
  | notPosted {prepared e t} : m.prepare = .ok prepared →
    (c.postMemo prepared).runFrom s = (.error e, t) →
    CreationRun c m s (.error e, t) (.failed e, t)
  | bare {prepared created t} : m.prepare = .ok prepared →
    (c.postMemo prepared).runFrom s = (.ok created, t) → prepared.attachments = [] →
    CreationRun c m s (.ok created, t) (.created created.name, t)
  | notLinked {prepared created t e u} : m.prepare = .ok prepared →
    (c.postMemo prepared).runFrom s = (.ok created, t) → prepared.attachments ≠ [] →
    (c.linkAttachments created.name prepared.attachments).runFrom t = (.error e, u) →
    CreationRun c m s (.error e, u) (.createdWithError created.name e, u)
  | linked {prepared created t u} : m.prepare = .ok prepared →
    (c.postMemo prepared).runFrom s = (.ok created, t) → prepared.attachments ≠ [] →
    (c.linkAttachments created.name prepared.attachments).runFrom t = (.ok (), u) →
    CreationRun c m s ((c.getMemo created.name.text).runFrom u) (.created created.name, u)

theorem creationRun (c : Client) (m : NewMemo) (s : ClientState) :
    CreationRun c m s ((c.createMemo m).runFrom s) ((c.createItem m).run s) := by
  rw [createMemo_run, createItem_run]
  cases hprepare : m.prepare with
  | error => exact .refused hprepare
  | ok prepared =>
    simp only
    rcases hpost : (c.postMemo prepared).runFrom s with ⟨e | created, t⟩
    · exact .notPosted hprepare hpost
    · simp only
      split
      · rename_i hnone
        exact .bare hprepare hpost (List.isEmpty_iff.mp hnone)
      · rename_i hsome
        have hsome : prepared.attachments ≠ [] := by simpa using hsome
        rcases hlink : (c.linkAttachments created.name prepared.attachments).runFrom t with
          ⟨e | ⟨⟩, u⟩
        · exact .notLinked hprepare hpost hsome hlink
        · exact .linked hprepare hpost hsome hlink

theorem CreationRun.trace {m : NewMemo} {s : ClientState} {alone : Except Error Memo × ClientState}
    {inBatch : BatchOutcome × ClientState} (h : CreationRun c m s alone inBatch) :
    (∃ posts links reads, CreationTrace c m true posts links reads ∧
        Called s (posts ++ links ++ reads) alone.2) ∧
      ∃ posts links, CreationTrace c m false posts links [] ∧
        Called s (posts ++ links) inBatch.2 := by
  cases h with
  | refused hprepare =>
    exact ⟨⟨[], [], [], .refused hprepare, called_nil rfl⟩,
      [], [], .refused hprepare, called_nil rfl⟩
  | notPosted hprepare h | bare hprepare h =>
    obtain ⟨posts, hposts, hposted⟩ := postMemo_trace h
    rw [← List.append_nil posts] at hposted
    exact ⟨⟨posts, [], [], .posted hprepare hposts.toPosting, by rwa [List.append_nil]⟩,
      posts, [], .posted hprepare hposts.toPosting, hposted⟩
  | notLinked hprepare h hsome h' =>
    obtain ⟨posts, hposts, hposted⟩ := postMemo_trace h
    obtain ⟨links, hlinks, -, hlinked⟩ := linkAttachments_trace h'
    have hcreates := hposts.creates _ rfl
    have hcalled := hposted.trans hlinked
    exact ⟨⟨posts, links, [], .linked hprepare hposts.toPosting hcreates hsome hlinks,
      by rwa [List.append_nil]⟩,
      posts, links, .linked hprepare hposts.toPosting hcreates hsome hlinks, hcalled⟩
  | linked hprepare h hsome h' =>
    obtain ⟨posts, hposts, hposted⟩ := postMemo_trace h
    obtain ⟨links, hlinks, hdone, hlinked⟩ := linkAttachments_trace h'
    obtain ⟨reads, hreads, hread⟩ := getMemo_trace c _ _
    have hcreates := hposts.creates _ rfl
    have hcalled := hposted.trans hlinked
    exact ⟨⟨posts, links, reads, .read hprepare hposts.toPosting hcreates hsome hlinks (hdone rfl)
      rfl hreads, hcalled.trans hread⟩,
      posts, links, .linked hprepare hposts.toPosting hcreates hsome hlinks, hcalled⟩

/-- What a memo of a batch sends in its turns, whatever other memos do in between. -/
theorem ItemRun.IsRun.creation {run : ItemRun} (h : run.IsRun c) :
    ∃ posts links, CreationTrace c run.memo false posts links [] ∧
      calledIn run.turns = posts ++ links := by
  obtain ⟨check, rest, hturns, hafter, hparts⟩ := h.parts
  have hchecked : calledIn (check :: rest) = calledIn rest :=
    calledIn_cons (called_nil (by rw [hafter])) rest
  rw [hturns, hchecked]
  rcases hparts with ⟨fault, hprepare, rfl, -⟩ |
    ⟨prepared, posting, others, result, hprepare, rfl, hcall, hend⟩
  · exact ⟨[], [], .refused hprepare, rfl⟩
  · have hposts := hcall.trace.posts
    rw [calledIn_append]
    rcases hend.of_created with ⟨rfl, -⟩ | ⟨memo, r, hmemo, hsome, hlink, -⟩
    · exact ⟨_, [], .posted hprepare hposts.toPosting, rfl⟩
    · exact ⟨_, _, .linked hprepare hposts.toPosting (hposts.creates memo hmemo) hsome
        hlink.trace.isCall, rfl⟩

/-- A memo is sent at most once but for rejected tokens, and its attachments are linked, all
of them and in their order, only to the memo that the server made of it. The same is true of each
memo of a batch, with others in flight or not. -/
theorem creation_trace (c : Client) (m : NewMemo) (s : ClientState) :
    (∃ posts links reads, CreationTrace c m true posts links reads ∧
        Called s (posts ++ links ++ reads) ((c.createMemo m).runFrom s).2 ∧
        posts.countP (fun x => !x.isRejected) ≤ 1) ∧
      (∃ posts links, CreationTrace c m false posts links [] ∧
        Called s (posts ++ links) ((c.createItem m).run s).2 ∧
        posts.countP (fun x => !x.isRejected) ≤ 1) ∧
      (∀ memos, ∃ runs, ItemRuns c s runs ((c.createMemosBatch memos).run s).2 ∧
        (runs.map fun r => (r.index, r.memo)).Perm (memos.mapIdx fun i m => (i, m)) ∧
        ∀ r ∈ runs, ∃ posts links, CreationTrace c r.memo false posts links [] ∧
          calledIn r.turns = posts ++ links ∧ posts.countP (fun x => !x.isRejected) ≤ 1) ∧
      ∀ prepared, m.prepare = .ok prepared →
        m.attachments.map ResourceName.parseMessage = prepared.attachments.map .ok := by
  obtain ⟨⟨posts, links, reads, halone, hcalled⟩, posts', links', hinBatch, hcalled'⟩ :=
    (creationRun c m s).trace
  refine ⟨⟨posts, links, reads, halone, hcalled, halone.atMostOne⟩,
    ⟨posts', links', hinBatch, hcalled', hinBatch.atMostOne⟩, fun memos => ?_,
    fun prepared => NewMemo.prepare_attachments⟩
  obtain ⟨runs, hruns, -, hperm⟩ := createMemosBatch_runs c memos s
  refine ⟨runs, hruns, hperm, fun r hr => ?_⟩
  obtain ⟨posts, links, htrace, hsent⟩ := (hruns.isRun r hr).creation
  exact ⟨posts, links, htrace, hsent, htrace.atMostOne⟩

end Client

end RemoteNotes
