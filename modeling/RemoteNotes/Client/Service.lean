import RemoteNotes.Batch
import RemoteNotes.Client.Download
import RemoteNotes.Client.Stage
import RemoteNotes.Memo.Update
import RemoteNotes.Search.Filter
import RemoteNotes.User

/-!
# Operations of the service

Each operation checks what it is given before anything is sent, and reads the reply as the
object that it has to be.
-/

namespace RemoteNotes.Client

def checked {α : Type} (r : Except ValidationError α) : Action α :=
  .ofExcept (r.mapError .validation)

/-- A request about a resource, which gives the address. -/
def about {kind : ResourceKind} (method : Method) (operation : String)
    (name : ResourceName kind) (tail : String := "") : ApiRequest :=
  { ApiRequest.make method operation (name.text ++ tail) with resource := some name.text }

def fetch {α : Type} [WireModel α] (c : Client) (request : ApiRequest) : Action α := do
  checked (WireModel.ofWire (← c.call request))

/-- The path behind the name of a memo where its attachments are. -/
def attachmentsTail : String := "/attachments"

/-! ### Memos -/

def searchMemos (c : Client) (filter : SearchFilter) : Action MemoPage := do
  let query ← checked filter.toQuery
  checked (MemoPage.ofWire (← c.call { ApiRequest.make .get "search_memos" "memos" with query }))

def getMemo (c : Client) (raw : String) : Action Memo := do
  let name : MemoName ← checked (ResourceName.parse raw)
  c.fetch (about .get "get_memo" name)

def postRequest (m : PreparedMemo) : ApiRequest :=
  { ApiRequest.make .post "create_memo" "memos" with body := .json m.body }

def postMemo (c : Client) (m : PreparedMemo) : Action Memo := c.fetch (postRequest m)

/-- The complete list of the attachments of a memo. -/
def linkBody (memo : MemoName) (attachments : List AttachmentName) : Json :=
  Json.ofFields [
    ("name", .text memo.text),
    ("attachments", .array (attachments.map fun a => Json.ofFields [("name", .text a.text)]))]

/-- Replaces the attachments of a memo. Doing so twice does no harm. -/
def linkRequest (memo : MemoName) (attachments : List AttachmentName) : ApiRequest :=
  { about .patch "set_memo_attachments" memo attachmentsTail with
    body := .json (linkBody memo attachments)
    retry := .always }

def linkAttachments (c : Client) (memo : MemoName) (attachments : List AttachmentName) :
    Action Unit := do
  let _ ← c.call (linkRequest memo attachments)

/-- Creates a memo. Attachments are linked once it exists, and then it is read again. -/
def createMemo (c : Client) (m : NewMemo) : Action Memo := do
  let prepared ← checked m.prepare
  let created ← c.postMemo prepared
  if prepared.attachments.isEmpty then return created
  c.linkAttachments created.name prepared.attachments
  c.getMemo created.name.text

def updateMemo (c : Client) (raw : String) (u : MemoUpdate) : Action Memo := do
  let name : MemoName ← checked (ResourceName.parse raw)
  let body ← checked (u.prepare name)
  c.fetch { about .patch "update_memo" name with body := .json body }

def deleteMemo (c : Client) (raw : String) : Action Unit := do
  let name : MemoName ← checked (ResourceName.parse raw)
  let _ ← c.call (about .delete "delete_memo" name)

def setMemoAttachments (c : Client) (raw : String) (attachments : List String) : Action Unit := do
  let name : MemoName ← checked (ResourceName.parse raw)
  let attachments : List AttachmentName ← checked (attachments.mapM ResourceName.parse)
  c.linkAttachments name attachments

def listMemoAttachments (c : Client) (raw : String) : Action (List Attachment) := do
  let name : MemoName ← checked (ResourceName.parse raw)
  let reply ← c.call (about .get "list_memo_attachments" name attachmentsTail)
  checked (WireModel.ofWireList "attachments" reply)

/-! ### Batches -/

/-- Creates one memo of a batch while nothing else goes on. It is not read again. -/
def createItem (c : Client) (m : NewMemo) : StateM ClientState BatchOutcome := do
  match m.prepare with
  | .error fault => return .failed fault
  | .ok prepared =>
    match ← (c.postMemo prepared).run with
    | .error e => return .failed e
    | .ok created =>
      if prepared.attachments.isEmpty then return .created created.name
      match ← (c.linkAttachments created.name prepared.attachments).run with
      | .ok () => return .created created.name
      | .error e => return .createdWithError created.name e

/-- The next step of a memo of a batch. -/
def advanceItem (c : Client) : ItemStage → StateM ClientState ItemStage
  | .fresh m => return .afterCheck m.prepare
  | .posting m call => return .afterPost m (← c.advance (postRequest m) call)
  | .linking memo attachments call =>
    return .afterLink memo attachments (← c.advance (linkRequest memo attachments) call)
  | .ended outcome => return .ended outcome

theorem advanceItem_stepsLeft (c : Client) (stage : ItemStage) (s : ClientState)
    (h : stage.isEnded = false) :
    ((c.advanceItem stage).run s).1.stepsLeft c.retries < stage.stepsLeft c.retries := by
  cases stage with
  | fresh m => exact ItemStage.stepsLeft_afterCheck m _
  | posting m call => exact ItemStage.stepsLeft_afterPost (c.advance_stepsLeft _ call s)
  | linking memo attachments call =>
    exact ItemStage.stepsLeft_afterLink (c.advance_stepsLeft _ call s)
  | ended outcome => cases h

def maxInFlight : BatchMode → Nat
  | .sequential => 1
  | .concurrent n => max n 1

/-- The memo that has the next step, and its place: one of those in flight. -/
def chosen? (c : Client) (width turn : Nat) (stages : List ItemStage) :
    Option (Nat × ItemStage) := do
  let places := ItemStage.inFlight width stages
  let place ← places[c.world.schedule turn % places.length]?
  let stage ← stages[place]?
  return (place, stage)

theorem chosen?_eq_some {c : Client} {width turn place : Nat} {stages : List ItemStage}
    {stage : ItemStage} (h : c.chosen? width turn stages = some (place, stage)) :
    place ∈ ItemStage.inFlight width stages ∧ stages[place]? = some stage ∧
      stage.isEnded = false := by
  simp only [chosen?, Option.bind_eq_bind, Option.pure_def, Option.bind_eq_some_iff] at h
  obtain ⟨_, hplace, _, hstage, ⟨⟩⟩ := h
  have hmem := List.mem_of_getElem? hplace
  obtain ⟨-, _, hstage', hopen⟩ := ItemStage.mem_inFlight.mp hmem
  exact ⟨hmem, hstage, Option.some.inj (hstage'.symm.trans hstage) ▸ hopen⟩

/-- Gives the memos of a batch their steps, in turns that the world chooses, until all of them
have come to their ends. -/
def fly (c : Client) (width turn : Nat) (stages : List ItemStage) (s : ClientState) :
    List ItemStage × ClientState :=
  match _h : c.chosen? width turn stages with
  | none => (stages, s)
  | some (place, stage) =>
    let next := (c.advanceItem stage).run s
    c.fly width (turn + 1) (stages.set place next.1) next.2
termination_by ItemStage.allStepsLeft c.retries stages
decreasing_by
  obtain ⟨-, hstage, hopen⟩ := chosen?_eq_some _h
  exact ItemStage.allStepsLeft_set hstage (c.advanceItem_stepsLeft stage s hopen)

/-- Creates every memo of a batch, the failure of one leaving the others alone. -/
def createMemosBatch (c : Client) (memos : List NewMemo) : StateM ClientState BatchReport :=
  fun s =>
    let width := maxInFlight c.config.policy.batchMode
    let (stages, t) := c.fly width 0 (memos.map .fresh) s
    (.ofItems (ItemStage.items stages), t)

/-! ### Attachments -/

/-- An upload of a file as the client finds it. -/
def uploadOfPath (c : Client) (path : String) : Except ValidationError AttachmentUpload :=
  AttachmentUpload.ofPath path c.world.mediaTypes

def uploadOfOctets (c : Client) (filename : String) (content : Text.Utf8.Octets) :
    AttachmentUpload :=
  .ofOctets filename content c.world.mediaTypes

def uploadAttachment (c : Client) (u : AttachmentUpload) : Action Attachment := do
  checked u.validate
  c.fetch { ApiRequest.make .post AttachmentUpload.operation "attachments" with
    body := .upload u
    resource := some u.filename }

def getAttachment (c : Client) (raw : String) : Action Attachment := do
  let name : AttachmentName ← checked (ResourceName.parse raw)
  c.fetch (about .get "get_attachment" name)

def listAttachments (c : Client) : Action (List Attachment) := do
  let reply ← c.call (ApiRequest.make .get "list_attachments" "attachments")
  checked (WireModel.ofWireList "attachments" reply)

def deleteAttachment (c : Client) (raw : String) : Action Unit := do
  let name : AttachmentName ← checked (ResourceName.parse raw)
  let _ ← c.call (about .delete "delete_attachment" name)

/-! ### Users -/

def getUser (c : Client) (raw : String) : Action User := do
  let name : UserName ← checked (ResourceName.parse raw)
  c.fetch (about .get "get_user" name)

/-- The user that the session belongs to, which the reply may wrap. -/
def currentUser (c : Client) : Action User := do
  let reply ← c.call (ApiRequest.make .get "current_user" "auth/sessions/current")
  checked (WireModel.ofWire ((reply.get? "user").getD reply))

end RemoteNotes.Client
