import RemoteNotes.Proofs.Calls
import RemoteNotes.Proofs.FieldReports
import RemoteNotes.Proofs.Results
import RemoteNotes.Proofs.WireFields

/-!
# Lists in replies

A list is read element by element: it is read if all of its elements are, and else every faulty
element is reported under its own place (`ofWireList_elementwise`). What was read of a reply is
what the reply tells, as long as it is an object and the token of the next page is a text
(`replies_told_iff`). Every other value passes for an empty list or for the last page.
-/

namespace RemoteNotes

open Json (Fields)

-- ---------------------------------------------------------------------------
-- Elements of a list
-- ---------------------------------------------------------------------------

namespace WireModel

variable {α : Type} [WireModel α]

/-- What is wrong with the element at a place of a list, under the name of that place. -/
def elementFaults (α : Type) [WireModel α] (key : String) (i : Nat) (item : Json) :
    List Violation :=
  match (ofWire item : Except ValidationError α) with
  | .ok _ => []
  | .error fault =>
    fault.violations.map fun v => { v with field := key ++ "[" ++ toString i ++ "]." ++ v.field }

def checkElement (key : String) (i : Nat) (item : Json) : Checked α :=
  (checkWire item).relabel fun field => Wire.itemLabel key i ++ "." ++ field

theorem ofWireList_array {key : String} {fields : Fields} {items : List Json}
    (h : Json.lookup key fields = some (.array items)) :
    (ofWireList key (.object fields) : Except ValidationError (List α)) =
      (Checked.all (items.mapIdx (checkElement key))).toExcept (kind α ++ " list") := by
  simp only [ofWireList, Json.get?, h]
  rfl

theorem checkElement_eq_ok {key : String} {i : Nat} {item : Json} {a : α} :
    checkElement key i item = .ok a ↔ (ofWire item : Except ValidationError α) = .ok a := by
  rw [checkElement, Checked.relabel_eq_ok, ofWire, Checked.toExcept_eq_ok]

theorem violations_checkElement (key : String) (i : Nat) (item : Json) :
    (checkElement key i item : Checked α).violations = elementFaults α key i item := by
  have hlabel (field : String) :
      Wire.itemLabel key i ++ "." ++ field = key ++ "[" ++ toString i ++ "]." ++ field := by
    simp only [Wire.itemLabel, String.append_assoc]
    rfl
  simp only [checkElement, Checked.violations_relabel, hlabel, elementFaults, ofWire]
  cases (checkWire item : Checked α) <;> rfl

theorem violations_elements (key : String) (items : List Json) :
    (Checked.all (items.mapIdx (checkElement key)) : Checked (List α)).violations =
      (items.mapIdx (elementFaults α key)).flatten := by
  simp only [Checked.violations_all_mapIdx, violations_checkElement]

theorem elementFaults_eq_nil {key : String} {i : Nat} {item : Json} :
    elementFaults α key i item = [] ↔ ∃ a : α, ofWire item = .ok a := by
  rw [← violations_checkElement, Checked.violations_eq_nil_iff]
  exact exists_congr fun _ => checkElement_eq_ok

/-- An element that is not read has faults, so that it cannot go unnoticed. -/
theorem faults_eq_nil {key : String} {items : List Json} :
    (items.mapIdx (elementFaults α key)).flatten = [] ↔
      ∀ item ∈ items, ∃ a : α, ofWire item = .ok a := by
  simp only [List.flatten_eq_nil_iff, List.forall_mem_iff_getElem, List.length_mapIdx,
    List.getElem_mapIdx, elementFaults_eq_nil]

theorem exists_ok_or_error (v : Json) :
    (∃ a : α, ofWire v = .ok a) ∨ ∃ fault, (ofWire v : Except ValidationError α) = .error fault := by
  cases (ofWire v : Except ValidationError α) with
  | ok a => exact .inl ⟨a, rfl⟩
  | error fault => exact .inr ⟨fault, rfl⟩

section

variable {key : String} {fields : Fields} {items : List Json}
  (h : Json.lookup key fields = some (.array items))

include h

theorem ofWireList_eq_ok {xs : List α} :
    ofWireList key (.object fields) = .ok xs ↔ items.map ofWire = xs.map .ok := by
  have helement (i : Nat) (item : Json) (a : α) :
      checkElement key i item = .ok a ↔ (ofWire item : Except ValidationError α) = .ok a :=
    checkElement_eq_ok
  rw [ofWireList_array h, Checked.toExcept_eq_ok, Checked.all_eq_ok,
    Checked.mapIdx_eq_map_iff helement]

theorem ofWireList_exists_ok :
    (∃ xs : List α, ofWireList key (.object fields) = .ok xs) ↔
      ∀ item ∈ items, ∃ a : α, ofWire item = .ok a :=
  (exists_congr fun _ => ofWireList_eq_ok h).trans exists_map_eq_ok

theorem ofWireList_eq_error {e : ValidationError} :
    (ofWireList key (.object fields) : Except ValidationError (List α)) = .error e ↔
      e = ⟨kind α ++ " list", (items.mapIdx (elementFaults α key)).flatten⟩ ∧
        ∃ item ∈ items, ∃ fault, (ofWire item : Except ValidationError α) = .error fault := by
  rw [ofWireList_array h, Checked.toExcept_eq_error, violations_elements, Ne, faults_eq_nil]
  simp only [not_forall, exists_prop]
  refine and_congr_right fun _ => exists_congr fun item => and_congr_right fun _ => ?_
  rcases exists_ok_or_error (α := α) item with ⟨a, ha⟩ | ⟨fault, hfault⟩
  · simp [ha]
  · simp [hfault]

end

/-- A list is read just if each of its elements is, and then all of them are there in their
order. Else the error tells the faults of every faulty element, each under its place. -/
theorem ofWireList_elementwise {key : String} {fields : Fields} {items : List Json}
    (h : Json.lookup key fields = some (.array items)) :
    ((∃ xs : List α, ofWireList key (.object fields) = .ok xs) ↔
      ∀ item ∈ items, ∃ a : α, ofWire item = .ok a) ∧
    (∀ xs : List α, ofWireList key (.object fields) = .ok xs ↔
      items.map ofWire = xs.map .ok) ∧
    ∀ e, (ofWireList key (.object fields) : Except ValidationError (List α)) = .error e ↔
      e = ⟨kind α ++ " list", (items.mapIdx (elementFaults α key)).flatten⟩ ∧
        ∃ item ∈ items, ∃ fault, (ofWire item : Except ValidationError α) = .error fault :=
  ⟨ofWireList_exists_ok h, fun _ => ofWireList_eq_ok h, fun _ => ofWireList_eq_error h⟩

/-- The element that can be read makes no difference: the other ones are told, both faults of
the first and the only one of the last. -/
theorem ofWireList_of_faulty :
    let photo (name filename : String) : Json := .object [
      ("createTime", .text "2024-01-01T00:00:00Z"), ("filename", .text filename),
      ("name", .text name), ("type", .text "image/png")]
    let items := [photo "memos/1" " ", photo "attachments/1" "a.png", .text "attachments/2"]
    let fields : Fields := [("attachments", .array items)]
    Json.lookup "attachments" fields = some (.array items) ∧
      (ofWireList "attachments" (.object fields) : Except ValidationError (List Attachment)) =
        .error ⟨"attachment list", [
          ⟨"attachments[0].name", "must start with 'attachments/'"⟩,
          ⟨"attachments[0].filename", "filename must not be empty"⟩,
          ⟨"attachments[2].$", "expected a JSON object"⟩]⟩ := by
  intro photo items fields
  have hfields : Json.lookup "attachments" fields = some (.array items) := rfl
  have hlast : (ofWire (.text "attachments/2") : Except ValidationError Attachment) =
      .error (.single "attachment" "$" "expected a JSON object") := rfl
  refine ⟨hfields, ((ofWireList_elementwise hfields).2.2 _).mpr ⟨?_, _, ?_, _, hlast⟩⟩
  · decide +kernel
  · simp [items]

end WireModel

-- ---------------------------------------------------------------------------
-- What a reply tells
-- ---------------------------------------------------------------------------

def Json.isObject : Json → Bool
  | .object _ => true
  | _ => false

theorem Json.isObject_iff {v : Json} : v.isObject = true ↔ ∃ fields, v = .object fields := by
  cases v <;> simp [isObject]

/-- An object with so many elements in the list under a key. A list that is absent or null has
none. -/
inductive HoldsList (key : String) : Nat → Json → Prop
  | absent {fields} : Json.lookup key fields = none → HoldsList key 0 (.object fields)
  | null {fields} : Json.lookup key fields = some .null → HoldsList key 0 (.object fields)
  | array {fields items} : Json.lookup key fields = some (.array items) →
    HoldsList key items.length (.object fields)

theorem HoldsList.isObject {key : String} {n : Nat} {v : Json} (h : HoldsList key n v) :
    v.isObject = true := by
  cases h <;> rfl

theorem holdsList_iff {α : Type} [WireModel α] {key : String} {v : Json} {xs : List α}
    (h : WireModel.ofWireList key v = .ok xs) : HoldsList key xs.length v ↔ v.isObject = true := by
  refine ⟨HoldsList.isObject, fun hobject => ?_⟩
  obtain ⟨fields, rfl⟩ := Json.isObject_iff.mp hobject
  cases hkey : Json.lookup key fields with
  | none =>
    simp only [WireModel.ofWireList, Json.get?, hkey] at h
    cases h
    exact .absent hkey
  | some list =>
    cases list with
    | null =>
      simp only [WireModel.ofWireList, Json.get?, hkey] at h
      cases h
      exact .null hkey
    | array items =>
      have hitems := (WireModel.ofWireList_eq_ok hkey).mp h
      have hlength : items.length = xs.length := by simpa using congrArg List.length hitems
      rw [← hlength]
      exact .array hkey
    | _ =>
      simp only [WireModel.ofWireList, Json.get?, hkey] at h
      cases h

namespace MemoPage

/-- What a reply holds as the token of the next page, under the first of its names that
occurs. -/
def tokenField? (v : Json) : Option Json := pageTokenKeys.findSome? v.get?

/-- No token, a null and an empty text say that there is no further page. -/
inductive EndsPages : Option Json → Prop
  | absent : EndsPages none
  | null : EndsPages (some .null)
  | empty : EndsPages (some (.text ""))

def HasTextToken (v : Json) : Prop := ∀ field ∈ tokenField? v, field = .null ∨ ∃ s, field = .text s

/-- The reply has as many memos, and it says that there is no further page if the page says
so. -/
structure IsTold (page : MemoPage) (v : Json) : Prop where
  memos : HoldsList "memos" page.memos.length v
  last : page.nextPageToken = none → EndsPages (tokenField? v)

theorem ofWire_eq_ok {v : Json} {page : MemoPage} :
    ofWire v = .ok page ↔
      WireModel.ofWireList "memos" v = .ok page.memos ∧ pageToken? v = page.nextPageToken := by
  rw [ofWire, bind_eq_ok]
  constructor
  · rintro ⟨memos, hmemos, hpage⟩
    cases hpage
    exact ⟨hmemos, rfl⟩
  · rintro ⟨hmemos, htoken⟩
    exact ⟨page.memos, hmemos, by rw [htoken]; rfl⟩

theorem pageToken?_eq_none {v : Json} (h : HasTextToken v) :
    pageToken? v = none ↔ EndsPages (tokenField? v) := by
  change (((tokenField? v).bind Json.asText?).filter (· != "")) = none ↔ _
  cases hfield : tokenField? v with
  | none => exact ⟨fun _ => .absent, fun _ => rfl⟩
  | some field =>
    rcases h field hfield with rfl | ⟨s, rfl⟩
    · exact ⟨fun _ => .null, fun _ => rfl⟩
    · constructor
      · intro hs
        obtain rfl : s = "" := by simpa [Json.asText?] using hs
        exact .empty
      · rintro ⟨⟩
        rfl

/-- A token that is no text passes for no token, so that it is read as the end of the pages. -/
theorem hasTextToken_of_last {v : Json} (h : pageToken? v = none → EndsPages (tokenField? v)) :
    HasTextToken v := by
  intro field hfield
  cases field with
  | text s => exact .inr ⟨s, rfl⟩
  | null => exact .inl rfl
  | _ =>
    have hnone : pageToken? v = none := by
      change (((tokenField? v).bind Json.asText?).filter (· != "")) = none
      rw [hfield]
      rfl
    rw [hfield] at h
    cases h hnone

theorem isTold_iff {v : Json} {page : MemoPage} (h : ofWire v = .ok page) :
    page.IsTold v ↔ v.isObject = true ∧ HasTextToken v := by
  obtain ⟨hmemos, htoken⟩ := ofWire_eq_ok.mp h
  constructor
  · rintro ⟨hlist, hlast⟩
    exact ⟨hlist.isObject, hasTextToken_of_last (htoken ▸ hlast)⟩
  · rintro ⟨hobject, htext⟩
    exact ⟨(holdsList_iff hmemos).mpr hobject, fun hnone =>
      (pageToken?_eq_none htext).mp (htoken.trans hnone)⟩

end MemoPage

/-- The value that a reply brings, if it brings one. -/
def Exchange.value? (operation : String) (x : Exchange) : Option Json := do
  let reply ← x.reply.whole?
  if reply.isSuccess then
    (Client.decodeBody operation (Text.Utf8.toStringLossy reply.body)).toOption
  else none

theorem Exchange.Delivers.value? {operation : String} {x : Exchange} {v : Json}
    (h : x.Delivers operation v) : x.value? operation = some v := by
  obtain ⟨reply, hreply, hsuccess, hbody⟩ := h
  simp [Exchange.value?, hreply, hsuccess, hbody, Except.toOption]

namespace Client

open RemoteNotes.Action (runFrom bind_runFrom)

variable {c : Client} {s t : ClientState}

/-- The last request that was sent for a call brought a value. -/
def Received (operation : String) (v : Json) (s t : ClientState) : Prop :=
  ∃ sent, Called s sent t ∧ ∃ x ∈ sent.getLast?, x.Delivers operation v

theorem Received.all {operation : String} {v : Json} (h : Received operation v s t)
    {judge : Json → Bool}
    (hall : (t.exchanges.all fun x => (x.value? operation).all judge) = true) :
    judge v = true := by
  obtain ⟨_, ⟨sent, ht, rfl⟩, x, hx, hv⟩ := h
  have hsent : x ∈ sent := (List.mem_filter.mp (List.mem_of_mem_getLast? hx)).1
  have hx := List.all_eq_true.mp hall x (ht ▸ List.mem_append_right _ hsent)
  rwa [hv.value?] at hx

theorem checked_eq_ok {α : Type} {r : Except ValidationError α} {a : α} :
    (checked r).runFrom s = (.ok a, t) ↔ r = .ok a ∧ s = t := by
  rw [checked, Action.runFrom_ofExcept, Prod.mk.injEq, mapError_eq_ok]

theorem checked_bind_eq_ok {α β : Type} {r : Except ValidationError α} {f : α → Action β} {b : β}
    (h : (checked r >>= f).runFrom s = (.ok b, t)) :
    ∃ a, r = .ok a ∧ (f a).runFrom s = (.ok b, t) := by
  obtain ⟨a, u, hchecked, h⟩ | ⟨e, -, he⟩ := bind_runFrom.mp h
  · obtain ⟨hr, rfl⟩ := checked_eq_ok.mp hchecked
    exact ⟨a, hr, h⟩
  · cases he

theorem exists_ok_run {α β : Type} {act : Action α} {f : α → β} {b : β}
    (h : (act.runFrom s).1.toOption.map f = some b) :
    ∃ a, act.runFrom s = (.ok a, (act.runFrom s).2) ∧ f a = b := by
  obtain ⟨a, ha, hb⟩ := Option.map_eq_some_iff.mp h
  exact ⟨a, Prod.ext (toOption_eq_some.mp ha) rfl, hb⟩

theorem read_received {α : Type} {request : ApiRequest} {read : Json → Except ValidationError α}
    {a : α} (h : (c.call request >>= fun v => checked (read v)).runFrom s = (.ok a, t)) :
    ∃ v, Received request.operation v s t ∧ read v = .ok a := by
  obtain ⟨v, u, hcall, hchecked⟩ | ⟨e, -, he⟩ := bind_runFrom.mp h
  · obtain ⟨hread, rfl⟩ := checked_eq_ok.mp hchecked
    obtain ⟨sent, htrace, hcalled⟩ := call_trace c request s
    rw [hcall] at htrace hcalled
    exact ⟨v, ⟨sent, hcalled, htrace.delivers v rfl⟩, hread⟩
  · cases he

theorem searchMemos_received {filter : SearchFilter} {page : MemoPage}
    (h : (c.searchMemos filter).runFrom s = (.ok page, t)) :
    ∃ v, Received "search_memos" v s t ∧ MemoPage.ofWire v = .ok page := by
  obtain ⟨query, -, h⟩ := checked_bind_eq_ok h
  exact read_received h

theorem listAttachments_received {attachments : List Attachment}
    (h : c.listAttachments.runFrom s = (.ok attachments, t)) :
    ∃ v, Received "list_attachments" v s t ∧
      WireModel.ofWireList "attachments" v = .ok attachments := read_received h

theorem listMemoAttachments_received {memo : String} {attachments : List Attachment}
    (h : (c.listMemoAttachments memo).runFrom s = (.ok attachments, t)) :
    ∃ v, Received "list_memo_attachments" v s t ∧
      WireModel.ofWireList "attachments" v = .ok attachments := by
  obtain ⟨name, -, h⟩ := checked_bind_eq_ok h
  exact read_received h

/-- What was read of a reply is what the reply tells just if it is an object and, for a page of
memos, its token of the next page is a text, a null or absent. -/
theorem replies_told_iff (c : Client) (s t : ClientState) :
    (∀ filter page, (c.searchMemos filter).runFrom s = (.ok page, t) →
      ∃ v, Received "search_memos" v s t ∧ MemoPage.ofWire v = .ok page ∧
        (page.IsTold v ↔ v.isObject = true ∧ MemoPage.HasTextToken v)) ∧
    (∀ attachments, c.listAttachments.runFrom s = (.ok attachments, t) →
      ∃ v, Received "list_attachments" v s t ∧
        WireModel.ofWireList "attachments" v = .ok attachments ∧
        (HoldsList "attachments" attachments.length v ↔ v.isObject = true)) ∧
    ∀ memo attachments, (c.listMemoAttachments memo).runFrom s = (.ok attachments, t) →
      ∃ v, Received "list_memo_attachments" v s t ∧
        WireModel.ofWireList "attachments" v = .ok attachments ∧
        (HoldsList "attachments" attachments.length v ↔ v.isObject = true) := by
  refine ⟨fun filter page h => ?_, fun attachments h => ?_, fun memo attachments h => ?_⟩
  · obtain ⟨v, hv, hpage⟩ := searchMemos_received h
    exact ⟨v, hv, hpage, MemoPage.isTold_iff hpage⟩
  · obtain ⟨v, hv, hlist⟩ := listAttachments_received h
    exact ⟨v, hv, hlist, holdsList_iff hlist⟩
  · obtain ⟨v, hv, hlist⟩ := listMemoAttachments_received h
    exact ⟨v, hv, hlist, holdsList_iff hlist⟩

/-- A server that answers every request with one value. -/
def replying (v : Json) (_ : List Http.Request) (_ : Http.Request) : Http.Reply :=
  .answered ⟨200, [], Text.Utf8.ofString v.write, .complete⟩

/-- The memos of the reply are null, and the page after this one is known. -/
theorem replies_told_of_null :
    let c := facing (.token "key") (replying (.object [
      ("memos", .null), ("nextPageToken", .text "2")]))
    ∃ page t v, (c.searchMemos {}).runFrom c.start = (.ok page, t) ∧
      page.nextPageToken = some "2" ∧ Received "search_memos" v c.start t ∧ page.IsTold v := by
  intro c
  have hread : ((c.searchMemos {}).runFrom c.start).1.toOption.map (·.nextPageToken) =
      some (some "2") := by decide +kernel
  have harrived : (((c.searchMemos {}).runFrom c.start).2.exchanges.all fun x =>
      (x.value? "search_memos").all fun v => v.isObject &&
        (MemoPage.tokenField? v).all fun field => field.asText?.isSome) = true := by
    decide +kernel
  obtain ⟨page, hrun, htoken⟩ := exists_ok_run hread
  obtain ⟨v, hv, -, htold⟩ := (replies_told_iff c c.start _).1 {} page hrun
  obtain ⟨hobject, hfield⟩ := Bool.and_eq_true_iff.mp (hv.all harrived)
  refine ⟨page, _, v, hrun, htoken, hv, htold.mpr ⟨hobject, fun field hfound => ?_⟩⟩
  rw [hfound] at hfield
  cases field with
  | text s => exact .inr ⟨s, rfl⟩
  | _ => cases hfield

/-- The token is a number, and the page passes for the last one. The attachments do not stand in
an object, and there seem to be none. -/
theorem untold_replies :
    (let c := facing (.token "key") (replying (.object [
        ("memos", .array []), ("nextPageToken", .num (.nat 7))]))
      ∃ page t v, (c.searchMemos {}).runFrom c.start = (.ok page, t) ∧
        Received "search_memos" v c.start t ∧ page.nextPageToken = none ∧
        ¬MemoPage.EndsPages (MemoPage.tokenField? v)) ∧
    let c := facing (.token "key") (replying (.array [
      .object [("name", .text "attachments/1")]]))
    ∃ t v, c.listAttachments.runFrom c.start = (.ok [], t) ∧
      Received "list_attachments" v c.start t ∧ ¬HoldsList "attachments" 0 v := by
  refine ⟨?_, ?_⟩
  · intro c
    have hread : ((c.searchMemos {}).runFrom c.start).1.toOption.map (·.nextPageToken) =
        some none := by decide +kernel
    have harrived : (((c.searchMemos {}).runFrom c.start).2.exchanges.all fun x =>
        (x.value? "search_memos").all fun v => (MemoPage.tokenField? v).any fun field =>
          !field.isNull && field.asText?.isNone) = true := by decide +kernel
    obtain ⟨page, hrun, htoken⟩ := exists_ok_run hread
    obtain ⟨v, hv, -⟩ := searchMemos_received hrun
    have hfield := hv.all harrived
    refine ⟨page, _, v, hrun, hv, htoken, fun hends => ?_⟩
    cases hfound : MemoPage.tokenField? v <;> rw [hfound] at hends hfield <;> cases hends <;>
      cases hfield
  · intro c
    have hread : (c.listAttachments.runFrom c.start).1.toOption.map id = some [] := by
      decide +kernel
    have harrived : ((c.listAttachments.runFrom c.start).2.exchanges.all fun x =>
        (x.value? "list_attachments").all fun v => !v.isObject) = true := by decide +kernel
    obtain ⟨_, hrun, rfl⟩ := exists_ok_run hread
    obtain ⟨v, hv, -⟩ := listAttachments_received hrun
    have hobject := hv.all harrived
    refine ⟨_, v, hrun, hv, fun hholds => ?_⟩
    rw [hholds.isObject] at hobject
    cases hobject

end Client

end RemoteNotes
