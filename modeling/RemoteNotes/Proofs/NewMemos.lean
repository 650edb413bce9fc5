import RemoteNotes.Proofs.Tagging

/-!
# Prepared memos

A new memo is prepared if it is sound, and otherwise each part that is at fault is reported under
its own name and place. Nothing that the memo was given is lost on the way
(`memo_prepared_iff_sound`).
-/

namespace RemoteNotes

namespace NewMemo

open RequestPart (reports)

-- ---------------------------------------------------------------------------
-- Faults
-- ---------------------------------------------------------------------------

def attachmentParts (raw : List String) : List RequestPart :=
  RequestPart.numbered "attachments" (@ResourceName.parseMessage .attachment) raw

def memoIdParts (raw? : Option String) : List RequestPart :=
  (raw?.map fun raw => .ofRule "memo_id" (@ResourceName.parseMessage .memo raw)).toList

def parts (m : NewMemo) : List RequestPart :=
  [.contentPart m.content] ++ RequestPart.tagParts m.tags ++ attachmentParts m.attachments ++
    RequestPart.locationParts m.location ++ memoIdParts m.memoId

structure IsSound (m : NewMemo) : Prop where
  content : HasNonBlank m.content
  tags : ∀ raw ∈ m.tags, ∃ t, Tag.validate raw = .ok t
  attachments : ∀ raw ∈ m.attachments, ∃ name : AttachmentName,
    ResourceName.parseMessage raw = .ok name
  location : ∀ l ∈ m.location, l.IsOnEarth
  memoId : ∀ raw ∈ m.memoId, ∃ name : MemoName, ResourceName.parseMessage raw = .ok name

theorem reports_memoIdParts (raw? : Option String) :
    reports (memoIdParts raw?) = (checkMemoId raw?).violations := by
  cases raw? with
  | none => rfl
  | some raw =>
    rw [checkMemoId, Checked.violations_map]
    exact RequestPart.reports_ofRule ..

theorem forall_memoIdParts {raw? : Option String} :
    (∀ p ∈ memoIdParts raw?, p.fault? = none) ↔
      ∀ raw ∈ raw?, ∃ name : MemoName, ResourceName.parseMessage raw = .ok name := by
  cases raw? <;> simp [memoIdParts, RequestPart.ofRule, refusal?_eq_none]

theorem violations_check (m : NewMemo) : m.check.violations = reports m.parts := by
  have hattachments : (checkAttachments m.attachments).violations =
      reports (attachmentParts m.attachments) := by
    rw [checkAttachments, Checked.violations_all_mapIdx, attachmentParts,
      RequestPart.reports_numbered]
  simp only [check, Checked.violations_and, Checked.violations_and',
    Checked.violations_withViolations, hattachments, parts, RequestPart.reports_append,
    RequestPart.reports_contentPart, RequestPart.reports_tagParts,
    RequestPart.reports_locationParts, reports_memoIdParts, List.append_assoc]

theorem reports_eq_nil_iff (m : NewMemo) : reports m.parts = [] ↔ m.IsSound := by
  simp only [RequestPart.reports_eq_nil_iff, parts, List.forall_mem_append,
    List.forall_mem_singleton, RequestPart.contentPart, RequestPart.fault?_ofCondition,
    RequestPart.tagParts, attachmentParts, RequestPart.forall_numbered,
    RequestPart.forall_locationParts, forall_memoIdParts]
  constructor
  · rintro ⟨⟨⟨⟨hcontent, htags⟩, hattachments⟩, hlocation⟩, hid⟩
    exact ⟨hcontent, htags, hattachments, hlocation, hid⟩
  · intro h
    exact ⟨⟨⟨⟨h.content, h.tags⟩, h.attachments⟩, h.location⟩, h.memoId⟩

-- ---------------------------------------------------------------------------
-- Prepared memos
-- ---------------------------------------------------------------------------

theorem body_isObjectOf (m : NewMemo) (id : Option MemoName) :
    ∃ memo, (m.body id).IsObjectOf
        (("memo", memo) :: (id.map fun name => ("memoId", .text name.id)).toList) ∧
      memo.IsObjectOf ([("content", .text (Tag.append m.content (Tag.valid m.tags))),
          ("visibility", .text m.visibility.text)] ++
        (m.displayTime.map fun t => ("displayTime", .text t.text)).toList ++
        (m.location.map fun l => ("location", l.toWire)).toList) := by
  refine ⟨_, Json.ofFields_isObjectOf ?_, Json.ofFields_isObjectOf ?_⟩
  · cases id <;> simp
  · cases m.displayTime <;> cases m.location <;> simp

/-- What is sent for a memo, and what is linked to it afterwards. -/
structure Sends (m : NewMemo) (prepared : PreparedMemo) (given : List String) (sent : String)
    (id : Option MemoName) : Prop where
  read : Tag.ReadAs m.tags given
  content : Tag.IsTagged m.content given sent
  attachments : m.attachments.map ResourceName.parseMessage = prepared.attachments.map .ok
  memoId : m.memoId.map ResourceName.parseMessage = id.map .ok
  fields : ∃ memo, prepared.body.IsObjectOf
      (("memo", memo) :: (id.map fun name => ("memoId", .text name.id)).toList) ∧
    memo.IsObjectOf ([("content", .text sent), ("visibility", .text m.visibility.text)] ++
      (m.displayTime.map fun t => ("displayTime", .text t.text)).toList ++
      (m.location.map fun l => ("location", l.toWire)).toList)

theorem sends_of_prepare {m : NewMemo} {prepared : PreparedMemo}
    (h : m.prepare = .ok prepared) : ∃ given sent id, m.Sends prepared given sent id := by
  obtain ⟨⟨hparts, -⟩, hattachments, id, hid, hbody⟩ := prepare_eq_ok.mp h
  obtain ⟨given, hgiven⟩ := Tag.exists_readAs.mpr
    (Tag.violations_eq_nil_iff.mp (List.append_eq_nil_iff.mp hparts).2)
  exact ⟨given, _, id, hgiven, hgiven.isTagged m.content, hattachments, hid,
    hbody ▸ m.body_isObjectOf id⟩

/-- A memo is prepared if it is sound. Otherwise nothing is sent, and each part that is at fault
is reported in its turn. -/
theorem memo_prepared_iff_sound (m : NewMemo) :
    ((∃ prepared, m.prepare = .ok prepared) ↔ m.IsSound) ∧
      (∀ prepared, m.prepare = .ok prepared →
        ∃ given sent id, m.Sends prepared given sent id) ∧
      ∀ e, m.prepare = .error e ↔ ¬m.IsSound ∧ e = ⟨subject, reports m.parts⟩ := by
  refine ⟨?_, fun _ => sends_of_prepare, fun e => ?_⟩
  · simp only [prepare, Checked.toExcept_eq_ok, ← Checked.violations_eq_nil_iff, violations_check,
      reports_eq_nil_iff]
  · rw [prepare, Checked.toExcept_eq_error, violations_check, Ne, reports_eq_nil_iff, and_comm]

example : reports (parts { content := " ", tags := ["work", "a b"], memoId := some "" }) =
    [⟨"content", "must not be empty"⟩,
      ⟨"tags[1]", "tag 'a b' must not contain whitespace or '#'"⟩,
      ⟨"memo_id", "id must not be empty"⟩] := by decide

end NewMemo

end RemoteNotes
