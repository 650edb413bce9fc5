import RemoteNotes.Proofs.Tagging

/-!
# Prepared updates

An update is prepared if it is sound, and otherwise all of its faults are reported at once. What
is sent for it has a value for each path of the mask and a path for each value
(`update_prepared_iff_sound`).
-/

namespace RemoteNotes

theorem filterMap_cons_toList {α β : Type} (f : α → Option β) (x : α) (xs : List α) :
    (x :: xs).filterMap f = (f x).toList ++ xs.filterMap f := by
  cases h : f x <;> simp [h]

namespace MemoUpdate

open RequestPart (reports)

-- ---------------------------------------------------------------------------
-- Fields that are set
-- ---------------------------------------------------------------------------

/-- The fields of a memo that an update can set, in the order of the mask. -/
inductive Setting
  | content
  | visibility
  | state
  | pinned
  | location
  | displayTime
  deriving DecidableEq

namespace Setting

def all : List Setting := [.content, .visibility, .state, .pinned, .location, .displayTime]

/-- The name in the mask. -/
def path : Setting → String
  | .content => "content"
  | .visibility => "visibility"
  | .state => "state"
  | .pinned => "pinned"
  | .location => "location"
  | .displayTime => "display_time"

/-- The name in the memo. -/
def field : Setting → String
  | .displayTime => "displayTime"
  | s => s.path

end Setting

/-- What a field is set to, given the content that is sent. -/
def value? (u : MemoUpdate) (sent : Option String) : Setting → Option Json
  | .content => sent.map .text
  | .visibility => u.visibility.map fun v => .text v.text
  | .state => u.state.map fun s => .text s.text
  | .pinned => u.pinned.map .bool
  | .location => u.location.map Location.toWire
  | .displayTime => u.displayTime.map fun t => .text t.text

def settings (u : MemoUpdate) (sent : Option String) : List (Setting × Json) :=
  Setting.all.filterMap fun s => (u.value? sent s).map fun v => (s, v)

def sentContent (u : MemoUpdate) : Option String :=
  u.content.map fun c => Tag.append c (Tag.valid u.tags)

theorem changes_eq (u : MemoUpdate) :
    u.changes = (u.settings u.sentContent).map fun s => ⟨s.1.path, s.1.field, s.2⟩ := by
  simp only [changes, settings, Setting.all, filterMap_cons_toList, List.filterMap_nil,
    List.append_nil, List.map_append, ← Option.toList_map, Option.map_map, value?, sentContent,
    List.append_assoc]
  rfl

/-- No field is set twice, and the order is that of the fields. -/
theorem settings_sublist (u : MemoUpdate) (sent : Option String) (fields : List Setting) :
    ((fields.filterMap fun s => (u.value? sent s).map fun v => (s, v)).map (·.1)).Sublist
      fields := by
  induction fields with
  | nil => exact .slnil
  | cons s fields ih =>
    rw [filterMap_cons_toList, List.map_append]
    cases u.value? sent s with
    | none => exact ih.cons s
    | some v => exact ih.cons_cons s

theorem nodup_fields (u : MemoUpdate) (sent : Option String) :
    ("name" :: (u.settings sent).map fun s => s.1.field).Nodup := by
  have hall : ("name" :: Setting.all.map Setting.field).Nodup := by decide
  have hfields := ((u.settings_sublist sent Setting.all).map Setting.field).cons_cons "name"
  rw [List.map_map] at hfields
  exact hall.sublist hfields

/-- The body holds each field that is set, and the mask its path, in one order. -/
theorem body_isObjectOf (u : MemoUpdate) (name : MemoName) :
    ∃ memo mask, (u.body name).IsObjectOf [("memo", memo), ("updateMask", mask)] ∧
      memo.IsObjectOf (("name", .text name.text) ::
        (u.settings u.sentContent).map fun s => (s.1.field, s.2)) ∧
      mask.IsObjectOf [("paths", .array <|
        (u.settings u.sentContent).map fun s => .text s.1.path)] := by
  have hmemo : ((("name", Json.text name.text) ::
      (u.settings u.sentContent).map fun s => (s.1.field, s.2)).map (·.1)).Nodup := by
    rw [List.map_cons, List.map_map]
    exact u.nodup_fields u.sentContent
  refine ⟨_, _, Json.ofFields_isObjectOf (by simp), ?_, ?_⟩
  · rw [changes_eq, List.map_map]
    exact Json.ofFields_isObjectOf hmemo
  · rw [changes_eq, List.map_map]
    exact Json.ofFields_isObjectOf (by simp)

-- ---------------------------------------------------------------------------
-- Faults
-- ---------------------------------------------------------------------------

def changesSomething (u : MemoUpdate) : Bool :=
  u.content.isSome || u.visibility.isSome || u.state.isSome || u.pinned.isSome ||
    u.location.isSome || u.displayTime.isSome

/-- Without a content there is no place for tags. -/
def contentParts (u : MemoUpdate) : List RequestPart :=
  match u.content with
  | some content => [.contentPart content]
  | none => [.ofCondition "tags" "tags are stored in the content, so content must be set"
      (Tag.valid u.tags = [])]

def parts (u : MemoUpdate) : List RequestPart :=
  RequestPart.tagParts u.tags ++ u.contentParts ++ RequestPart.locationParts u.location

def faults (u : MemoUpdate) : List Violation :=
  if reports u.parts = [] ∧ u.changesSomething = false then
    [⟨"update", "at least one field must be set"⟩]
  else reports u.parts

structure IsSound (u : MemoUpdate) : Prop where
  tags : ∀ raw ∈ u.tags, ∃ t, Tag.validate raw = .ok t
  content : ∀ content ∈ u.content, HasNonBlank content
  /-- Tags are given along with a content only. -/
  tagged : u.tags ≠ [] → u.content.isSome = true
  location : ∀ l ∈ u.location, l.IsOnEarth
  changes : u.changesSomething = true

theorem reports_parts (u : MemoUpdate) : reports u.parts = u.fieldViolations := by
  have hcontent : reports u.contentParts = u.contentViolations := by
    unfold contentParts contentViolations
    cases u.content with
    | some content => exact RequestPart.reports_contentPart content
    | none => simp [RequestPart.reports_ofCondition]
  rw [parts, RequestPart.reports_append, RequestPart.reports_append, RequestPart.reports_tagParts,
    hcontent, RequestPart.reports_locationParts, fieldViolations]

theorem changes_eq_nil_iff (u : MemoUpdate) : u.changes = [] ↔ u.changesSomething = false := by
  simp [changes, changesSomething, and_assoc]

theorem violations_eq (u : MemoUpdate) : u.violations = u.faults := by
  simp only [violations, faults, reports_parts, List.isEmpty_iff, changes_eq_nil_iff]

theorem forall_contentParts (u : MemoUpdate) :
    (∀ p ∈ u.contentParts, p.fault? = none) ↔
      (∀ content ∈ u.content, HasNonBlank content) ∧ (u.content = none → Tag.valid u.tags = []) := by
  unfold contentParts
  cases u.content <;> simp [RequestPart.contentPart, RequestPart.fault?_ofCondition]

theorem isSound_iff (u : MemoUpdate) :
    u.IsSound ↔ reports u.parts = [] ∧ u.changesSomething = true := by
  simp only [RequestPart.reports_eq_nil_iff, parts, List.forall_mem_append,
    RequestPart.tagParts, RequestPart.forall_numbered, forall_contentParts,
    RequestPart.forall_locationParts]
  -- a fault is told only if a valid tag has no content, and sound updates have no others
  constructor
  · intro h
    have hnone : u.content = none → u.tags = [] := fun hnone =>
      Decidable.of_not_not fun htags => by simpa [hnone] using h.tagged htags
    exact ⟨⟨⟨h.tags, h.content, fun hcontent => (Tag.valid_eq_nil_iff h.tags).mpr (hnone hcontent)⟩,
      h.location⟩, h.changes⟩
  · rintro ⟨⟨⟨htags, hcontent, hnone⟩, hlocation⟩, hchanges⟩
    refine ⟨htags, hcontent, fun hsome => ?_, hlocation, hchanges⟩
    cases hset : u.content with
    | none => exact absurd ((Tag.valid_eq_nil_iff htags).mp (hnone hset)) hsome
    | some => rfl

theorem faults_eq_nil_iff (u : MemoUpdate) : u.faults = [] ↔ u.IsSound := by
  rw [isSound_iff, faults]
  split
  · next h => exact iff_of_false nofun fun hsound => by simp [h.2] at hsound
  · next h => exact ⟨fun hparts => ⟨hparts, by simpa [hparts] using h⟩, And.left⟩

-- ---------------------------------------------------------------------------
-- Prepared updates
-- ---------------------------------------------------------------------------

/-- What is sent for an update: each field that is set, once in the memo and once in the mask. -/
structure Sends (u : MemoUpdate) (name : MemoName) (body : Json) (given : List String)
    (sent : Option String) : Prop where
  read : Tag.ReadAs u.tags given
  content : Option.Rel (fun content sent => Tag.IsTagged content given sent) u.content sent
  tagged : ∀ t ∈ given, ∃ content ∈ sent, t ∈ (Tag.extract content).toList
  fields : ∃ memo mask, body.IsObjectOf [("memo", memo), ("updateMask", mask)] ∧
    memo.IsObjectOf (("name", .text name.text) ::
      (u.settings sent).map fun s => (s.1.field, s.2)) ∧
    mask.IsObjectOf [("paths", .array ((u.settings sent).map fun s => .text s.1.path))]

theorem IsSound.sends {u : MemoUpdate} (h : u.IsSound) (name : MemoName) :
    ∃ given, u.Sends name (u.body name) given u.sentContent := by
  obtain ⟨given, hgiven⟩ := Tag.exists_readAs.mpr h.tags
  have hcontent : Option.Rel (fun content sent => Tag.IsTagged content given sent) u.content
      u.sentContent := by
    unfold sentContent
    cases u.content with
    | none => exact .none
    | some content => exact .some (hgiven.isTagged content)
  refine ⟨given, hgiven, hcontent, fun t ht => ?_, u.body_isObjectOf name⟩
  obtain ⟨content, hset⟩ := Option.isSome_iff_exists.mp (h.tagged (hgiven.ne_nil ht))
  exact ⟨_, by rw [sentContent, hset]; rfl, (hgiven.isTagged content).mem ht⟩

/-- An update is prepared if it is sound. Otherwise nothing is sent, and each part that is at
fault is reported in its turn. -/
theorem update_prepared_iff_sound (u : MemoUpdate) (name : MemoName) :
    ((∃ body, u.prepare name = .ok body) ↔ u.IsSound) ∧
      (∀ body, u.prepare name = .ok body → ∃ given sent, u.Sends name body given sent) ∧
      ∀ e, u.prepare name = .error e ↔ ¬u.IsSound ∧ e = ⟨subject, u.faults⟩ := by
  have hok (body : Json) : u.prepare name = .ok body ↔ u.IsSound ∧ u.body name = body := by
    rw [prepare_eq_ok, violations_eq, faults_eq_nil_iff]
  refine ⟨by simp [hok], fun body hbody => ?_, fun e => ?_⟩
  · obtain ⟨hsound, rfl⟩ := (hok body).mp hbody
    obtain ⟨given, hsends⟩ := hsound.sends name
    exact ⟨given, _, hsends⟩
  · rw [prepare, Checked.toExcept_eq_error, Checked.violations_withViolations, violations_eq, Ne,
      faults_eq_nil_iff, and_comm]

end MemoUpdate

end RemoteNotes
