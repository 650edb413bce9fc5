import RemoteNotes.Memo.Update
import RemoteNotes.Proofs.LocationReports
import RemoteNotes.Proofs.WireFields

/-!
# Requests part by part

A request is judged part by part. Each part has one field that it is reported under and at most
one fault, and the faults of the parts are reported in the order of the parts
(`RequestPart.reports`). What is sent for a request is an object that has each of its fields once
(`Json.ofFields_isObjectOf`).
-/

namespace RemoteNotes

-- ---------------------------------------------------------------------------
-- Objects that are made of fields
-- ---------------------------------------------------------------------------

namespace Json

/-- An object with these fields and no others, in an order of its own. -/
def IsObjectOf (v : Json) (fields : Fields) : Prop := ∃ made, v = .object made ∧ made.Perm fields

theorem insertField_perm {key : String} {v : Json} {fields : Fields}
    (h : key ∉ fields.map (·.1)) : (insertField key v fields).Perm ((key, v) :: fields) := by
  induction fields with
  | nil => exact .refl _
  | cons field rest ih =>
    obtain ⟨k, w⟩ := field
    rw [List.map_cons, List.mem_cons, not_or] at h
    rw [insertField, if_neg h.1]
    split
    · exact .refl _
    · exact ((ih h.2).cons (k, w)).trans (.swap ..)

theorem foldl_insertField_perm {fields acc : Fields}
    (h : ((acc ++ fields).map (·.1)).Nodup) :
    (fields.foldl (fun acc (k, v) => insertField k v acc) acc).Perm (acc ++ fields) := by
  induction fields generalizing acc with
  | nil => simp
  | cons field rest ih =>
    obtain ⟨k, v⟩ := field
    have hmiddle : (acc ++ (k, v) :: rest).Perm ((k, v) :: acc ++ rest) := List.perm_middle
    have hnodup := (hmiddle.map (·.1)).nodup_iff.mp h
    have hfresh : k ∉ acc.map (·.1) := fun hk =>
      (List.nodup_cons.mp hnodup).1 (by simp [hk])
    have hinsert := insertField_perm (v := v) hfresh
    have hnext : ((insertField k v acc ++ rest).map (·.1)).Nodup :=
      ((hinsert.append_right rest).map (·.1)).nodup_iff.mpr hnodup
    exact (ih hnext).trans ((hinsert.append_right rest).trans hmiddle.symm)

theorem ofFields_isObjectOf {fields : Fields} (h : (fields.map (·.1)).Nodup) :
    (ofFields fields).IsObjectOf fields :=
  ⟨_, rfl, foldl_insertField_perm h⟩

theorem get?_ofFields (key : String) (fields : Fields) :
    (ofFields fields).get? key = lookup key fields.reverse := by
  rw [ofFields, get?, lookup_foldl_insertField, lookup_nil, Option.or_none]

end Json

-- ---------------------------------------------------------------------------
-- Parts of requests
-- ---------------------------------------------------------------------------

variable {α β : Type}

/-- What a rule says against something that it refuses. -/
def refusal? : Except String α → Option String
  | .ok _ => none
  | .error message => some message

theorem refusal?_eq_none {r : Except String α} : refusal? r = none ↔ ∃ a, r = .ok a := by
  cases r <;> simp [refusal?]

theorem refusal?_map (f : α → β) (r : Except String α) : refusal? (r.map f) = refusal? r := by
  cases r <;> rfl

/-- Something in a request that is judged on its own. -/
structure RequestPart where
  /-- What it is reported under. -/
  field : String
  fault? : Option String

namespace RequestPart

def violation? (p : RequestPart) : Option Violation := p.fault?.map (Violation.mk p.field)

/-- One violation for each part that has a fault, in the order of the parts. -/
def reports (parts : List RequestPart) : List Violation := parts.filterMap violation?

def ofRule (field : String) (r : Except String α) : RequestPart := ⟨field, refusal? r⟩

/-- A part that has to meet a condition. -/
def ofCondition (field message : String) (p : Prop) [Decidable p] : RequestPart :=
  ⟨field, if p then none else some message⟩

/-- The items of a list, each under its place. -/
def numbered (field : String) (rule : α → Except String β) (xs : List α) : List RequestPart :=
  xs.mapIdx fun i x => ofRule (Wire.itemLabel field i) (rule x)

theorem reports_append (parts more : List RequestPart) :
    reports (parts ++ more) = reports parts ++ reports more := List.filterMap_append

theorem reports_eq_nil_iff {parts : List RequestPart} :
    reports parts = [] ↔ ∀ p ∈ parts, p.fault? = none := by
  simp [reports, violation?]

theorem reports_ofRule (field : String) (r : Except String α) :
    reports [ofRule field r] = (Checked.ofExcept field r).violations := by
  cases r <;> rfl

theorem reports_ofCondition (field message : String) (p : Prop) [Decidable p] :
    reports [ofCondition field message p] = if p then [] else [⟨field, message⟩] := by
  unfold ofCondition
  split <;> rfl

theorem fault?_ofCondition {field message : String} {p : Prop} [Decidable p] :
    (ofCondition field message p).fault? = none ↔ p := by
  simp [ofCondition]

theorem reports_eq_flatten (parts : List RequestPart) :
    reports parts = (parts.map fun p => reports [p]).flatten := by
  induction parts with
  | nil => rfl
  | cons p parts ih =>
    rw [List.map_cons, List.flatten_cons, ← ih, ← reports_append, List.singleton_append]

theorem reports_numbered (field : String) (rule : α → Except String β) (xs : List α) :
    reports (numbered field rule xs) = (xs.mapIdx fun i x =>
      (Checked.ofExcept (Wire.itemLabel field i) (rule x)).violations).flatten := by
  rw [reports_eq_flatten]
  exact congrArg _ (List.ext_getElem (by simp [numbered]) (by simp [numbered, reports_ofRule]))

theorem forall_numbered {field : String} {rule : α → Except String β} {xs : List α} :
    (∀ p ∈ numbered field rule xs, p.fault? = none) ↔ ∀ x ∈ xs, ∃ y, rule x = .ok y := by
  simp only [numbered, List.mem_mapIdx, ← refusal?_eq_none]
  constructor
  · intro h x hx
    obtain ⟨i, hi, rfl⟩ := List.getElem_of_mem hx
    exact h _ ⟨i, hi, rfl⟩
  · rintro h _ ⟨i, hi, rfl⟩
    exact h _ (List.getElem_mem hi)

end RequestPart

-- ---------------------------------------------------------------------------
-- Parts that new memos and updates share
-- ---------------------------------------------------------------------------

open Number (Double)
open RequestPart (reports)

/-- A text of which something is left when it is trimmed. -/
def HasNonBlank (s : String) : Prop := ∃ c ∈ s.toList, Text.isBlank c = false

instance (s : String) : Decidable (HasNonBlank s) :=
  List.decidableBEx (fun c => Text.isBlank c = false) s.toList

namespace Location

/-- A number of degrees up to a bound, to either side. No number is none. -/
def IsWithin (bound : Nat) (x : Double) : Prop :=
  x.isFinite = true ∧ x.ratio.1 ≤ bound * x.ratio.2

instance (bound : Nat) (x : Double) : Decidable (IsWithin bound x) :=
  inferInstanceAs (Decidable (_ ∧ _))

def IsOnEarth (l : Location) : Prop := IsWithin 90 l.latitude ∧ IsWithin 180 l.longitude

def parts (l : Location) : List RequestPart := [
  .ofCondition "location.latitude" "latitude must be between -90 and 90"
    (IsWithin 90 l.latitude),
  .ofCondition "location.longitude" "longitude must be between -180 and 180"
    (IsWithin 180 l.longitude)]

theorem reports_parts (l : Location) : reports l.parts = l.violations := by
  have hlatitude := @withinDegrees_iff 90 (by simp) l.latitude
  have hlongitude := @withinDegrees_iff 180 (by simp) l.longitude
  rw [parts, ← List.singleton_append, RequestPart.reports_append, RequestPart.reports_ofCondition,
    RequestPart.reports_ofCondition, violations]
  simp only [IsWithin, ← hlatitude, ← hlongitude]

theorem forall_parts {l : Location} : (∀ p ∈ l.parts, p.fault? = none) ↔ l.IsOnEarth := by
  simp [parts, RequestPart.fault?_ofCondition, IsOnEarth]

end Location

namespace RequestPart

def contentPart (content : String) : RequestPart :=
  ofCondition "content" "must not be empty" (HasNonBlank content)

def tagParts (raw : List String) : List RequestPart := numbered "tags" Tag.validate raw

def locationParts : Option Location → List RequestPart
  | none => []
  | some l => l.parts

theorem reports_contentPart (content : String) :
    reports [contentPart content] = NewMemo.contentViolations content := by
  have hnonBlank : HasNonBlank content ↔ ¬Text.isBlankText content = true := by
    simp [HasNonBlank, Text.isBlankText]
  rw [contentPart, reports_ofCondition, NewMemo.contentViolations]
  simp only [hnonBlank, ite_not]

theorem reports_tagParts (raw : List String) : reports (tagParts raw) = Tag.violations raw :=
  reports_numbered ..

theorem reports_locationParts (l? : Option Location) :
    reports (locationParts l?) = NewMemo.locationViolations l? := by
  cases l? with
  | none => rfl
  | some l => exact l.reports_parts

theorem forall_locationParts {l? : Option Location} :
    (∀ p ∈ locationParts l?, p.fault? = none) ↔ ∀ l ∈ l?, l.IsOnEarth := by
  cases l? with
  | none => simp [locationParts]
  | some l => simpa [locationParts] using l.forall_parts

end RequestPart

-- ---------------------------------------------------------------------------
-- Prepared requests
-- ---------------------------------------------------------------------------

namespace NewMemo

theorem checkMemoId_eq_ok {raw? : Option String} {id : Option MemoName} :
    checkMemoId raw? = .ok id ↔ raw?.map ResourceName.parseMessage = id.map .ok := by
  cases raw? with
  | none => cases id <;> simp [checkMemoId]
  | some raw =>
    simp only [checkMemoId, Checked.map_eq_ok, Checked.ofExcept_eq_ok]
    cases id <;> simp

/-- What is prepared has a body that goes by the memo and its id, and the attachments that the
memo was given, in their order. -/
theorem prepare_eq_ok {m : NewMemo} {prepared : PreparedMemo} :
    m.prepare = .ok prepared ↔
      (contentViolations m.content ++ Tag.violations m.tags = [] ∧
        locationViolations m.location = []) ∧
      m.attachments.map ResourceName.parseMessage = prepared.attachments.map .ok ∧
      ∃ id, m.memoId.map ResourceName.parseMessage = id.map .ok ∧ prepared.body = m.body id := by
  simp only [prepare, Checked.toExcept_eq_ok, check, checkAttachments, Checked.and_eq_ok,
    Checked.and'_eq_ok, Checked.withViolations_eq_ok, Checked.all_mapIdx_eq_ok, checkMemoId_eq_ok]
  constructor
  · rintro ⟨_, id, ⟨⟨_, names, ⟨hparts, rfl⟩, hnames, rfl⟩, hlocation, -⟩, hid, rfl⟩
    exact ⟨⟨hparts, hlocation⟩, hnames, id, hid, rfl⟩
  · rintro ⟨⟨hparts, hlocation⟩, hnames, id, hid, hbody⟩
    refine ⟨_, id, ⟨⟨_, _, ⟨hparts, rfl⟩, hnames, rfl⟩, hlocation, trivial⟩, hid, ?_⟩
    rw [← hbody]

end NewMemo

theorem MemoUpdate.prepare_eq_ok {u : MemoUpdate} {name : MemoName} {body : Json} :
    u.prepare name = .ok body ↔ u.violations = [] ∧ u.body name = body := by
  rw [prepare, Checked.toExcept_eq_ok, Checked.withViolations_eq_ok]

end RemoteNotes
