import RemoteNotes.Attachment
import RemoteNotes.Memo
import RemoteNotes.User

/-!
# Reports field by field

What is wrong with a message is what is wrong with its fields, one field after another
(`reports_fieldwise`). Each field has a rule that judges the value of that field and sees
nothing else of the message, so that no field hides the faults of another one.
-/

namespace RemoteNotes

open Json (Fields)

-- ---------------------------------------------------------------------------
-- Checks in sequence
-- ---------------------------------------------------------------------------

namespace Checked

variable {α β : Type}

@[simp] theorem violations_fmap (f : α → β) (a : Checked α) :
    (f <$> a).violations = a.violations := violations_map f a

@[simp] theorem violations_seq (f : Checked (α → β)) (a : Checked α) :
    (f <*> a).violations = f.violations ++ a.violations := violations_and f a

theorem andThen_andThen {γ : Type} (a : Checked α) (f : α → Checked β) (g : β → Checked γ) :
    (a.andThen f).andThen g = a.andThen fun x => (f x).andThen g := by
  cases a <;> rfl

theorem map_andThen {γ : Type} (a : Checked α) (f : α → β) (g : β → Checked γ) :
    (a.map f).andThen g = a.andThen fun x => g (f x) := by
  cases a <;> rfl

theorem violations_relabel (f : String → String) (a : Checked α) :
    (a.relabel f).violations = a.violations.map fun v => { v with field := f v.field } := by
  cases a <;> rfl

theorem toExcept_eq_error {subject : String} {a : Checked α} {e : ValidationError} :
    a.toExcept subject = .error e ↔ e = ⟨subject, a.violations⟩ ∧ a.violations ≠ [] := by
  cases a <;> simp [toExcept, violations, eq_comm]

end Checked

namespace Wire

variable {α : Type}

-- ---------------------------------------------------------------------------
-- Rules of fields
-- ---------------------------------------------------------------------------

/-- What is wrong with a field, going by its value. A field that is absent or null has none. -/
structure FieldRule where
  key : Key
  faults : Option Json → List Violation

namespace FieldRule

def report (r : FieldRule) (o : Fields) : List Violation := r.faults (find? r.key o)

theorem report_congr (r : FieldRule) {o o' : Fields}
    (hname : Json.lookup r.key.name o = Json.lookup r.key.name o')
    (halternative : Json.lookup r.key.alternative o = Json.lookup r.key.alternative o') :
    r.report o = r.report o' := by
  simp only [report, find?, hname, halternative]

def mistyped (k : Key) (expected : String) (found : Json) : List Violation :=
  [⟨k.name, "expected " ++ expected ++ ", found " ++ found.write⟩]

def verdict (k : Key) (parse : String → Except String α) (s : String) : List Violation :=
  match parse s with
  | .ok _ => []
  | .error message => [⟨k.name, message⟩]

/-- A text, and what is wrong where there is none. -/
def ofText (k : Key) (absent : List Violation) (judge : String → List Violation) : FieldRule where
  key := k
  faults
    | none => absent
    | some (.text s) => judge s
    | some other => mistyped k "a string" other

def text (k : Key) : FieldRule := ofText k [] fun _ => []

def required (k : Key) (parse : String → Except String α) : FieldRule :=
  ofText k [⟨k.name, "is required"⟩] (verdict k parse)

/-- An empty text is as good as none. -/
def optional (k : Key) (parse : String → Except String α) : FieldRule :=
  ofText k [] fun s => if s = "" then [] else verdict k parse s

def bool (k : Key) : FieldRule where
  key := k
  faults
    | none | some (.bool _) => []
    | some other => mistyped k "a boolean" other

/-- A whole number, written as a number or as a text with its digits. -/
def int64 (k : Key) (judge : Int → List Violation) : FieldRule where
  key := k
  faults
    | none => judge 0
    | some (.num n) =>
      match n.int64? with
      | some i => judge i
      | none => mistyped k "an integer" (.num n)
    | some (.text raw) =>
      match Number.readInt Number.maxInt64 (Text.trimmed raw) with
      | .ok i => judge i
      | .error _ => [⟨k.name, s!"expected an integer, found '{raw}'"⟩]
    | some other => mistyped k "an integer" other

def items (k : Key) (judge : Nat → Json → List Violation) : FieldRule where
  key := k
  faults
    | none => []
    | some (.array vs) => (vs.mapIdx judge).flatten
    | some other => mistyped k "an array" other

def object (k : Key) (judge : Fields → List Violation) : FieldRule where
  key := k
  faults
    | none => []
    | some (.object fields) => judge fields
    | some other => mistyped k "an object" other

section

variable (k : Key) (parse : String → Except String α)

@[simp] theorem required_key : (required k parse).key = k := rfl

@[simp] theorem optional_key : (optional k parse).key = k := rfl

@[simp] theorem text_key : (text k).key = k := rfl

@[simp] theorem bool_key : (bool k).key = k := rfl

@[simp] theorem ofText_key (absent : List Violation) (judge : String → List Violation) :
    (ofText k absent judge).key = k := rfl

@[simp] theorem int64_key (judge : Int → List Violation) :
    (int64 k judge).key = k := rfl

@[simp] theorem items_key (judge : Nat → Json → List Violation) :
    (items k judge).key = k := rfl

@[simp] theorem object_key (judge : Fields → List Violation) :
    (object k judge).key = k := rfl

end

end FieldRule

/-- What the rules of a message report of it, in their order. -/
def report (rules : List FieldRule) (o : Fields) : List Violation := rules.flatMap (·.report o)

-- ---------------------------------------------------------------------------
-- The fields that rules speak of
-- ---------------------------------------------------------------------------

/-- Faults of a field, or of something inside it. -/
def About (k : Key) (faults : List Violation) : Prop :=
  ∀ fault ∈ faults, Text.startsWith k.name fault.field = true

theorem startsWith_append (lead rest : String) : Text.startsWith lead (lead ++ rest) = true := by
  simp [Text.startsWith]

theorem startsWith_self (s : String) : Text.startsWith s s = true := by
  simp [Text.startsWith]

theorem about_nil (k : Key) : About k [] := List.forall_mem_nil _

theorem about_single (k : Key) (message : String) : About k [⟨k.name, message⟩] :=
  List.forall_mem_singleton.mpr (startsWith_self k.name)

theorem about_item (k : Key) (i : Nat) (message : String) :
    About k [⟨itemLabel k.name i, message⟩] := by
  simp only [About, List.mem_singleton, forall_eq, itemLabel, String.append_assoc]
  exact startsWith_append ..

theorem about_within_item (k : Key) (i : Nat) (inner message : String) :
    About k [⟨itemLabel k.name i ++ inner, message⟩] := by
  simp only [About, List.mem_singleton, forall_eq, itemLabel, String.append_assoc]
  exact startsWith_append ..

namespace FieldRule

variable {k : Key}

theorem about_verdict (k : Key) (parse : String → Except String α) (s : String) :
    About k (verdict k parse s) := by
  unfold verdict
  split
  · exact about_nil k
  · exact about_single k _

/-- A rule speaks of no field but its own. -/
def SpeaksOfItself (r : FieldRule) : Prop := ∀ v?, About r.key (r.faults v?)

theorem ofText_speaks {absent : List Violation} {judge : String → List Violation}
    (habsent : About k absent) (hjudge : ∀ s, About k (judge s)) :
    (ofText k absent judge).SpeaksOfItself
  | none => habsent
  | some (.text s) => hjudge s
  | some .null | some (.bool _) | some (.num _) | some (.array _) | some (.object _) =>
    about_single k _

@[simp] theorem text_speaks (k : Key) : (text k).SpeaksOfItself :=
  ofText_speaks (about_nil k) fun _ => about_nil k

@[simp] theorem required_speaks (k : Key) (parse : String → Except String α) :
    (required k parse).SpeaksOfItself :=
  ofText_speaks (about_single k _) (about_verdict k parse)

@[simp] theorem optional_speaks (k : Key) (parse : String → Except String α) :
    (optional k parse).SpeaksOfItself := by
  refine ofText_speaks (about_nil k) fun s => ?_
  split
  · exact about_nil k
  · exact about_verdict k parse s

@[simp] theorem bool_speaks (k : Key) : (bool k).SpeaksOfItself
  | none | some (.bool _) => about_nil k
  | some .null | some (.num _) | some (.text _) | some (.array _) | some (.object _) =>
    about_single k _

theorem int64_speaks {judge : Int → List Violation} (hjudge : ∀ i, About k (judge i)) :
    (int64 k judge).SpeaksOfItself := by
  intro v?
  simp only [int64]
  split
  · exact hjudge 0
  · split
    · exact hjudge _
    · exact about_single k _
  · split
    · exact hjudge _
    · exact about_single k _
  · exact about_single k _

theorem items_speaks {judge : Nat → Json → List Violation}
    (hjudge : ∀ i v, About k (judge i v)) : (items k judge).SpeaksOfItself
  | none => about_nil k
  | some (.array vs) => by
    intro fault hfault
    obtain ⟨faults, hfaults, hfault⟩ := List.mem_flatten.mp hfault
    obtain ⟨i, hi, rfl⟩ := List.mem_mapIdx.mp hfaults
    exact hjudge i vs[i] fault hfault
  | some .null | some (.bool _) | some (.num _) | some (.text _) | some (.object _) =>
    about_single k _

theorem object_speaks {judge : Fields → List Violation} (hjudge : ∀ o, About k (judge o)) :
    (object k judge).SpeaksOfItself
  | none => about_nil k
  | some (.object fields) => hjudge fields
  | some .null | some (.bool _) | some (.num _) | some (.text _) | some (.array _) =>
    about_single k _

end FieldRule

-- ---------------------------------------------------------------------------
-- Readers and their rules
-- ---------------------------------------------------------------------------

variable {k : Key} {o : Fields}

theorem violations_ofExcept (k : Key) (parse : String → Except String α) (s : String) :
    (Checked.ofExcept k.name (parse s)).violations = FieldRule.verdict k parse s := by
  unfold FieldRule.verdict
  cases parse s <;> rfl

theorem violations_text? : (text? k o).violations = (FieldRule.text k).report o := by
  unfold text? FieldRule.report FieldRule.text FieldRule.ofText
  cases find? k o with
  | none => rfl
  | some v => cases v <;> rfl

/-- A text that was read is judged further. One that could not be read is not. -/
theorem violations_text?_andThen {judge : Option String → Checked α} {absent : List Violation}
    {judgeText : String → List Violation} (hnone : (judge none).violations = absent)
    (hsome : ∀ s, (judge (some s)).violations = judgeText s) :
    ((text? k o).andThen judge).violations = (FieldRule.ofText k absent judgeText).report o := by
  unfold text? FieldRule.report FieldRule.ofText
  cases find? k o with
  | none => exact hnone
  | some v =>
    cases v with
    | text s => exact hsome s
    | _ => rfl

theorem violations_textOrEmpty : (textOrEmpty k o).violations = (FieldRule.text k).report o := by
  rw [textOrEmpty, Checked.violations_map, violations_text?]

theorem violations_nonEmptyText? :
    (nonEmptyText? k o).violations = (FieldRule.text k).report o := by
  rw [nonEmptyText?, Checked.violations_map, violations_text?]

theorem violations_required (parse : String → Except String α) :
    (required k parse o).violations = (FieldRule.required k parse).report o := by
  rw [required, requiredText, Checked.andThen_andThen]
  exact violations_text?_andThen rfl fun s => violations_ofExcept k parse s

theorem violations_optional (parse : String → Except String α) :
    (optional k parse o).violations = (FieldRule.optional k parse).report o := by
  rw [optional, nonEmptyText?, Checked.map_andThen]
  refine violations_text?_andThen rfl fun s => ?_
  by_cases hs : s = ""
  · subst hs
    rfl
  · simp [hs, Option.filter, violations_ofExcept]

theorem violations_boolOrFalse : (boolOrFalse k o).violations = (FieldRule.bool k).report o := by
  unfold boolOrFalse FieldRule.report FieldRule.bool
  cases find? k o with
  | none => rfl
  | some v => cases v <;> rfl

theorem violations_int64OrZero_andThen {judge : Int → Checked α} {judgeInt : Int → List Violation}
    (hjudge : ∀ i, (judge i).violations = judgeInt i) :
    ((int64OrZero k o).andThen judge).violations = (FieldRule.int64 k judgeInt).report o := by
  unfold int64OrZero FieldRule.report FieldRule.int64
  cases find? k o with
  | none => exact hjudge 0
  | some v =>
    cases v with
    | num n =>
      simp only
      cases n.int64? with
      | none => rfl
      | some i => exact hjudge i
    | text raw =>
      simp only
      cases Number.readInt Number.maxInt64 (Text.trimmed raw) with
      | ok i => exact hjudge i
      | error _ => rfl
    | _ => rfl

theorem violations_items (check : Nat → Json → Checked α) :
    (items k check o).violations =
      (FieldRule.items k fun i v => (check i v).violations).report o := by
  unfold items array FieldRule.report FieldRule.items
  cases find? k o with
  | none => rfl
  | some v =>
    cases v with
    | array vs => exact Checked.violations_all_mapIdx check vs
    | _ => rfl

theorem violations_object?_andThen {judge : Option Fields → Checked α}
    {judgeFields : Fields → List Violation} (hnone : (judge none).violations = [])
    (hsome : ∀ fields, (judge (some fields)).violations = judgeFields fields) :
    ((object? k o).andThen judge).violations = (FieldRule.object k judgeFields).report o := by
  unfold object? FieldRule.report FieldRule.object
  cases find? k o with
  | none => exact hnone
  | some v =>
    cases v with
    | object fields => exact hsome fields
    | _ => rfl

end Wire

-- ---------------------------------------------------------------------------
-- The rules of each kind of object
-- ---------------------------------------------------------------------------

open Wire (FieldRule)

namespace Memo

def rules : List FieldRule := [
  .required (.plain "name") (@ResourceName.parseStrict .memo),
  .required (.plain "state") MemoState.parse,
  .required (.plain "creator") (@ResourceName.parseStrict .user),
  .required ⟨"createTime", "create_time"⟩ Wire.parseInstant,
  .required ⟨"updateTime", "update_time"⟩ Wire.parseInstant,
  .optional ⟨"displayTime", "display_time"⟩ Wire.parseInstant,
  .text (.plain "content"),
  .text (.plain "snippet"),
  .required (.plain "visibility") Visibility.parse,
  .bool (.plain "pinned"),
  .optional (.plain "parent") (@ResourceName.parseStrict .memo),
  .items (.plain "tags") fun i v => (checkTag i v).violations,
  .items (.plain "attachments") fun i v => (checkAttachment i v).violations,
  .object (.plain "location") fun o => (Location.ofFields o).violations]

theorem violations_checkLocation (o : Fields) :
    (checkLocation o).violations = (FieldRule.object (.plain "location") fun o =>
      (Location.ofFields o).violations).report o :=
  Wire.violations_object?_andThen rfl fun _ => Checked.violations_map ..

theorem violations_ofFields (o : Fields) : (ofFields o).violations = Wire.report rules o := by
  simp only [ofFields, Checked.violations_seq, Checked.violations_fmap, Wire.instant,
    Wire.instant?, Wire.violations_required, Wire.violations_optional,
    Wire.violations_textOrEmpty, Wire.violations_boolOrFalse, Wire.violations_items,
    violations_checkLocation, Wire.report, rules, List.flatMap_cons, List.flatMap_nil,
    List.append_nil, List.append_assoc]

theorem about_checkTag (i : Nat) (v : Json) :
    Wire.About (.plain "tags") (checkTag i v).violations := by
  unfold checkTag
  split
  · next raw =>
    cases Tag.validate raw with
    | ok => exact Wire.about_nil _
    | error message => exact Wire.about_item (.plain "tags") i message
  · exact Wire.about_item (.plain "tags") i _

theorem about_checkAttachment (i : Nat) (v : Json) :
    Wire.About (.plain "attachments") (checkAttachment i v).violations := by
  unfold checkAttachment
  split
  · next raw _ =>
    cases (ResourceName.parseStrict raw : Except String AttachmentName) with
    | ok => exact Wire.about_nil _
    | error message => exact Wire.about_within_item (.plain "attachments") i ".name" message
  · exact Wire.about_item (.plain "attachments") i _

theorem about_location (o : Fields) :
    Wire.About (.plain "location") (Location.ofFields o).violations := by
  unfold Location.ofFields
  rw [Checked.violations_relabel]
  refine List.forall_mem_map.mpr fun fault _ => ?_
  simp only [Location.nestedField, Wire.Key.plain]
  split
  · assumption
  · simp [Text.startsWith]

theorem rules_speak : ∀ r ∈ rules, r.SpeaksOfItself := by
  simp [rules, FieldRule.items_speaks about_checkTag,
    FieldRule.items_speaks about_checkAttachment, FieldRule.object_speaks about_location]

end Memo

namespace Attachment

def sizeFaults (n : Int) : List Violation :=
  if n < 0 then [⟨"size", "size must be non-negative, found " ++ Number.intText n⟩] else []

def rules : List FieldRule := [
  .required (.plain "name") (@ResourceName.parseStrict .attachment),
  .required ⟨"createTime", "create_time"⟩ Wire.parseInstant,
  .required (.plain "filename") parseFilename,
  .required (.plain "type") parseMimeType,
  .int64 (.plain "size") sizeFaults,
  .text ⟨"externalLink", "external_link"⟩,
  .optional (.plain "memo") (@ResourceName.parseStrict .memo)]

theorem violations_checkSize (o : Fields) :
    (checkSize o).violations = (FieldRule.int64 (.plain "size") sizeFaults).report o := by
  refine Wire.violations_int64OrZero_andThen fun n => ?_
  unfold sizeFaults
  split <;> rfl

theorem violations_ofFields (o : Fields) : (ofFields o).violations = Wire.report rules o := by
  simp only [ofFields, Checked.violations_seq, Checked.violations_fmap, Wire.instant,
    Wire.violations_required, Wire.violations_optional, Wire.violations_nonEmptyText?,
    violations_checkSize, Wire.report, rules, List.flatMap_cons, List.flatMap_nil,
    List.append_nil, List.append_assoc]

theorem rules_speak : ∀ r ∈ rules, r.SpeaksOfItself := by
  have hsize (n : Int) : Wire.About (.plain "size") (sizeFaults n) := by
    unfold sizeFaults
    split
    · exact Wire.about_single (.plain "size") _
    · exact Wire.about_nil _
  simp [rules, FieldRule.int64_speaks hsize]

end Attachment

namespace User

/-- A missing address is an empty one. -/
def rules : List FieldRule := [
  .required (.plain "name") (@ResourceName.parseStrict .user),
  .required (.plain "username") parseUsername,
  .ofText (.plain "email") [] (FieldRule.verdict (.plain "email") parseEmail),
  .text (.plain "nickname"),
  .text ⟨"avatarUrl", "avatar_url"⟩,
  .text (.plain "description"),
  .required (.plain "role") Role.parse,
  .required ⟨"createTime", "create_time"⟩ Wire.parseInstant,
  .required ⟨"updateTime", "update_time"⟩ Wire.parseInstant]

theorem violations_email (o : Fields) :
    ((Wire.textOrEmpty (.plain "email") o).andThen fun raw =>
        .ofExcept "email" (parseEmail raw)).violations =
      (FieldRule.ofText (.plain "email") []
        (FieldRule.verdict (.plain "email") parseEmail)).report o := by
  rw [Wire.textOrEmpty, Checked.map_andThen]
  exact Wire.violations_text?_andThen (by decide) fun s =>
    Wire.violations_ofExcept (.plain "email") parseEmail s

theorem violations_ofFields (o : Fields) : (ofFields o).violations = Wire.report rules o := by
  simp only [ofFields, Checked.violations_seq, Checked.violations_fmap, Wire.instant,
    Wire.violations_required, Wire.violations_textOrEmpty, violations_email, Wire.report, rules,
    List.flatMap_cons, List.flatMap_nil, List.append_nil, List.append_assoc]

theorem rules_speak : ∀ r ∈ rules, r.SpeaksOfItself := by
  have hemail : (FieldRule.ofText (.plain "email") []
      (FieldRule.verdict (.plain "email") parseEmail)).SpeaksOfItself :=
    FieldRule.ofText_speaks (Wire.about_nil _) (FieldRule.about_verdict _ parseEmail)
  simp [rules, hemail]

end User

-- ---------------------------------------------------------------------------
-- Whole objects
-- ---------------------------------------------------------------------------

/-- Reading an object reports what the rules of its fields report, in the order of the rules. -/
structure ReportsBy (α : Type) [WireModel α] (rules : List FieldRule) : Prop where
  /-- No field has two rules. -/
  distinct : (rules.map (·.key.name)).Nodup
  ok_iff : ∀ o, (∃ a : α, WireModel.ofWire (.object o) = .ok a) ↔ Wire.report rules o = []
  error_iff : ∀ o e, (WireModel.ofWire (.object o) : Except ValidationError α) = .error e ↔
    e = ⟨WireModel.kind α, Wire.report rules o⟩ ∧ Wire.report rules o ≠ []
  /-- No fault is hidden by another one. -/
  reported : ∀ o, ∀ r ∈ rules, ∀ fault ∈ r.report o,
    ∃ e, (WireModel.ofWire (.object o) : Except ValidationError α) = .error e ∧
      fault ∈ e.violations
  /-- What the other fields hold makes no difference. -/
  local_values : ∀ r ∈ rules, ∀ o o' : Fields,
    Json.lookup r.key.name o = Json.lookup r.key.name o' →
    Json.lookup r.key.alternative o = Json.lookup r.key.alternative o' → r.report o = r.report o'
  local_names : ∀ r ∈ rules, r.SpeaksOfItself

theorem ReportsBy.of_violations {α : Type} [WireModel α] {rules : List FieldRule}
    (distinct : (rules.map (·.key.name)).Nodup) (speak : ∀ r ∈ rules, r.SpeaksOfItself)
    (h : ∀ o, (WireModel.ofFields o : Checked α).violations = Wire.report rules o) :
    ReportsBy α rules := by
  have herror (o : Fields) (e : ValidationError) :
      (WireModel.ofWire (.object o) : Except ValidationError α) = .error e ↔
        e = ⟨WireModel.kind α, Wire.report rules o⟩ ∧ Wire.report rules o ≠ [] := by
    rw [← h]
    exact Checked.toExcept_eq_error
  refine ⟨distinct, fun o => ?_, herror, fun o r hr fault hfault => ?_, fun r _ o o' => ?_, speak⟩
  · rw [← h, Checked.violations_eq_nil_iff]
    exact exists_congr fun a => Checked.toExcept_eq_ok
  · have hmem : fault ∈ Wire.report rules o := List.mem_flatMap.mpr ⟨r, hr, hfault⟩
    exact ⟨_, (herror o _).mpr ⟨rfl, List.ne_nil_of_mem hmem⟩, hmem⟩
  · exact r.report_congr

/-- Memos, attachments and users are judged field by field. What is reported of an object is
what is reported of its fields, in a fixed order, and an object without faults is read. -/
theorem reports_fieldwise :
    ReportsBy Memo Memo.rules ∧ ReportsBy Attachment Attachment.rules ∧
      ReportsBy User User.rules :=
  ⟨.of_violations (by decide) Memo.rules_speak Memo.violations_ofFields,
    .of_violations (by decide) Attachment.rules_speak Attachment.violations_ofFields,
    .of_violations (by decide) User.rules_speak User.violations_ofFields⟩

end RemoteNotes
