import Mathlib.Data.List.Nodup
import RemoteNotes.Proofs.FieldReports
import RemoteNotes.Proofs.Readings
import RemoteNotes.Proofs.Spellings

/-!
# Fields that are null

A field that is null is read as if it were absent. The exception is a null under the wire name of
a field that is given under its other name: the null stands in front of the value, and the field
counts as absent although it is given. That goes unnoticed only where the hidden value makes no
difference to the outcome (`null_read_as_absent_iff`).
-/

namespace RemoteNotes

open Json (Fields)

namespace Checked

variable {α : Type}

theorem toExcept_inj {subject : String} {a b : Checked α} :
    a.toExcept subject = b.toExcept subject ↔ a = b := by
  cases a <;> cases b <;> simp [toExcept]

theorem eq_of_violations {a b : Checked α} (h : a.violations = b.violations)
    (hne : b.violations ≠ []) : a = b := by
  cases b with
  | ok b => exact absurd rfl hne
  | bad first more =>
    cases a with
    | ok a => cases h
    | bad first' more' =>
      cases h
      rfl

end Checked

namespace Wire

-- ---------------------------------------------------------------------------
-- Nulls in an object
-- ---------------------------------------------------------------------------

/-- A null under a name that an object does not have. -/
def withNull (name : String) (o : Fields) : Fields := Json.insertField name .null o

/-- The object without what it holds under a name. -/
def without (name : String) (o : Fields) : Fields := o.filter fun field => field.1 ≠ name

/-- A null under a name hides a value: the name is the wire name of a field, and the value stands
under the other name of that field. -/
structure Hides (name : String) (o : Fields) (k : Key) (v : Json) : Prop where
  name_eq : k.name = name
  given : Json.lookup k.alternative o = some v
  notNull : v.isNull = false

variable {name : String} {o o' : Fields} {k : Key}

theorem find?_withNull (habsent : Json.lookup name o = none) (k : Key) :
    find? k (withNull name o) = if k.name = name then none else find? k o := by
  unfold find? withNull
  rw [Json.lookup_insertField, Json.lookup_insertField]
  by_cases hname : k.name = name
  · simp [hname, Option.filter, Json.isNull]
  · rw [if_neg (Ne.symm hname), if_neg hname]
    by_cases halternative : k.alternative = name
    · rw [if_pos halternative.symm, halternative, habsent]
      cases Json.lookup k.name o <;> simp [Option.filter, Json.isNull]
    · rw [if_neg (Ne.symm halternative)]

theorem find?_withNull_self (habsent : Json.lookup name o = none) (hname : k.name = name) :
    find? k (withNull name o) = none := by
  rw [find?_withNull habsent, if_pos hname]

/-- The null changes the reading of no field but the one whose wire name it stands under. -/
theorem find?_withNull_other (habsent : Json.lookup name o = none) (hname : k.name ≠ name) :
    find? k (withNull name o) = find? k o := by
  rw [find?_withNull habsent, if_neg hname]

theorem hides_iff (habsent : Json.lookup name o = none) (hname : k.name = name) {v : Json} :
    Hides name o k v ↔ find? k o = some v := by
  unfold find?
  rw [hname, habsent, Option.none_or, Option.filter_eq_some_iff]
  constructor
  · rintro ⟨-, hgiven, hnull⟩
    exact ⟨hgiven, by simp [hnull]⟩
  · rintro ⟨hgiven, hnull⟩
    exact ⟨hname, hgiven, by simpa using hnull⟩

theorem find?_without (habsent : Json.lookup k.name o = none) :
    find? k (without k.alternative o) = none := by
  unfold find? without
  rw [Json.lookup_filter_ne, Json.lookup_filter_ne, habsent]
  simp

theorem find?_without_of_apart {l : Key} (hname : l.name ≠ k.alternative)
    (halternative : l.alternative ≠ k.alternative) :
    find? l (without k.alternative o) = find? l o := by
  unfold find? without
  rw [Json.lookup_filter_ne, Json.lookup_filter_ne, if_neg hname, if_neg halternative]

-- ---------------------------------------------------------------------------
-- Values that make no difference
-- ---------------------------------------------------------------------------

variable {α β : Type}

/-- An object tells whether a field was there, unless the field is an empty text. -/
def TellsOf (α : Type) [WireModel α] (k : Key) : Prop :=
  ∀ (o o' : Fields) (a : α) v, WireModel.ofFields o = .ok a → WireModel.ofFields o' = .ok a →
    find? k o = some v → find? k o' = none → v = .text ""

section

variable [WireModel α] {part : α → β}

theorem TellsOf.of_required {parse : String → Except String β}
    (hread : ∀ {o} {a : α}, WireModel.ofFields o = .ok a → required k parse o = .ok (part a)) :
    TellsOf α k := by
  intro o o' a v _ ha' _ hnone
  obtain ⟨s, hfind, -⟩ := required_eq_ok.mp (hread ha')
  rw [hnone] at hfind
  contradiction

theorem eq_empty_of_text? {s? : Option String} {v : Json} (hfind : find? k o = some v)
    (htext : text? k o = .ok s?) (hempty : s?.getD "" = "") : v = .text "" := by
  rw [text?_eq_ok, hfind] at htext
  obtain ⟨s, rfl, hs⟩ := Option.map_eq_some_iff.mp htext.symm
  rw [Option.getD_some] at hempty
  rw [← hs, hempty]

theorem eq_empty_of_nonEmptyText? {v : Json} (hfind : find? k o = some v)
    (hread : nonEmptyText? k o = .ok none) : v = .text "" := by
  obtain ⟨s?, htext, hfilter⟩ := Checked.map_eq_ok.mp hread
  refine eq_empty_of_text? hfind htext ?_
  cases s? with
  | none => rfl
  | some s => simpa [Option.filter] using hfilter

theorem nonEmptyText?_absent (hnone : find? k o = none) : nonEmptyText? k o = .ok none := by
  rw [nonEmptyText?, text?, hnone]
  rfl

theorem TellsOf.of_textOrEmpty {part : α → String}
    (hread : ∀ {o} {a : α}, WireModel.ofFields o = .ok a → textOrEmpty k o = .ok (part a)) :
    TellsOf α k := by
  intro o o' a v ha ha' hfind hnone
  have habsent : textOrEmpty k o' = .ok "" := by
    rw [textOrEmpty, text?, hnone]
    rfl
  rw [hread ha'] at habsent
  obtain ⟨s?, htext, hempty⟩ := Checked.map_eq_ok.mp ((hread ha).trans habsent)
  exact eq_empty_of_text? hfind htext hempty

theorem TellsOf.of_nonEmptyText? {part : α → Option String}
    (hread : ∀ {o} {a : α}, WireModel.ofFields o = .ok a → nonEmptyText? k o = .ok (part a)) :
    TellsOf α k := by
  intro o o' a v ha ha' hfind hnone
  have habsent := nonEmptyText?_absent hnone
  rw [hread ha'] at habsent
  exact eq_empty_of_nonEmptyText? hfind ((hread ha).trans habsent)

theorem TellsOf.of_optional {parse : String → Except String β} {part : α → Option β}
    (hread : ∀ {o} {a : α}, WireModel.ofFields o = .ok a → optional k parse o = .ok (part a)) :
    TellsOf α k := by
  intro o o' a v ha ha' hfind hnone
  have habsent : optional k parse o' = .ok none := by
    rw [optional, nonEmptyText?_absent hnone]
    rfl
  rw [hread ha'] at habsent
  obtain ⟨s?, hs, hparse⟩ := Checked.andThen_eq_ok.mp ((hread ha).trans habsent)
  cases s? with
  | none => exact eq_empty_of_nonEmptyText? hfind hs
  | some s =>
    obtain ⟨_, -, hsome⟩ := Checked.map_eq_ok.mp hparse
    cases hsome

end

-- ---------------------------------------------------------------------------
-- Kinds of objects
-- ---------------------------------------------------------------------------

theorem Hides.alternative_ne {v : Json} (h : Hides name o k v)
    (habsent : Json.lookup name o = none) : k.alternative ≠ k.name := by
  intro hsame
  have hgiven := h.given
  rw [hsame, h.name_eq, habsent] at hgiven
  contradiction

/-- What an object is read from: its fields, and the rules that judge them. -/
structure Described (α : Type) [WireModel α] (fields : List Spelling) (rules : List FieldRule) :
    Prop where
  keys : fields.map (·.key) = rules.map (·.key)
  distinct : (rules.map (·.key.name)).Nodup
  separate : Separate fields
  violations : ∀ o, (WireModel.ofFields o : Checked α).violations = report rules o
  alike : ∀ o o' : Fields, (∀ f ∈ fields, f.shape.Alike (find? f.key o) (find? f.key o')) →
    (WireModel.ofFields o : Checked α) = WireModel.ofFields o'
  /-- A field with two names that takes an empty text for none is read as a text. -/
  text_of_empty : ∀ r ∈ rules, r.key.alternative ≠ r.key.name →
    r.faults (some (.text "")) = r.faults none → ⟨r.key, .text⟩ ∈ fields
  tellsOf : ∀ r ∈ rules, r.key.alternative ≠ r.key.name → TellsOf α r.key

namespace Described

variable [WireModel α] {fields : List Spelling} {rules : List FieldRule}
  (h : Described α fields rules)

include h

theorem congr (hfind : ∀ r ∈ rules, find? r.key o = find? r.key o') :
    (WireModel.ofFields o : Checked α) = WireModel.ofFields o' := by
  refine h.alike o o' fun f hf => ?_
  have hkey : f.key ∈ rules.map (·.key) := h.keys ▸ List.mem_map_of_mem hf
  obtain ⟨r, hr, hrf⟩ := List.mem_map.mp hkey
  rw [← hrf, hfind r hr]
  exact .same

theorem eq_of_name {r r' : FieldRule} (hr : r ∈ rules) (hr' : r' ∈ rules)
    (hname : r.key.name = r'.key.name) : r = r' :=
  List.inj_on_of_nodup_map h.distinct hr hr' hname

/-- The object has the same faults just if the field has whose wire name the null stands under. -/
theorem report_withNull_iff (habsent : Json.lookup name o = none) {r : FieldRule} (hr : r ∈ rules)
    (hname : r.key.name = name) :
    report rules (withNull name o) = report rules o ↔ r.report (withNull name o) = r.report o := by
  have hdistinct := h.distinct
  obtain ⟨before, after, rfl⟩ := List.append_of_mem hr
  rw [List.map_append, List.map_cons, List.nodup_middle, List.nodup_cons, List.mem_append,
    not_or] at hdistinct
  obtain ⟨⟨hbefore, hafter⟩, -⟩ := hdistinct
  have hsame (part : List FieldRule) (hpart : r.key.name ∉ part.map (·.key.name)) :
      part.flatMap (·.report (withNull name o)) = part.flatMap (·.report o) := by
    refine List.flatMap_congr fun r' hr' => ?_
    have hne : r'.key.name ≠ name := fun heq =>
      hpart (List.mem_map.mpr ⟨r', hr', heq.trans hname.symm⟩)
    rw [FieldRule.report, FieldRule.report, find?_withNull_other habsent hne]
  unfold report
  simp only [List.flatMap_append, List.flatMap_cons]
  rw [hsame before hbefore, hsame after hafter, List.append_cancel_left_eq,
    List.append_cancel_right_eq]

theorem ofFields_withNull_of_empty (habsent : Json.lookup name o = none) {r : FieldRule}
    (hr : r ∈ rules) (hfaults : r.faults (some (.text "")) = r.faults none)
    (hhides : Hides name o r.key (.text "")) :
    (WireModel.ofFields (withNull name o) : Checked α) = WireModel.ofFields o := by
  have hfind := (hides_iff habsent hhides.name_eq).mp hhides
  have hnone := find?_withNull_self habsent hhides.name_eq
  have htext := h.text_of_empty r hr (hhides.alternative_ne habsent) hfaults
  refine (h.alike o _ fun f hf => ?_).symm
  rcases h.separate f hf _ htext with rfl | happart
  · rw [hfind, hnone]
    exact .omitted rfl
  · rw [find?_withNull_other habsent (hhides.name_eq ▸ happart.1.symm)]
    exact .same

/-- The null makes no difference just if the rule of the field that it hides takes the hidden
value for none, and so does the object that is read, if one is read at all. -/
theorem ofFields_withNull_iff (habsent : Json.lookup name o = none) :
    (WireModel.ofFields (withNull name o) : Checked α) = WireModel.ofFields o ↔
      ∀ r ∈ rules, ∀ v, Hides name o r.key v →
        r.faults (some v) = r.faults none ∧ (v = .text "" ∨ report rules o ≠ []) := by
  constructor
  · intro hsame r hr v hhides
    have hfind := (hides_iff habsent hhides.name_eq).mp hhides
    have hnone := find?_withNull_self habsent hhides.name_eq
    have hreport : report rules (withNull name o) = report rules o := by
      rw [← h.violations, hsame, h.violations]
    rw [h.report_withNull_iff habsent hr hhides.name_eq, FieldRule.report, FieldRule.report, hfind,
      hnone] at hreport
    refine ⟨hreport.symm, or_iff_not_imp_right.mpr fun hclean => ?_⟩
    rw [not_not, ← h.violations, Checked.violations_eq_nil_iff] at hclean
    obtain ⟨a, ha⟩ := hclean
    exact h.tellsOf r hr (hhides.alternative_ne habsent) o _ a v ha (hsame.trans ha) hfind hnone
  · intro hhidden
    by_cases hr : ∃ r ∈ rules, ∃ v, Hides name o r.key v
    · obtain ⟨r, hr, v, hhides⟩ := hr
      obtain ⟨hfaults, rfl | hreported⟩ := hhidden r hr v hhides
      · exact h.ofFields_withNull_of_empty habsent hr hfaults hhides
      · have hfind := (hides_iff habsent hhides.name_eq).mp hhides
        have hreport : report rules (withNull name o) = report rules o := by
          rw [h.report_withNull_iff habsent hr hhides.name_eq, FieldRule.report,
            FieldRule.report, hfind, find?_withNull_self habsent hhides.name_eq, hfaults]
        rw [← h.violations, ← h.violations] at hreport
        exact Checked.eq_of_violations hreport (h.violations o ▸ hreported)
    · refine h.congr fun r hmem => ?_
      by_cases hname : r.key.name = name
      · rw [find?_withNull_self habsent hname]
        cases hfind : find? r.key o with
        | none => rfl
        | some v => exact absurd ⟨r, hmem, v, (hides_iff habsent hname).mpr hfind⟩ hr
      · exact find?_withNull_other habsent hname

/-- A null under the wire name of a field makes the field absent, whatever its other name holds. -/
theorem ofFields_withNull {r : FieldRule} (hr : r ∈ rules)
    (habsent : Json.lookup r.key.name o = none) :
    (WireModel.ofFields (withNull r.key.name o) : Checked α) =
      WireModel.ofFields (without r.key.alternative o) := by
  have hfield (r : FieldRule) (hr : r ∈ rules) : ∃ f ∈ fields, f.key = r.key :=
    List.mem_map.mp (h.keys ▸ List.mem_map_of_mem hr)
  refine h.congr fun r' hr' => ?_
  by_cases hname : r'.key.name = r.key.name
  · rw [find?_withNull_self habsent hname, h.eq_of_name hr' hr hname, find?_without habsent]
  · rw [find?_withNull_other habsent hname]
    obtain ⟨f, hf, hkey⟩ := hfield r hr
    obtain ⟨f', hf', hkey'⟩ := hfield r' hr'
    rcases h.separate f hf f' hf' with rfl | ⟨-, hapart, -, hapart'⟩
    · exact absurd (congrArg Key.name (hkey'.symm.trans hkey)) hname
    · rw [hkey, hkey'] at hapart hapart'
      rw [find?_without_of_apart hapart hapart']

end Described

/-- An empty text is no time, and that is told in other words than that there is none. -/
theorem FieldRule.empty_instant_faults (k : Key) :
    (FieldRule.required k parseInstant).faults (some (.text "")) ≠
      (FieldRule.required k parseInstant).faults none := by
  have hparse : parseInstant "" =
      .error "invalid RFC 3339 timestamp '': premature end of input" := by decide +kernel
  simp [FieldRule.required, FieldRule.ofText, FieldRule.verdict, hparse]

end Wire

open Wire (Described)

theorem Memo.described : Described Memo spellings rules where
  keys := rfl
  distinct := by decide
  separate := by decide
  violations := violations_ofFields
  alike _ _ := ofFields_alike
  text_of_empty := by simp [rules, spellings, Wire.FieldRule.empty_instant_faults]
  tellsOf := by
    have hcreate : Wire.TellsOf Memo ⟨"createTime", "create_time"⟩ :=
      .of_required fun h => by
        obtain ⟨-, -, -, hread, -⟩ := ofFields_eq_ok.mp h
        exact hread
    have hupdate : Wire.TellsOf Memo ⟨"updateTime", "update_time"⟩ :=
      .of_required fun h => by
        obtain ⟨-, -, -, -, hread, -⟩ := ofFields_eq_ok.mp h
        exact hread
    have hdisplay : Wire.TellsOf Memo ⟨"displayTime", "display_time"⟩ :=
      .of_optional fun h => by
        obtain ⟨-, -, -, -, -, hread, -⟩ := ofFields_eq_ok.mp h
        exact hread
    simp [rules, hcreate, hupdate, hdisplay]

theorem Attachment.described : Described Attachment spellings rules where
  keys := rfl
  distinct := by decide
  separate := by decide
  violations := violations_ofFields
  alike _ _ := ofFields_alike
  text_of_empty := by simp [rules, spellings, Wire.FieldRule.empty_instant_faults]
  tellsOf := by
    have hcreate : Wire.TellsOf Attachment ⟨"createTime", "create_time"⟩ :=
      .of_required fun h => by
        obtain ⟨-, hread, -⟩ := ofFields_eq_ok.mp h
        exact hread
    have hlink : Wire.TellsOf Attachment ⟨"externalLink", "external_link"⟩ :=
      .of_nonEmptyText? fun h => by
        obtain ⟨-, -, -, -, -, hread, -⟩ := ofFields_eq_ok.mp h
        exact hread
    simp [rules, hcreate, hlink]

theorem User.described : Described User spellings rules where
  keys := rfl
  distinct := by decide
  separate := by decide
  violations := violations_ofFields
  alike _ _ := ofFields_alike
  text_of_empty := by simp [rules, spellings, Wire.FieldRule.empty_instant_faults]
  tellsOf := by
    have havatar : Wire.TellsOf User ⟨"avatarUrl", "avatar_url"⟩ :=
      .of_textOrEmpty fun h => by
        obtain ⟨-, -, -, -, hread, -⟩ := ofFields_eq_ok.mp h
        exact hread
    have hcreate : Wire.TellsOf User ⟨"createTime", "create_time"⟩ :=
      .of_required fun h => by
        obtain ⟨-, -, -, -, -, -, -, hread, -⟩ := ofFields_eq_ok.mp h
        exact hread
    have hupdate : Wire.TellsOf User ⟨"updateTime", "update_time"⟩ :=
      .of_required fun h => by
        obtain ⟨-, -, -, -, -, -, -, -, hread⟩ := ofFields_eq_ok.mp h
        exact hread
    simp [rules, havatar, hcreate, hupdate]

-- ---------------------------------------------------------------------------
-- Objects with a null
-- ---------------------------------------------------------------------------

open Wire (FieldRule Spelling Hides withNull without)

/-- How an object is read once a null is added to it under a name. -/
structure ReadsNull (α : Type) [WireModel α] (rules : List FieldRule) (name : String)
    (o : Fields) : Prop where
  /-- The null makes no difference just if whatever it hides is judged like nothing, and is an
  empty text or part of an object that is refused anyway. -/
  same_iff : (WireModel.ofWire (.object (withNull name o)) : Except ValidationError α) =
      WireModel.ofWire (.object o) ↔
    ∀ r ∈ rules, ∀ v, Hides name o r.key v →
      r.faults (some v) = r.faults none ∧ (v = .text "" ∨ Wire.report rules o ≠ [])
  /-- What is hidden counts as absent. -/
  hidden_absent : ∀ r ∈ rules, r.key.name = name →
    (WireModel.ofWire (.object (withNull name o)) : Except ValidationError α) =
      WireModel.ofWire (.object (without r.key.alternative o))

theorem Wire.Described.readsNull {α : Type} [WireModel α] {fields : List Spelling}
    {rules : List FieldRule} (h : Described α fields rules) {name : String} {o : Fields}
    (habsent : Json.lookup name o = none) : ReadsNull α rules name o where
  same_iff := Checked.toExcept_inj.trans (h.ofFields_withNull_iff habsent)
  hidden_absent := by
    rintro r hr rfl
    exact Checked.toExcept_inj.mpr (h.ofFields_withNull hr habsent)

/-- A null is read as an absent field, unless it stands in front of the other name of its field:
then what that name holds is not seen. -/
theorem null_read_as_absent_iff (name : String) (o : Fields)
    (habsent : Json.lookup name o = none) :
    ReadsNull Memo Memo.rules name o ∧ ReadsNull Attachment Attachment.rules name o ∧
      ReadsNull User User.rules name o :=
  ⟨Memo.described.readsNull habsent, Attachment.described.readsNull habsent,
    User.described.readsNull habsent⟩

/-- An attachment that another host keeps. -/
def linked (created : String × Json) : Fields := [
  created, ("external_link", .text "https://host/a.png"), ("filename", .text "a.png"),
  ("name", .text "attachments/1"), ("type", .text "image/png")]

/-- The null hides the link, and the attachment is read without it. -/
theorem null_read_as_absent_of_link :
    let o := linked ("createTime", .text "2024-01-01T00:00:00Z")
    Json.lookup "externalLink" o = none ∧
      (WireModel.ofWire (.object (withNull "externalLink" o)) : Except ValidationError Attachment) =
        WireModel.ofWire (.object (without "external_link" o)) ∧
      (WireModel.ofWire (.object (withNull "externalLink" o)) : Except ValidationError Attachment) ≠
        WireModel.ofWire (.object o) := by
  intro o
  have habsent : Json.lookup "externalLink" o = none := rfl
  obtain ⟨-, ⟨hsame, hhidden⟩, -⟩ := null_read_as_absent_iff "externalLink" o habsent
  have hrule : FieldRule.text ⟨"externalLink", "external_link"⟩ ∈ Attachment.rules := by
    simp [Attachment.rules]
  have hhides : Hides "externalLink" o ⟨"externalLink", "external_link"⟩
      (.text "https://host/a.png") := ⟨rfl, rfl, rfl⟩
  refine ⟨habsent, hhidden _ hrule rfl, fun h => ?_⟩
  obtain ⟨-, hempty | hrefused⟩ := hsame.mp h _ hrule _ hhides
  · exact absurd (Json.text.inj hempty) (by decide)
  · exact hrefused (by decide +kernel)

/-- The time is given under its other name, and is reported missing because of the null. -/
theorem missed_though_given :
    let o := linked ("create_time", .text "2024-01-01T00:00:00Z")
    Json.lookup "createTime" o = none ∧
      (∃ a, (WireModel.ofWire (.object o) : Except ValidationError Attachment) = .ok a) ∧
      (WireModel.ofWire (.object (withNull "createTime" o)) : Except ValidationError Attachment) =
        .error (.single "attachment" "createTime" "is required") := by
  intro o
  have hrefused : Attachment.ofFields (withNull "createTime" o) =
      .violation "createTime" "is required" := by decide +kernel
  have hclean : (Attachment.ofFields o).violations = [] := by decide +kernel
  obtain ⟨a, ha⟩ := (Checked.violations_eq_nil_iff _).mp hclean
  exact ⟨rfl, ⟨a, congrArg (Checked.toExcept "attachment") ha⟩,
    congrArg (Checked.toExcept "attachment") hrefused⟩

end RemoteNotes
