import RemoteNotes.Http.Failure
import RemoteNotes.Proofs.Digits
import RemoteNotes.Proofs.RecordReaders
import RemoteNotes.Proofs.Results
import RemoteNotes.Proofs.Trimming

/-!
# What is said of a failure

Which bodies are read as an error is settled by the grammar (`read_complaint_iff`), and from
that what is said of a failure with any status and any body (`failureText_spec`).
-/

namespace RemoteNotes.Http

open Json (Form)
open Json.Form (Layout)
open Json.Grammar
open Json.Reader (past comma openList closeList openObject Takes)
open Text (compact compactLength isBlankText)
open Text.Utf8 (Octets)

-- ---------------------------------------------------------------------------
-- Bodies with a message
-- ---------------------------------------------------------------------------

def named (name : String) (ms : List Member) : List Member := ms.filter fun m => m.name == name

/-- A name that no member has tells nothing, and neither does a null. No name may be there
twice. -/
def Tells (ms : List Member) (name : String) (o : Option String) : Prop :=
  named name ms = [] ∧ o = none ∨
    ∃ m, named name ms = [m] ∧ HoldsText o m.value m.behind

/-- The body is an object with these two fields, each a text, a null or absent. Its other members
hold what they like. -/
def IsObject (body : String) (c : Complaint) : Prop :=
  ∃ bs ms rest, past (Text.Utf8.ofString body) = openObject :: bs ∧ Members true ms bs rest ∧
    past rest = [] ∧ Tells ms "message" c.message ∧ Tells ms "error" c.error

/-- The body is a list of just two elements, each a text or a null. -/
def IsPair (body : String) (c : Complaint) : Prop :=
  ∃ b₁ b₂ b₃ b₄ rest, past (Text.Utf8.ofString body) = openList :: b₁ ∧
    HoldsText c.message b₁ b₂ ∧ past b₂ = comma :: b₃ ∧ HoldsText c.error b₃ b₄ ∧
    past b₄ = closeList :: rest ∧ past rest = []

namespace Complaint

def store (name : String) (v : Option String) (c : Complaint) : Complaint :=
  if name = "message" then { c with message := v } else { c with error := v }

/-- The value of a part is a text or a null, which is stored under the name of the part. -/
def Holds (f : Form.Field Complaint) (put : Complaint → Complaint) (bs rest : Octets) : Prop :=
  ∃ v, HoldsText v bs rest ∧ store f.name v = put

theorem layout_parts : layout.Parts Holds := by
  constructor
  · intro f hf c put rest
    simp only [layout, List.mem_cons, List.not_mem_nil, or_false] at hf
    rcases hf with rfl | rfl
    · simp only [Form.Field.part, Form.takes_formMap, Form.takes_optionalText]
      rfl
    · simp only [Form.Field.part, Form.takes_formMap, Form.takes_optionalText]
      rfl
  · rintro f - put bs rest ⟨v, hv, -⟩
    exact hv.stands

/-- What the members tell, given what was stored of the members in front of them. -/
def TellsOn (seen : List String) (old : Option String) (ms : List Member) (name : String)
    (o : Option String) : Prop :=
  named name ms = [] ∧ o = old ∨
    name ∉ seen ∧ ∃ m, named name ms = [m] ∧ HoldsText o m.value m.behind

theorem tellsOn_cons_of_ne {seen : List String} {old o : Option String} {m : Member}
    {ms : List Member} {name : String} (h : m.name ≠ name) :
    TellsOn seen old (m :: ms) name o ↔ TellsOn seen old ms name o := by
  simp only [TellsOn, named, List.filter_cons, beq_iff_eq, h, if_false]

theorem tellsOn_cons_self {seen : List String} {old o : Option String} {m : Member}
    {ms : List Member} :
    TellsOn seen old (m :: ms) m.name o ↔
      m.name ∉ seen ∧ ∃ v, HoldsText v m.value m.behind ∧
        TellsOn (m.name :: seen) v ms m.name o := by
  simp [TellsOn, named, and_comm]

theorem tellsOn_seen {seen : List String} {old o : Option String} {ms : List Member}
    {name other : String} (h : name ≠ other) :
    TellsOn (other :: seen) old ms name o ↔ TellsOn seen old ms name o := by
  simp [TellsOn, h]

def messagePart : Form.Field Complaint :=
  { Form.Field.part "message" (.optional .text) fun v c => { c with message := v } with
    mayEndBefore := false }

def errorPart : Form.Field Complaint :=
  { Form.Field.part "error" (.optional .text) fun v c => { c with error := v } with
    mayEndBefore := false }

@[simp] theorem messagePart_name : messagePart.name = "message" := rfl

@[simp] theorem errorPart_name : errorPart.name = "error" := rfl

@[simp] theorem store_message (v : Option String) (c : Complaint) :
    store "message" v c = { c with message := v } := rfl

@[simp] theorem store_error (v : Option String) (c : Complaint) :
    store "error" v c = { c with error := v } := rfl

theorem resolve_message (seen : List String) :
    layout.resolve seen "message" =
      if seen.contains "message" then .error (.duplicateField "message")
      else .ok (some messagePart) := rfl

theorem resolve_error (seen : List String) :
    layout.resolve seen "error" =
      if seen.contains "error" then .error (.duplicateField "error")
      else .ok (some errorPart) := rfl

theorem resolve_other {seen : List String} {name : String} (hmessage : name ≠ "message")
    (herror : name ≠ "error") : layout.resolve seen name = .ok none := by
  unfold Layout.resolve
  simp [layout, Form.Field.part, Form.Field.answersTo, hmessage.symm, herror.symm]

theorem gathers_iff {seen : List String} {draft result : Complaint} {ms : List Member} :
    layout.Gathers Holds seen draft ms result ↔
      TellsOn seen draft.message ms "message" result.message ∧
        TellsOn seen draft.error ms "error" result.error := by
  induction ms generalizing seen draft with
  | nil =>
    rw [Layout.gathers_nil_iff]
    obtain ⟨message, error⟩ := draft
    obtain ⟨message', error'⟩ := result
    simp [TellsOn, named, eq_comm]
  | cons m ms ih =>
    rw [Layout.gathers_cons_iff]
    by_cases hmessage : m.name = "message"
    · have herror : m.name ≠ "error" := by
        rw [hmessage]
        decide
      have hseen : ("error" : String) ≠ "message" := by decide
      rw [tellsOn_cons_of_ne herror, ← hmessage, tellsOn_cons_self, hmessage, resolve_message]
      by_cases h : "message" ∈ seen
      · simp [h]
      · simp [h, Holds, ih, tellsOn_seen hseen, ← and_assoc]
    by_cases herror : m.name = "error"
    · have hseen : ("message" : String) ≠ "error" := by decide
      rw [tellsOn_cons_of_ne hmessage, ← herror, tellsOn_cons_self, herror, resolve_error]
      by_cases h : "error" ∈ seen
      · simp [h]
      · simp [h, Holds, ih, tellsOn_seen hseen, and_left_comm]
    · rw [tellsOn_cons_of_ne hmessage, tellsOn_cons_of_ne herror, resolve_other hmessage herror]
      simp [ih]

theorem lists_iff {bs rest : Octets} {result : Complaint} :
    Layout.Lists Holds true layout.fields {} bs result rest ↔
      ∃ b₁ b₂, HoldsText result.message bs b₁ ∧ past b₁ = comma :: b₂ ∧
        HoldsText result.error b₂ rest := by
  constructor
  · intro h
    cases h with
    | part hseparated hput h =>
      cases h with
      | part hseparated' hput' h =>
        cases h
        obtain rfl : past bs = _ := hseparated
        obtain ⟨m, hcomma, rfl⟩ : ∃ m, past _ = comma :: m ∧ past m = _ := hseparated'
        obtain ⟨v, hv, rfl⟩ := hput
        obtain ⟨v', hv', rfl⟩ := hput'
        exact ⟨_, m, holdsText_past.mp hv, hcomma, holdsText_past.mp hv'⟩
      | short hend => cases hend
    | short hend => cases hend
  · rintro ⟨b₁, b₂, hmessage, hcomma, herror⟩
    have hput : Holds messagePart (store "message" result.message) (past bs) b₁ :=
      ⟨_, holdsText_past.mpr hmessage, rfl⟩
    have hput' : Holds errorPart (store "error" result.error) (past b₂) rest :=
      ⟨_, holdsText_past.mpr herror, rfl⟩
    exact .part rfl hput (.part ⟨b₂, hcomma, rfl⟩ hput' .done)

theorem tells_iff {ms : List Member} {name : String} {o : Option String} :
    TellsOn [] none ms name o ↔ Tells ms name o := by
  simp [TellsOn, Tells]

end Complaint

/-- What is read as an error: an object, and also a list. -/
theorem read_complaint_iff {body : String} {c : Complaint} :
    Complaint.form.read body = .ok c ↔ IsObject body c ∨ IsPair body c := by
  have hrecord : Complaint.form.read body = .ok c ↔ ∃ rest,
      Complaint.layout.Stored Complaint.Holds c (Text.Utf8.ofString body) rest ∧
        past rest = [] := by
    unfold Form.read
    rw [Json.readText_eq_ok]
    exact exists_congr fun rest =>
      and_congr_left fun _ => Form.takes_record Complaint.layout_parts
  rw [hrecord]
  constructor
  · rintro ⟨rest, h, hend⟩
    cases h with
    | object hpast hms hgathers hfinish =>
      cases hfinish
      obtain ⟨hmessage, herror⟩ := Complaint.gathers_iff.mp hgathers
      exact .inl ⟨_, _, rest, hpast, hms, hend, Complaint.tells_iff.mp hmessage,
        Complaint.tells_iff.mp herror⟩
    | list hpast hlists hclose hfinish =>
      cases hfinish
      obtain ⟨b₁, b₂, hmessage, hcomma, herror⟩ := Complaint.lists_iff.mp hlists
      exact .inr ⟨_, b₁, b₂, _, rest, hpast, hmessage, hcomma, herror, hclose, hend⟩
  · rintro (⟨bs, ms, rest, hpast, hms, hend, hmessage, herror⟩ |
      ⟨b₁, b₂, b₃, b₄, rest, hpast, hmessage, hcomma, herror, hclose, hend⟩)
    · refine ⟨rest, .object hpast hms (Complaint.gathers_iff.mpr ⟨?_, ?_⟩) rfl, hend⟩
      · exact Complaint.tells_iff.mpr hmessage
      · exact Complaint.tells_iff.mpr herror
    · have hlists := Complaint.lists_iff.mpr ⟨b₂, b₃, hmessage, hcomma, herror⟩
      exact ⟨rest, .list hpast hlists hclose rfl, hend⟩

theorem not_isPair_of_isObject {body : String} {c c' : Complaint} (h : IsObject body c) :
    ¬IsPair body c' := by
  obtain ⟨_, _, _, hobject, -⟩ := h
  rintro ⟨_, _, _, _, _, hlist, -⟩
  exact absurd (List.cons.inj (hobject.symm.trans hlist)).1 (by decide)

theorem isObject_of_read {body : String} {c : Complaint} (h : Complaint.form.read body = .ok c)
    (hstart : (past (Text.Utf8.ofString body)).head? = some openObject) : IsObject body c := by
  refine (read_complaint_iff.mp h).resolve_right ?_
  rintro ⟨_, _, _, _, _, hlist, -⟩
  rw [hlist, List.head?_cons] at hstart
  exact absurd (Option.some.inj hstart) (by decide)

theorem isPair_of_read {body : String} {c : Complaint} (h : Complaint.form.read body = .ok c)
    (hstart : (past (Text.Utf8.ofString body)).head? = some openList) : IsPair body c := by
  refine (read_complaint_iff.mp h).resolve_left ?_
  rintro ⟨_, _, _, hobject, -⟩
  rw [hobject, List.head?_cons] at hstart
  exact absurd (Option.some.inj hstart) (by decide)

/-- No body can be read in two ways. -/
theorem isObject_unique {body : String} {c c' : Complaint} (h : IsObject body c)
    (h' : IsObject body c') : c = c' := by
  have hread := (read_complaint_iff.mpr (.inl h)).symm.trans (read_complaint_iff.mpr (.inl h'))
  exact Except.ok.inj hread

-- ---------------------------------------------------------------------------
-- What is said
-- ---------------------------------------------------------------------------

/-- The compacted body, or the name of the status where the body is blank. -/
def bodyText (status : Nat) (body : String) : String :=
  if isBlankText body then statusText status else compact body

theorem compact_eq_empty_iff (s : String) : compact s = "" ↔ isBlankText s = true := by
  rw [← Text.trimmed_eq_empty_iff, compact, Text.trimmed]
  simp [compactLength]

theorem failureText_eq (status : Nat) (body : String) :
    failureText status body = ((complaint? body).map compact).getD (bodyText status body) := by
  unfold failureText bodyText
  cases complaint? body with
  | some s => rfl
  | none =>
    simp only [String.isEmpty_iff, compact_eq_empty_iff, Option.map_none, Option.getD_none]

theorem isBlankText_of_complaint? {body s : String} (h : complaint? body = some s) :
    isBlankText s = false := by
  unfold complaint? at h
  obtain ⟨c, -, htext⟩ := Option.bind_eq_some_iff.mp h
  unfold Complaint.text? at htext
  rw [Option.filter_eq_some_iff] at htext
  simpa using htext.2

theorem statusNames_bounds :
    ∀ entry ∈ statusNames, entry.2 ≠ "" ∧ entry.2.length ≤ compactLength := by
  decide +kernel

theorem statusText_bounds {status : Nat} (h : status < 1000) :
    statusText status ≠ "" ∧ (statusText status).length ≤ compactLength := by
  unfold statusText
  cases hname : statusNames.lookup status with
  | some name =>
    obtain ⟨front, behind, hnames, -⟩ := List.lookup_eq_some_iff.mp hname
    exact statusNames_bounds (status, name) (by rw [hnames]; simp)
  | none =>
    have hdigits : (Number.natText status).length ≤ 3 := by
      rw [← String.length_toList, Number.toList_natText]
      exact Number.length_digitsOf_le (by decide) h
    have hlength : ("HTTP " ++ Number.natText status).length = 5 + (Number.natText status).length :=
      String.length_append ..
    simp only [Option.getD_none]
    refine ⟨?_, ?_⟩
    · intro hempty
      rw [hempty] at hlength
      simp at hlength
      omega
    · rw [hlength]
      simp only [compactLength]
      omega

theorem failureText_bounds {status : Nat} (hstatus : status < 1000) (body : String) :
    failureText status body ≠ "" ∧ (failureText status body).length ≤ compactLength := by
  rw [failureText_eq]
  cases hsaid : complaint? body with
  | some s =>
    have hblank := isBlankText_of_complaint? hsaid
    refine ⟨?_, Text.length_compact_le s⟩
    show compact s ≠ ""
    rw [ne_eq, compact_eq_empty_iff, hblank]
    exact Bool.false_ne_true
  | none =>
    show bodyText status body ≠ "" ∧ (bodyText status body).length ≤ compactLength
    unfold bodyText
    split
    · exact statusText_bounds hstatus
    · next hblank => exact ⟨mt (compact_eq_empty_iff body).mp hblank, Text.length_compact_le body⟩

theorem complaint?_of_read {body : String} {c : Complaint} (h : IsObject body c ∨ IsPair body c) :
    complaint? body = c.text? := by
  unfold complaint?
  rw [read_complaint_iff.mpr h]
  rfl

/-- The message counts, or the error where there is no message, but not if it is blank. -/
theorem failureText_of_some (status : Nat) {body s : String} {c : Complaint}
    (h : IsObject body c ∨ IsPair body c) (hs : c.message.or c.error = some s) :
    failureText status body = if isBlankText s then bodyText status body else compact s := by
  rw [failureText_eq, complaint?_of_read h, Complaint.text?, hs, Option.filter_some]
  cases isBlankText s <;> rfl

theorem failureText_of_none (status : Nat) {body : String} {c : Complaint}
    (h : IsObject body c ∨ IsPair body c) (hnone : c.message.or c.error = none) :
    failureText status body = bodyText status body := by
  rw [failureText_eq, complaint?_of_read h, Complaint.text?, hnone]
  rfl

theorem failureText_of_unread (status : Nat) {body : String}
    (h : ∀ c, ¬(IsObject body c ∨ IsPair body c)) :
    failureText status body = bodyText status body := by
  have hsaid : complaint? body = none := by
    unfold complaint?
    rcases hread : Complaint.form.read body with _ | c
    · rfl
    · exact absurd (read_complaint_iff.mp hread) (h c)
  rw [failureText_eq, hsaid]
  rfl

/-- What is to be said: a message that is not blank, else an error that is not blank, else the
body or the status. -/
structure IsTold (status : Nat) (body : String) : Prop where
  message : ∀ c m, IsObject body c → c.message = some m → isBlankText m = false →
    failureText status body = compact m
  error : ∀ c e, IsObject body c → (∀ m, c.message = some m → isBlankText m = true) →
    c.error = some e → isBlankText e = false → failureText status body = compact e
  otherwise : (∀ c s, IsObject body c → c.message = some s ∨ c.error = some s →
    isBlankText s = true) → failureText status body = bodyText status body

/-- Two ways in which something else is said. -/
inductive Slip (status : Nat) (body : String) : Prop
  /-- A blank message stands in front of the error. -/
  | hiddenError {c m e} : IsObject body c → c.message = some m → isBlankText m = true →
    c.error = some e → isBlankText e = false → compact e ≠ bodyText status body → Slip status body
  /-- A list has no fields, but counts as one of their values. -/
  | pair {c s} : IsPair body c → c.message.or c.error = some s → isBlankText s = false →
    compact s ≠ bodyText status body → Slip status body

theorem not_isTold_of_slip {status : Nat} {body : String} (h : Slip status body) :
    ¬IsTold status body := by
  intro htold
  cases h with
  | hiddenError hobject hm hblank he hplain hne =>
    have hbody := failureText_of_some status (.inl hobject) (by rw [hm, Option.some_or])
    rw [if_pos hblank] at hbody
    refine hne ((htold.error _ _ hobject ?_ he hplain).symm.trans hbody)
    intro m hm'
    obtain rfl := Option.some.inj (hm.symm.trans hm')
    exact hblank
  | pair hpair hs hplain hne =>
    have hsaid := failureText_of_some status (.inr hpair) hs
    rw [if_neg (by simp [hplain])] at hsaid
    refine hne (hsaid.symm.trans (htold.otherwise ?_))
    exact fun _ _ hobject => absurd hpair (not_isPair_of_isObject hobject)

theorem isTold_of_no_slip {status : Nat} {body : String} (h : ¬Slip status body) :
    IsTold status body := by
  refine ⟨fun c m hobject hm hplain => ?_, fun c e hobject hblank he hplain => ?_, fun hnone => ?_⟩
  · have hsaid := failureText_of_some status (.inl hobject) (by rw [hm, Option.some_or])
    rw [hsaid, if_neg (by simp [hplain])]
  · cases hm : c.message with
    | none =>
      have hsaid := failureText_of_some status (.inl hobject) (by rw [hm, Option.none_or, he])
      rw [hsaid, if_neg (by simp [hplain])]
    | some m =>
      have hsaid := failureText_of_some status (.inl hobject) (by rw [hm, Option.some_or])
      rw [hsaid, if_pos (hblank m hm)]
      by_contra hne
      exact h (.hiddenError hobject hm (hblank m hm) he hplain (Ne.symm hne))
  · by_cases hread : ∃ c, IsObject body c ∨ IsPair body c
    · obtain ⟨c, hread⟩ := hread
      cases hs : c.message.or c.error with
      | none => exact failureText_of_none status hread hs
      | some s =>
        rw [failureText_of_some status hread hs]
        split
        · rfl
        · next hplain =>
          rcases hread with hobject | hpair
          · refine absurd (hnone c s hobject ?_) hplain
            exact (Option.or_eq_some_iff.mp hs).imp_right And.right
          · by_contra hne
            exact h (.pair hpair hs (by simpa using hplain) hne)
    · exact failureText_of_unread status (not_exists.mp hread)

/-- A failure is told in the words of the message, or of the error where there is no message,
else in those of the body. That is what is to be said unless one of the two slips is made. -/
theorem failureText_spec {status : Nat} (hstatus : status < 1000) (body : String) :
    (failureText status body ≠ "" ∧ (failureText status body).length ≤ compactLength) ∧
      (∀ c, IsObject body c ∨ IsPair body c →
        (∀ s, c.message.or c.error = some s →
          failureText status body = if isBlankText s then bodyText status body else compact s) ∧
        (c.message.or c.error = none → failureText status body = bodyText status body)) ∧
      ((∀ c, ¬(IsObject body c ∨ IsPair body c)) →
        failureText status body = bodyText status body) ∧
      (IsTold status body ↔ ¬Slip status body) :=
  ⟨failureText_bounds hstatus body,
    fun _ h => ⟨fun _ => failureText_of_some status h, failureText_of_none status h⟩,
    failureText_of_unread status, fun htold hslip => not_isTold_of_slip hslip htold,
    isTold_of_no_slip⟩

theorem failureText_of_error :
    let body := "\x7b\"code\":5,\"error\":\" bad filter \"\x7d"
    404 < 1000 ∧ IsObject body ⟨none, some " bad filter "⟩ ∧
      failureText 404 body = "bad filter" := by
  intro body
  have hobject : IsObject body ⟨none, some " bad filter "⟩ :=
    isObject_of_read (toOption_eq_some.mp (by decide +kernel)) (by decide)
  obtain ⟨-, hsaid, -⟩ := failureText_spec (show 404 < 1000 by decide) body
  refine ⟨by decide, hobject, ((hsaid _ (.inl hobject)).1 _ rfl).trans ?_⟩
  rw [if_neg (by decide)]
  decide

/-- A useful error behind a blank message is not told, and a list is told that has no fields. -/
theorem useful_error_hidden :
    let body := "\x7b\"message\":\"  \",\"error\":\"bad filter\"\x7d"
    let list := "[\"boom\", null]"
    (IsObject body ⟨some "  ", some "bad filter"⟩ ∧ isBlankText "  " = true ∧
      isBlankText "bad filter" = false ∧ failureText 400 body ≠ compact "bad filter" ∧
      ¬IsTold 400 body) ∧
      (∀ c, ¬IsObject list c) ∧ failureText 400 list ≠ bodyText 400 list ∧ ¬IsTold 400 list := by
  intro body list
  have hobject : IsObject body ⟨some "  ", some "bad filter"⟩ :=
    isObject_of_read (toOption_eq_some.mp (by decide +kernel)) (by decide)
  have hpair : IsPair list ⟨some "boom", none⟩ :=
    isPair_of_read (toOption_eq_some.mp (by decide +kernel)) (by decide)
  have hbody : bodyText 400 body = body := by
    rw [bodyText, if_neg (by decide)]
    decide
  have hlist : bodyText 400 list = list := by
    rw [bodyText, if_neg (by decide)]
    decide
  have hne : compact "bad filter" ≠ bodyText 400 body := by
    rw [hbody]
    decide
  have hne' : compact "boom" ≠ bodyText 400 list := by
    rw [hlist]
    decide
  have hsaid := failureText_of_some 400 (.inl hobject) rfl
  have hsaid' := failureText_of_some 400 (.inr hpair) rfl
  refine ⟨⟨hobject, by decide, by decide, ?_, ?_⟩, ?_, ?_, ?_⟩
  · rw [hsaid, if_pos (by decide)]
    exact hne.symm
  · exact not_isTold_of_slip (.hiddenError hobject rfl (by decide) rfl (by decide) hne)
  · exact fun c hc => not_isPair_of_isObject hc hpair
  · rw [hsaid', if_neg (by decide)]
    exact hne'
  · exact not_isTold_of_slip (.pair hpair rfl (by decide) hne')

end RemoteNotes.Http
