import Mathlib.Logic.Relation
import RemoteNotes.Attachment
import RemoteNotes.Memo
import RemoteNotes.Proofs.WireFields
import RemoteNotes.User

/-!
# Spellings of one message

A message may be spelled in several ways: a field has two names, a whole number may be a text
with its digits, a reference to an attachment may be its bare name, and a field that holds what
it would hold anyway may be left out. However these are combined, the message is read alike and
has the same faults (`read_alike_respelled`).
-/

namespace RemoteNotes

open Json (Fields)
open Number (intText maxInt64)

namespace Wire

-- ---------------------------------------------------------------------------
-- Fields and their spellings
-- ---------------------------------------------------------------------------

/-- What a field holds, as far as it matters to how it can be spelled. -/
inductive Shape
  | fixed
  | text
  | bool
  | int64
  | list
  /-- A list of names of attachments. -/
  | references
  deriving DecidableEq

structure Spelling where
  key : Key
  shape : Shape
  deriving DecidableEq

/-- The value that may be left out. -/
def Shape.default? : Shape → Option Json
  | .fixed => none
  | .text => some (.text "")
  | .bool => some (.bool false)
  | .int64 => some (.num (.nat 0))
  | .list | .references => some (.array [])

/-- A reference to an attachment: its name, or an object with that name. -/
inductive Refers (name : String) : Json → Prop
  | bare : Refers name (.text name)
  | named {fields} : Json.lookup "name" fields = some (.text name) → Refers name (.object fields)

/-- Two values of a field that mean one thing, or the value of a field and its absence. -/
inductive Shape.Alike : Shape → Option Json → Option Json → Prop
  | same {shape v?} : Alike shape v? v?
  | omitted {shape v} : shape.default? = some v → Alike shape (some v) none
  | digits {n : Json.Num} {i : Int} : n.int64? = some i → -(maxInt64 + 1) ≤ i →
    Alike .int64 (some (.num n)) (some (.text (intText i)))
  | reference {before name v v' after} : Refers name v → Refers name v' →
    Alike .references (some (.array (before ++ v :: after)))
      (some (.array (before ++ v' :: after)))

/-- A field is written under one of its names and not under the other one, or not at all. -/
def Written (k : Key) (o : Fields) (v? : Option Json) : Prop :=
  (Json.lookup k.name o = v? ∧ (k.alternative ≠ k.name → Json.lookup k.alternative o = none)) ∨
    (Json.lookup k.alternative o = v? ∧ (k.alternative ≠ k.name → Json.lookup k.name o = none))

/-- Two objects that differ in one field at most, which is spelled in two ways. -/
inductive Respelled (fields : List Spelling) (o o' : Fields) : Prop
  | field {f v? v'?} : f ∈ fields → Written f.key o v? → Written f.key o' v'? →
    f.shape.Alike v? v'? →
    (∀ name, name ≠ f.key.name → name ≠ f.key.alternative →
      Json.lookup name o = Json.lookup name o') →
    Respelled fields o o'

/-- Any number of fields respelled, in any order and to and fro. -/
abbrev SpellsAlike (fields : List Spelling) : Fields → Fields → Prop :=
  Relation.EqvGen (Respelled fields)

def Key.Apart (k l : Key) : Prop :=
  l.name ≠ k.name ∧ l.name ≠ k.alternative ∧ l.alternative ≠ k.name ∧
    l.alternative ≠ k.alternative

instance (k l : Key) : Decidable (k.Apart l) := inferInstanceAs (Decidable (_ ∧ _ ∧ _ ∧ _))

/-- No two fields share a name. -/
def Separate (fields : List Spelling) : Prop :=
  ∀ f ∈ fields, ∀ g ∈ fields, f = g ∨ f.key.Apart g.key

instance (fields : List Spelling) : Decidable (Separate fields) :=
  inferInstanceAs (Decidable (∀ f ∈ fields, ∀ g ∈ fields, f = g ∨ f.key.Apart g.key))

variable {k : Key} {o o' : Fields} {v? v'? : Option Json}

theorem Written.find? (h : Written k o v?) : Wire.find? k o = v?.filter fun v => !v.isNull := by
  unfold Wire.find?
  rcases h with ⟨hname, hother⟩ | ⟨hname, hother⟩
  · by_cases hplain : k.alternative = k.name
    · rw [hplain, hname, Option.or_self]
    · rw [hname, hother hplain, Option.or_none]
  · by_cases hplain : k.alternative = k.name
    · rw [← hplain, hname, Option.or_self]
    · rw [hname, hother hplain, Option.none_or]

theorem Shape.isNull_of_default? {shape : Shape} {v : Json} (h : shape.default? = some v) :
    v.isNull = false := by
  cases shape <;> cases h <;> rfl

theorem Shape.Alike.filter {shape : Shape} (h : shape.Alike v? v'?) :
    shape.Alike (v?.filter fun v => !v.isNull) (v'?.filter fun v => !v.isNull) := by
  cases h with
  | same => exact .same
  | omitted hdefault =>
    rw [Option.filter_some, Shape.isNull_of_default? hdefault]
    exact .omitted hdefault
  | digits hn hi => exact .digits hn hi
  | reference hv hv' => exact .reference hv hv'

/-- What each field of an object holds is alike, and no field but one has changed. -/
theorem Respelled.alike {fields : List Spelling} (hseparate : Separate fields)
    (h : Respelled fields o o') :
    ∀ f ∈ fields, f.shape.Alike (find? f.key o) (find? f.key o') := by
  obtain ⟨hf, hwritten, hwritten', halike, hothers⟩ := h
  intro g hg
  rcases hseparate _ hf g hg with rfl | ⟨h₁, h₂, h₃, h₄⟩
  · rw [hwritten.find?, hwritten'.find?]
    exact halike.filter
  · have hsame : find? g.key o = find? g.key o' := by
      unfold Wire.find?
      rw [hothers _ h₁ h₂, hothers _ h₃ h₄]
    rw [hsame]
    exact .same

-- ---------------------------------------------------------------------------
-- Readers
-- ---------------------------------------------------------------------------

variable {α : Type}

theorem Shape.Alike.eq_of_fixed (h : Shape.fixed.Alike v? v'?) : v? = v'? := by
  cases h with
  | same => rfl
  | omitted hdefault => cases hdefault

theorem required_alike (h : Shape.fixed.Alike (find? k o) (find? k o'))
    (parse : String → Except String α) : required k parse o = required k parse o' := by
  rw [required, required, requiredText, requiredText, text?, text?, h.eq_of_fixed]

theorem text?_alike (h : Shape.text.Alike (find? k o) (find? k o')) :
    text? k o = text? k o' ∨ text? k o = .ok (some "") ∧ text? k o' = .ok none := by
  unfold text?
  generalize find? k o = v? at h
  generalize find? k o' = v'? at h
  cases h with
  | same => exact .inl rfl
  | omitted hdefault =>
    cases hdefault
    exact .inr ⟨rfl, rfl⟩

section

variable (h : Shape.text.Alike (find? k o) (find? k o'))

include h

theorem textOrEmpty_alike : textOrEmpty k o = textOrEmpty k o' := by
  unfold textOrEmpty
  rcases text?_alike h with hsame | ⟨hempty, hnone⟩
  · rw [hsame]
  · rw [hempty, hnone]
    rfl

theorem nonEmptyText?_alike : nonEmptyText? k o = nonEmptyText? k o' := by
  unfold nonEmptyText?
  rcases text?_alike h with hsame | ⟨hempty, hnone⟩
  · rw [hsame]
  · rw [hempty, hnone]
    rfl

theorem optional_alike (parse : String → Except String α) :
    optional k parse o = optional k parse o' := by
  rw [optional, optional, nonEmptyText?_alike h]

end

theorem boolOrFalse_alike (h : Shape.bool.Alike (find? k o) (find? k o')) :
    boolOrFalse k o = boolOrFalse k o' := by
  unfold boolOrFalse
  generalize find? k o = v? at h
  generalize find? k o' = v'? at h
  cases h with
  | same => rfl
  | omitted hdefault =>
    cases hdefault
    rfl

theorem readInt_digits {i : Int} (hlow : -(maxInt64 + 1) ≤ i) (hhigh : i ≤ maxInt64) :
    Number.readInt maxInt64 (Text.trimmed (intText i)) = .ok i := by
  rw [trimmed_intText]
  by_cases hi : i < 0
  · exact Number.readInt_intText_of_neg hi hlow
  · exact Number.readInt_intText (Int.not_lt.mp hi) hhigh

theorem int64?_le {n : Json.Num} {i : Int} (h : n.int64? = some i) : i ≤ maxInt64 := by
  cases n with
  | nat n =>
    simp only [Json.Num.int64?, Option.ite_none_right_eq_some, Option.some.injEq] at h
    omega
  | @negative n hn =>
    cases h
    omega
  | float => cases h

theorem int64OrZero_alike (h : Shape.int64.Alike (find? k o) (find? k o')) :
    int64OrZero k o = int64OrZero k o' := by
  unfold int64OrZero
  generalize find? k o = v? at h
  generalize find? k o' = v'? at h
  cases h with
  | same => rfl
  | omitted hdefault =>
    cases hdefault
    rfl
  | digits hn hlow => simp only [hn, readInt_digits hlow (int64?_le hn)]

theorem items_alike (h : Shape.list.Alike (find? k o) (find? k o'))
    (check : Nat → Json → Checked α) : items k check o = items k check o' := by
  unfold items array
  generalize find? k o = v? at h
  generalize find? k o' = v'? at h
  cases h with
  | same => rfl
  | omitted hdefault =>
    cases hdefault
    rfl

theorem object?_alike (h : Shape.fixed.Alike (find? k o) (find? k o')) :
    object? k o = object? k o' := by
  rw [object?, object?, h.eq_of_fixed]

/-- Items that mean one thing are checked alike, wherever they stand. -/
theorem items_alike_of_refers (h : Shape.references.Alike (find? k o) (find? k o'))
    {check : Nat → Json → Checked α}
    (hcheck : ∀ i name v v', Refers name v → Refers name v' → check i v = check i v') :
    items k check o = items k check o' := by
  unfold items array
  generalize find? k o = v? at h
  generalize find? k o' = v'? at h
  cases h with
  | same => rfl
  | omitted hdefault =>
    cases hdefault
    rfl
  | reference hv hv' =>
    simp only [Checked.andThen, List.mapIdx_append, List.mapIdx_cons, hcheck _ _ _ _ hv hv']

/-- A kind of object whose fields may be respelled without a difference. -/
theorem read_alike {α : Type} [WireModel α] {fields : List Spelling}
    (hseparate : Separate fields)
    (hread : ∀ o o' : Fields, (∀ f ∈ fields, f.shape.Alike (find? f.key o) (find? f.key o')) →
      (WireModel.ofFields o : Checked α) = WireModel.ofFields o')
    (h : SpellsAlike fields o o') :
    (WireModel.ofWire (.object o) : Except ValidationError α) = WireModel.ofWire (.object o') := by
  induction h with
  | rel o o' hstep =>
    have hfields : (WireModel.ofFields o : Checked α) = WireModel.ofFields o' :=
      hread o o' (hstep.alike hseparate)
    exact congrArg (Checked.toExcept (WireModel.kind α)) hfields
  | refl => rfl
  | symm _ _ _ ih => exact ih.symm
  | trans _ _ _ _ _ ih ih' => exact ih.trans ih'

end Wire

-- ---------------------------------------------------------------------------
-- The fields of each kind of object
-- ---------------------------------------------------------------------------

open Wire (Spelling Shape Separate SpellsAlike Refers)

variable {o o' : Fields}

namespace Memo

def spellings : List Spelling := [
  ⟨.plain "name", .fixed⟩,
  ⟨.plain "state", .fixed⟩,
  ⟨.plain "creator", .fixed⟩,
  ⟨⟨"createTime", "create_time"⟩, .fixed⟩,
  ⟨⟨"updateTime", "update_time"⟩, .fixed⟩,
  ⟨⟨"displayTime", "display_time"⟩, .text⟩,
  ⟨.plain "content", .text⟩,
  ⟨.plain "snippet", .text⟩,
  ⟨.plain "visibility", .fixed⟩,
  ⟨.plain "pinned", .bool⟩,
  ⟨.plain "parent", .text⟩,
  ⟨.plain "tags", .list⟩,
  ⟨.plain "attachments", .references⟩,
  ⟨.plain "location", .fixed⟩]

theorem attachmentReference?_of_refers {name : String} {v : Json} (h : Refers name v) :
    attachmentReference? v = some name := by
  cases h with
  | bare => rfl
  | named hname =>
    rw [attachmentReference?, hname]
    rfl

theorem checkAttachment_alike (i : Nat) (name : String) (v v' : Json) (h : Refers name v)
    (h' : Refers name v') : checkAttachment i v = checkAttachment i v' := by
  rw [checkAttachment, checkAttachment, attachmentReference?_of_refers h,
    attachmentReference?_of_refers h']

theorem ofFields_alike
    (h : ∀ f ∈ spellings, f.shape.Alike (Wire.find? f.key o) (Wire.find? f.key o')) :
    ofFields o = ofFields o' := by
  simp only [spellings, List.forall_mem_cons] at h
  obtain ⟨hname, hstate, hcreator, hcreate, hupdate, hdisplay, hcontent, hsnippet, hvisibility,
    hpinned, hparent, htags, hattachments, hlocation, -⟩ := h
  simp only [ofFields, Wire.instant, Wire.instant?, checkLocation, Wire.required_alike hname,
    Wire.required_alike hstate, Wire.required_alike hcreator, Wire.required_alike hcreate,
    Wire.required_alike hupdate, Wire.optional_alike hdisplay, Wire.textOrEmpty_alike hcontent,
    Wire.textOrEmpty_alike hsnippet, Wire.required_alike hvisibility,
    Wire.boolOrFalse_alike hpinned, Wire.optional_alike hparent, Wire.items_alike htags,
    Wire.items_alike_of_refers hattachments checkAttachment_alike, Wire.object?_alike hlocation]

end Memo

namespace Attachment

def spellings : List Spelling := [
  ⟨.plain "name", .fixed⟩,
  ⟨⟨"createTime", "create_time"⟩, .fixed⟩,
  ⟨.plain "filename", .fixed⟩,
  ⟨.plain "type", .fixed⟩,
  ⟨.plain "size", .int64⟩,
  ⟨⟨"externalLink", "external_link"⟩, .text⟩,
  ⟨.plain "memo", .text⟩]

theorem ofFields_alike
    (h : ∀ f ∈ spellings, f.shape.Alike (Wire.find? f.key o) (Wire.find? f.key o')) :
    ofFields o = ofFields o' := by
  simp only [spellings, List.forall_mem_cons] at h
  obtain ⟨hname, hcreate, hfilename, htype, hsize, hlink, hmemo, -⟩ := h
  simp only [ofFields, Wire.instant, checkSize, Wire.required_alike hname,
    Wire.required_alike hcreate, Wire.required_alike hfilename, Wire.required_alike htype,
    Wire.int64OrZero_alike hsize, Wire.nonEmptyText?_alike hlink, Wire.optional_alike hmemo]

end Attachment

namespace User

def spellings : List Spelling := [
  ⟨.plain "name", .fixed⟩,
  ⟨.plain "username", .fixed⟩,
  ⟨.plain "email", .text⟩,
  ⟨.plain "nickname", .text⟩,
  ⟨⟨"avatarUrl", "avatar_url"⟩, .text⟩,
  ⟨.plain "description", .text⟩,
  ⟨.plain "role", .fixed⟩,
  ⟨⟨"createTime", "create_time"⟩, .fixed⟩,
  ⟨⟨"updateTime", "update_time"⟩, .fixed⟩]

theorem ofFields_alike
    (h : ∀ f ∈ spellings, f.shape.Alike (Wire.find? f.key o) (Wire.find? f.key o')) :
    ofFields o = ofFields o' := by
  simp only [spellings, List.forall_mem_cons] at h
  obtain ⟨hname, husername, hemail, hnickname, havatar, hdescription, hrole, hcreate, hupdate,
    -⟩ := h
  simp only [ofFields, Wire.instant, Wire.required_alike hname, Wire.required_alike husername,
    Wire.textOrEmpty_alike hemail, Wire.textOrEmpty_alike hnickname,
    Wire.textOrEmpty_alike havatar, Wire.textOrEmpty_alike hdescription,
    Wire.required_alike hrole, Wire.required_alike hcreate, Wire.required_alike hupdate]

end User

/-- All spellings of a memo, an attachment or a user are read alike: they come to one object, or
to one report of what is wrong with it. -/
theorem read_alike_respelled (o o' : Fields) :
    (SpellsAlike Memo.spellings o o' →
      (WireModel.ofWire (.object o) : Except ValidationError Memo) =
        WireModel.ofWire (.object o')) ∧
    (SpellsAlike Attachment.spellings o o' →
      (WireModel.ofWire (.object o) : Except ValidationError Attachment) =
        WireModel.ofWire (.object o')) ∧
    (SpellsAlike User.spellings o o' →
      (WireModel.ofWire (.object o) : Except ValidationError User) =
        WireModel.ofWire (.object o')) :=
  ⟨Wire.read_alike (by decide) fun _ _ => Memo.ofFields_alike,
    Wire.read_alike (by decide) fun _ _ => Attachment.ofFields_alike,
    Wire.read_alike (by decide) fun _ _ => User.ofFields_alike⟩

/-- The time under its other name, no mention of a link, and the size as a text: it is out of
range, which is told in the same words. -/
theorem read_alike_in_three_steps :
    let rest (size : Json) : Fields := [
      ("filename", .text "a.png"), ("name", .text "attachments/1"), ("size", size),
      ("type", .text "image/png")]
    let time := Json.text "2024-01-01T00:00:00Z"
    let camel := ("createTime", time) :: ("externalLink", .text "") :: rest (.num (.ofInt (-5)))
    let snake := ("create_time", time) :: rest (.text "-5")
    SpellsAlike Attachment.spellings camel snake ∧
      (WireModel.ofWire (.object camel) : Except ValidationError Attachment) =
        .error (.single "attachment" "size" "size must be non-negative, found -5") := by
  intro rest time camel snake
  let renamed := ("create_time", time) :: ("externalLink", .text "") :: rest (.num (.ofInt (-5)))
  let shortened := ("create_time", time) :: rest (.num (.ofInt (-5)))
  have hrename : Wire.Respelled Attachment.spellings camel renamed := by
    refine .field (f := ⟨⟨"createTime", "create_time"⟩, .fixed⟩) (by decide)
      (.inl ⟨rfl, fun _ => rfl⟩) (.inr ⟨rfl, fun _ => rfl⟩) .same fun name hname hother => ?_
    simp [camel, renamed, Json.lookup, hname.symm, hother.symm]
  have hshorten : Wire.Respelled Attachment.spellings renamed shortened := by
    refine .field (f := ⟨⟨"externalLink", "external_link"⟩, .text⟩) (by decide)
      (.inl ⟨rfl, fun _ => rfl⟩) (.inl ⟨rfl, fun _ => rfl⟩) (.omitted rfl) fun name hname _ => ?_
    simp [renamed, shortened, Json.lookup, hname.symm]
  have hsize : Shape.int64.Alike (some (.num (.ofInt (-5)))) (some (.text "-5")) := by
    have htext : intText (-5) = "-5" := by decide +kernel
    rw [← htext]
    exact .digits rfl (by decide)
  have hdigits : Wire.Respelled Attachment.spellings shortened snake := by
    refine .field (f := ⟨.plain "size", .int64⟩) (by decide) (.inl ⟨rfl, absurd rfl⟩)
      (.inl ⟨rfl, absurd rfl⟩) hsize fun name hname _ => ?_
    have hother : "size" ≠ name := hname.symm
    simp [shortened, snake, rest, Json.lookup, hother]
  have halike : SpellsAlike Attachment.spellings camel snake :=
    .trans _ _ _ (.rel _ _ hrename) (.trans _ _ _ (.rel _ _ hshorten) (.rel _ _ hdigits))
  have hsnake : Attachment.ofFields snake =
      .violation "size" "size must be non-negative, found -5" := by decide +kernel
  refine ⟨halike, ((read_alike_respelled camel snake).2.1 halike).trans ?_⟩
  exact congrArg (Checked.toExcept "attachment") hsnake

end RemoteNotes
