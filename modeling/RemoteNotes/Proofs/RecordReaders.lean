import RemoteNotes.Json.Form
import RemoteNotes.Proofs.Skipping

/-!
# Readers of records

A record is read from an object with its members in any order, or from a list of its parts.
What a record is read from is said in terms of the grammar, given what the forms of its parts
take (`takes_record`).
-/

namespace RemoteNotes.Json

open Reader (past quoteMark comma openList closeList openObject closeObject)
open Text.Utf8 (Octets)

namespace Grammar

-- ---------------------------------------------------------------------------
-- Objects
-- ---------------------------------------------------------------------------

/-- What stands in front of an element: nothing but blanks, or a comma unless it is the first. -/
def Separated (first : Bool) (bs mid : Octets) : Prop :=
  if first then past bs = mid else ∃ m, past bs = comma :: m ∧ past m = mid

/-- A member of an object: its name, and its value as the octets from its start and those
behind it. -/
structure Member where
  name : String
  value : Octets
  behind : Octets

inductive Members : (first : Bool) → List Member → Octets → Octets → Prop
  | close {first bs rest} : past bs = closeObject :: rest → Members first [] bs rest
  | member {first bs start name mid value behind ms rest} :
    Separated first bs (quoteMark :: start) → IsText name start mid → past mid = 0x3A :: value →
    Stands .value value behind → Members false ms behind rest →
    Members first (⟨name, value, behind⟩ :: ms) bs rest

theorem Separated.length_le {first : Bool} {bs mid : Octets} (h : Separated first bs mid) :
    mid.length ≤ bs.length := by
  cases first with
  | true =>
    obtain rfl : past bs = mid := h
    exact length_past_le _
  | false =>
    obtain ⟨m, hcomma, rfl⟩ : ∃ m, past bs = comma :: m ∧ past m = mid := h
    exact Nat.le_trans (length_past_le _) (Nat.le_of_lt (shorter_of_past hcomma))

/-- A value does not start with the octet that closes a list. -/
theorem Separated.starts {first : Bool} {bs mid rest : Octets} (h : Separated first bs mid)
    (hvalue : Stands .value mid rest) : ∃ b m, b ≠ closeList ∧ mid = b :: m := by
  have hpast : past mid = mid := by
    cases first with
    | true =>
      obtain rfl : past bs = mid := h
      exact past_past _
    | false =>
      obtain ⟨m, -, rfl⟩ : ∃ m, past bs = comma :: m ∧ past m = mid := h
      exact past_past _
  cases mid with
  | nil => exact absurd hpast hvalue.past_ne_nil
  | cons b m => exact ⟨b, m, ne_closeList_of_stands hpast hvalue, rfl⟩

theorem member_shorter {first : Bool} {name : String} {bs start mid value behind : Octets}
    (hseparated : Separated first bs (quoteMark :: start)) (hname : IsText name start mid)
    (hcolon : past mid = 0x3A :: value) (hvalue : Stands .value value behind) :
    behind.length < bs.length := by
  obtain ⟨w, hspells, -⟩ := hname
  have h₁ := hseparated.length_le
  have h₂ := hspells.shorter
  have h₃ := shorter_of_past hcolon
  have h₄ := hvalue.shorter
  rw [List.length_cons] at h₁
  omega

/-- A null, or a value of some kind behind the blanks. -/
def HoldsOptional {α : Type} (holds : α → Octets → Octets → Prop) :
    Option α → Octets → Octets → Prop
  | none, bs, rest => past bs = 0x6E :: 0x75 :: 0x6C :: 0x6C :: rest
  | some a, bs, rest => holds a (past bs) rest

theorem holdsOptional_past {α : Type} {holds : α → Octets → Octets → Prop} {o : Option α}
    {bs rest : Octets} : HoldsOptional holds o (past bs) rest ↔ HoldsOptional holds o bs rest := by
  cases o <;> simp only [HoldsOptional, past_past]

def IsTextValue (s : String) (bs rest : Octets) : Prop :=
  ∃ mid, bs = quoteMark :: mid ∧ IsText s mid rest

/-- A text that may be null. -/
def HoldsText : Option String → Octets → Octets → Prop
  | none, bs, rest => past bs = 0x6E :: 0x75 :: 0x6C :: 0x6C :: rest
  | some s, bs, rest => ∃ mid, past bs = quoteMark :: mid ∧ IsText s mid rest

theorem Escape.quoted {bs v mid rest : Octets} (h : Escape bs v mid) (hrest : Quoted mid rest) :
    Quoted (0x5C :: bs) rest := by
  cases h with
  | simple h => exact .escape (.simple h) hrest
  | numbered h =>
    cases h with
    | unit h => exact .escape (.numbered h) hrest
    | pair h _ h' => exact .escape (.numbered h) (.escape (.numbered h') hrest)

theorem Spells.quoted {bs w rest : Octets} (h : Spells bs w rest) : Quoted bs rest := by
  induction h with
  | close => exact .close
  | plain hquote hback hplain _ ih => exact .plain hquote hback hplain ih
  | escape hescape _ ih => exact hescape.quoted ih

theorem HoldsText.stands {o : Option String} {bs rest : Octets} (h : HoldsText o bs rest) :
    Stands .value bs rest := by
  cases o with
  | none => exact .null h
  | some s =>
    obtain ⟨mid, hpast, w, hspells, -⟩ := h
    exact .text hpast hspells.quoted

theorem holdsText_past {o : Option String} {bs rest : Octets} :
    HoldsText o (past bs) rest ↔ HoldsText o bs rest := by
  cases o <;> simp only [HoldsText, past_past]

end Grammar

namespace Reader

open Grammar

variable {c : Cursor} {rest : Octets}

-- ---------------------------------------------------------------------------
-- Elements and brackets
-- ---------------------------------------------------------------------------

/-- Nothing is taken but a comma in front of another item. -/
theorem takes_hasItem {first more : Bool} :
    Takes (hasItem first) c more rest ↔
      if more then ∃ b bs, b ≠ closeList ∧ Separated first c.rest (b :: bs) ∧ b :: bs = rest
      else ∃ bs, past c.rest = closeList :: bs ∧ closeList :: bs = rest := by
  unfold hasItem
  rw [takes_peekPastBlanks_bind]
  rcases hpast : past c.rest with _ | ⟨b, bs⟩
  · cases more <;> cases first <;> simp [Separated, hpast]
  have hrest : c.pastBlanks.rest = b :: bs := c.pastBlanks_rest.trans hpast
  by_cases hclose : b = closeList
  · have hne : closeList ≠ comma := by decide
    cases more <;> cases first <;> simp_all [Separated]
  cases first with
  | true => cases more <;> simp_all [Separated]
  | false =>
    by_cases hcomma : b = comma
    · rcases hnext : past bs with _ | ⟨b', bs'⟩
      · cases more <;> simp_all [Separated]
      · by_cases hclose' : b' = closeList <;> cases more <;> simp_all [Separated]
    · cases more <;> simp_all [Separated]

theorem takes_hasItem_true {first : Bool} :
    Takes (hasItem first) c true rest ↔
      ∃ b bs, b ≠ closeList ∧ Separated first c.rest (b :: bs) ∧ b :: bs = rest := takes_hasItem

theorem takes_hasItem_false {first : Bool} :
    Takes (hasItem first) c false rest ↔
      ∃ bs, past c.rest = closeList :: bs ∧ closeList :: bs = rest := takes_hasItem

/-- Nothing is taken but a comma in front of another field. -/
theorem takes_hasField {first more : Bool} :
    Takes (hasField first) c more rest ↔
      if more then ∃ bs, Separated first c.rest (quoteMark :: bs) ∧ quoteMark :: bs = rest
      else ∃ bs, past c.rest = closeObject :: bs ∧ closeObject :: bs = rest := by
  have hbrace : closeObject ≠ quoteMark := by decide
  unfold hasField
  rw [takes_peekPastBlanks_bind]
  rcases hpast : past c.rest with _ | ⟨b, bs⟩
  · cases more <;> cases first <;> simp [Separated, hpast]
  have hrest : c.pastBlanks.rest = b :: bs := c.pastBlanks_rest.trans hpast
  by_cases hclose : b = closeObject
  · have hne : closeObject ≠ comma := by decide
    cases more <;> cases first <;> simp_all [Separated]
  cases first with
  | true => by_cases hquote : b = quoteMark <;> cases more <;> simp_all [Separated]
  | false =>
    by_cases hcomma : b = comma
    · rcases hnext : past bs with _ | ⟨b', bs'⟩
      · cases more <;> simp_all [Separated]
      · by_cases hquote : b' = quoteMark
        · cases more <;> simp_all [Separated]
        · by_cases hclose' : b' = closeObject <;> cases more <;> simp_all [Separated]
    · cases more <;> simp_all [Separated]

theorem takes_hasField_true {first : Bool} :
    Takes (hasField first) c true rest ↔
      ∃ bs, Separated first c.rest (quoteMark :: bs) ∧ quoteMark :: bs = rest := takes_hasField

theorem takes_hasField_false {first : Bool} :
    Takes (hasField first) c false rest ↔
      ∃ bs, past c.rest = closeObject :: bs ∧ closeObject :: bs = rest := takes_hasField

theorem takes_key {s : String} : Takes key c s rest ↔ IsText s c.rest.tail rest := by
  unfold key
  rw [takes_eat_bind, takes_textBody, Cursor.tail_rest]

theorem takes_endObject {u : Unit} :
    Takes endObject c u rest ↔ past c.rest = closeObject :: rest := by
  unfold endObject
  rw [takes_peekPastBlanks_bind]
  rcases hpast : past c.rest with _ | ⟨b, bs⟩
  · simp
  · by_cases hclose : b = closeObject
    · simp [hclose, hpast]
    · simp [hclose]

theorem takes_endList {u : Unit} : Takes endList c u rest ↔ past c.rest = closeList :: rest := by
  unfold endList
  rw [takes_peekPastBlanks_bind]
  rcases hpast : past c.rest with _ | ⟨b, bs⟩
  · simp
  · by_cases hclose : b = closeList
    · simp [hclose, hpast]
    by_cases hcomma : b = comma
    · have hrest := Cursor.tail_of_cons (c.pastBlanks_rest.trans hpast)
      rcases hnext : past bs with _ | ⟨b', bs'⟩
      · simp_all
      · by_cases hclose' : b' = closeList <;> simp_all
    · simp [hclose, hcomma]

theorem takes_atEnd {u : Unit} : Takes atEnd c u rest ↔ past c.rest = [] ∧ rest = [] := by
  unfold atEnd
  rw [takes_peekPastBlanks_bind]
  rcases hpast : past c.rest with _ | ⟨b, bs⟩
  · simp [hpast, eq_comm]
  · simp

end Reader

/-- A document is what a reader takes, and blanks behind it. -/
theorem readOctets_eq_ok {α : Type} {r : Reader α} {bs : Octets} {a : α} :
    readOctets r bs = .ok a ↔ ∃ rest, r.Takes ⟨bs, ⟨1, 0⟩⟩ a rest ∧ past rest = [] := by
  have hrun : readOctets r bs = .ok a ↔
      ∃ rest, Reader.Takes (do let a ← r; Reader.atEnd; return a) ⟨bs, ⟨1, 0⟩⟩ a rest := by
    constructor
    · intro h
      exact ⟨_, _, Prod.ext h rfl, rfl⟩
    · rintro ⟨rest, c', h, -⟩
      exact congrArg Prod.fst h
  rw [hrun]
  constructor
  · rintro ⟨rest, h⟩
    obtain ⟨_, c₁, hr, h⟩ := Reader.takes_of_bind h
    obtain ⟨_, c₂, hend, h⟩ := Reader.takes_of_bind h
    obtain ⟨rfl, -⟩ := Reader.takes_pure.mp h
    exact ⟨c₁.rest, hr, (Reader.takes_atEnd.mp hend).1⟩
  · rintro ⟨rest, hr, hend⟩
    refine ⟨[], hr.bind fun c₁ h₁ => ?_⟩
    refine Reader.Takes.bind (a := ()) (Reader.takes_atEnd.mpr ⟨h₁ ▸ hend, rfl⟩) fun c₂ h₂ => ?_
    exact Reader.takes_pure.mpr ⟨rfl, h₂⟩

theorem readText_eq_ok {α : Type} {r : Reader α} {s : String} {a : α} :
    readText r s = .ok a ↔
      ∃ rest, r.Takes ⟨Text.Utf8.ofString s, ⟨1, 0⟩⟩ a rest ∧ past rest = [] := readOctets_eq_ok

namespace Form

open Grammar Reader

variable {α β σ : Type} {c : Cursor} {rest : Octets}

theorem takes_firstOctet_bind {f : UInt8 → Reader β} {b : β} :
    Takes (firstOctet >>= f) c b rest ↔
      ∃ o bs, past c.rest = o :: bs ∧ Takes (f o) c.pastBlanks b rest := by
  unfold firstOctet
  rw [bind_assoc, takes_peekPastBlanks_bind]
  rcases past c.rest with _ | ⟨o, bs⟩
  · simp
  · simp

theorem not_takes_mismatch {expected : String} {a : α} :
    ¬Takes (mismatch expected : Reader α) c a rest := by
  unfold mismatch
  rw [takes_peek_bind]
  rcases c.rest.head? with _ | b
  · exact not_takes_failAtNext
  dsimp only
  rcases scalar? b with _ | r
  · simp
  · intro h
    obtain ⟨v, c', -, h⟩ := takes_of_bind h
    simp at h

@[simp] theorem takes_judged {result : Except Cause α} {a : α} :
    Takes (judged result) c a rest ↔ result = .ok a ∧ c.rest = rest := by
  unfold judged
  cases result <;> simp

theorem takes_textBy {expected : String} {parse : String → Except Cause α} {a : α} :
    Takes (textBy expected parse).ofText c a rest ↔
      ∃ s mid, past c.rest = quoteMark :: mid ∧ IsText s mid rest ∧ parse s = .ok a := by
  show Takes (do
    if (← firstOctet) == quoteMark then
      eat
      judged (parse (← textBody))
    else mismatch expected) c a rest ↔ _
  rw [takes_firstOctet_bind]
  constructor
  · rintro ⟨b, bs, hpast, h⟩
    have htail := Cursor.tail_of_cons (c.pastBlanks_rest.trans hpast)
    by_cases hquote : b = quoteMark
    · rw [if_pos (beq_iff_eq.mpr hquote), takes_eat_bind] at h
      obtain ⟨s, c', hs, h⟩ := takes_of_bind h
      rw [takes_textBody, htail] at hs
      obtain ⟨hparse, rfl⟩ := takes_judged.mp h
      exact ⟨s, bs, hquote ▸ hpast, hs, hparse⟩
    · rw [if_neg (mt beq_iff_eq.mp hquote)] at h
      exact absurd h not_takes_mismatch
  · rintro ⟨s, mid, hpast, hs, hparse⟩
    have htail := Cursor.tail_of_cons (c.pastBlanks_rest.trans hpast)
    refine ⟨_, _, hpast, ?_⟩
    rw [if_pos (beq_self_eq_true _), takes_eat_bind]
    refine Takes.bind (takes_textBody.mpr (htail ▸ hs)) fun c' h' => ?_
    exact takes_judged.mpr ⟨hparse, h'⟩

/-- A form whose values do not start like a null is told from one by the first octet. -/
theorem takes_optional {form : Form α} {holds : α → Octets → Octets → Prop}
    (htakes : ∀ {c a rest}, Takes form.ofText c a rest ↔ holds a (past c.rest) rest)
    (hnull : ∀ {a bs rest}, ¬holds a (0x6E :: bs) rest) {o : Option α} :
    Takes (optional form).ofText c o rest ↔ HoldsOptional holds o c.rest rest := by
  show Takes (do
    if (← peekPastBlanks) == some 0x6E then do eat; identNull; return none
    else return some (← form.ofText)) c o rest ↔ _
  have hpast := c.pastBlanks_rest
  rw [takes_peekPastBlanks_bind]
  by_cases hstart : (past c.rest).head? = some 0x6E
  · obtain ⟨bs, hbs⟩ := List.head?_eq_some_iff.mp hstart
    have htail := Cursor.tail_of_cons (hpast.trans hbs)
    rw [if_pos (beq_iff_eq.mpr hstart), takes_eat_bind]
    constructor
    · intro h
      obtain ⟨_, c', hident, h⟩ := takes_of_bind h
      rw [identNull, takes_ident, htail] at hident
      obtain ⟨rfl, rfl⟩ := takes_pure.mp h
      exact hbs.trans (congrArg _ hident)
    · intro h
      cases o with
      | none =>
        have hident := (List.cons.inj (hbs.symm.trans h)).2
        refine Takes.bind (a := ()) (takes_ident.mpr (htail.trans hident)) fun c' h' => ?_
        exact takes_pure.mpr ⟨rfl, h'⟩
      | some a =>
        rw [HoldsOptional, hbs] at h
        exact absurd h hnull
  · rw [if_neg (mt beq_iff_eq.mp hstart)]
    constructor
    · intro h
      obtain ⟨a, c', ha, h⟩ := takes_of_bind h
      obtain ⟨rfl, rfl⟩ := takes_pure.mp h
      rwa [htakes, hpast, past_past] at ha
    · intro h
      cases o with
      | none => exact absurd (by rw [h]; rfl) hstart
      | some a =>
        rw [HoldsOptional, ← past_past, ← hpast] at h
        exact (htakes.mpr h).bind fun c' h' => takes_pure.mpr ⟨rfl, h'⟩

theorem takes_optionalText {o : Option String} :
    Takes (optional text).ofText c o rest ↔ HoldsText o c.rest rest := by
  have htakes {c : Cursor} {s : String} {rest : Octets} :
      Takes text.ofText c s rest ↔ IsTextValue s (past c.rest) rest := by
    simp [text, takes_textBy, IsTextValue]
  have hnull {s : String} {bs rest : Octets} : ¬IsTextValue s (0x6E :: bs) rest := by
    rintro ⟨_, h, -⟩
    exact absurd (List.cons.inj h).1 (by decide)
  rw [takes_optional htakes hnull]
  cases o <;> rfl

theorem takes_formMap {form : Form α} {f : α → β} {b : β} :
    Takes (form.map f).ofText c b rest ↔ ∃ a, Takes form.ofText c a rest ∧ f a = b := by
  unfold Form.map
  rw [bind_pure_comp, takes_map]

-- ---------------------------------------------------------------------------
-- Records
-- ---------------------------------------------------------------------------

/-- What the parts of a layout take from a value, and that it is a value. -/
structure Layout.Parts (l : Layout σ α) (holds : Field σ → (σ → σ) → Octets → Octets → Prop) :
    Prop where
  takes : ∀ f ∈ l.fields, ∀ {c : Cursor} {put rest},
    Takes f.form.ofText c put rest ↔ holds f put c.rest rest
  stands : ∀ f ∈ l.fields, ∀ {put bs rest}, holds f put bs rest → Stands .value bs rest

/-- What becomes of a draft along the members of an object. -/
inductive Layout.Gathers (l : Layout σ α) (holds : Field σ → (σ → σ) → Octets → Octets → Prop) :
    List String → σ → List Member → σ → Prop
  | done {seen draft} : Gathers l holds seen draft [] draft
  | passed {seen draft m ms result} : l.resolve seen m.name = .ok none →
    Gathers l holds seen draft ms result → Gathers l holds seen draft (m :: ms) result
  | stored {seen draft m ms result f put} : l.resolve seen m.name = .ok (some f) →
    holds f put m.value m.behind → Gathers l holds (f.name :: seen) (put draft) ms result →
    Gathers l holds seen draft (m :: ms) result

theorem Layout.mem_of_resolve {l : Layout σ α} {seen : List String} {name : String} {f : Field σ}
    (h : l.resolve seen name = .ok (some f)) : f ∈ l.fields := by
  unfold Layout.resolve at h
  split at h
  · next g hfind =>
    split at h
    · cases h
    · cases h
      exact List.mem_of_find?_eq_some hfind
  · split at h <;> cases h

variable {l : Layout σ α} {holds : Field σ → (σ → σ) → Octets → Octets → Prop}

theorem Layout.gathers_nil_iff {seen : List String} {draft result : σ} :
    l.Gathers holds seen draft [] result ↔ draft = result := by
  constructor
  · rintro ⟨⟩
    rfl
  · rintro rfl
    exact .done

theorem Layout.gathers_cons_iff {seen : List String} {draft result : σ} {m : Member}
    {ms : List Member} :
    l.Gathers holds seen draft (m :: ms) result ↔
      l.resolve seen m.name = .ok none ∧ l.Gathers holds seen draft ms result ∨
        ∃ f put, l.resolve seen m.name = .ok (some f) ∧ holds f put m.value m.behind ∧
          l.Gathers holds (f.name :: seen) (put draft) ms result := by
  constructor
  · intro h
    cases h with
    | passed hresolve h => exact .inl ⟨hresolve, h⟩
    | stored hresolve hput h => exact .inr ⟨_, _, hresolve, hput, h⟩
  · rintro (⟨hresolve, h⟩ | ⟨f, put, hresolve, hput, h⟩)
    · exact .passed hresolve h
    · exact .stored hresolve hput h

/-- In an open layout of one part, one member at most answers to the part, and it is stored. -/
theorem Layout.gathers_single_iff {f : Field σ} (hfields : l.fields = [f])
    (hopen : l.closed = false) {seen : List String} {draft result : σ} {ms : List Member} :
    l.Gathers holds seen draft ms result ↔
      ms.filter (fun m => f.answersTo m.name) = [] ∧ draft = result ∨
        f.name ∉ seen ∧ ∃ m put, ms.filter (fun m => f.answersTo m.name) = [m] ∧
          holds f put m.value m.behind ∧ put draft = result := by
  induction ms generalizing seen draft with
  | nil => simp [gathers_nil_iff]
  | cons m ms ih =>
    rw [gathers_cons_iff]
    by_cases hname : f.answersTo m.name = true
    · by_cases hseen : f.name ∈ seen
      · have hresolve : l.resolve seen m.name = .error (.duplicateField f.name) := by
          simp [resolve, hfields, hname, hseen]
        simp [hresolve, hname, hseen]
      · have hresolve : l.resolve seen m.name = .ok (some f) := by
          simp [resolve, hfields, hname, hseen]
        simp [hresolve, hname, hseen, ih, and_left_comm]
    · have hresolve : l.resolve seen m.name = .ok none := by
        simp [resolve, hfields, hname, hopen]
      simp [hresolve, hname, ih]

theorem takes_fieldsFrom (hparts : l.Parts holds) {fuel : Nat} {first : Bool} {seen : List String}
    {draft result : σ} (hfuel : c.rest.length < fuel) :
    Takes (l.fieldsFrom fuel first seen draft) c result rest ↔
      ∃ ms behind, Members first ms c.rest behind ∧ l.Gathers holds seen draft ms result ∧
        closeObject :: behind = rest := by
  induction fuel generalizing c first seen draft with
  | zero => omega
  | succ fuel ih =>
    unfold Layout.fieldsFrom
    constructor
    · intro h
      obtain ⟨more, c₁, hmore, h⟩ := takes_of_bind h
      cases more with
      | false =>
        rw [takes_hasField_false] at hmore
        obtain ⟨behind, hpast, hbehind⟩ := hmore
        obtain ⟨rfl, rfl⟩ := takes_pure.mp h
        exact ⟨[], behind, .close hpast, .done, hbehind⟩
      | true =>
        rw [takes_hasField_true] at hmore
        obtain ⟨start, hseparated, hstart⟩ := hmore
        rw [if_pos rfl] at h
        obtain ⟨name, c₂, hname, h⟩ := takes_of_bind h
        rw [takes_key, ← hstart, List.tail_cons] at hname
        split at h
        · exact absurd h not_takes_refuse
        · next hresolve =>
          obtain ⟨_, c₃, hcolon, h⟩ := takes_of_bind h
          obtain ⟨_, c₄, hvalue, h⟩ := takes_of_bind h
          rw [takes_colon] at hcolon
          rw [takes_skip] at hvalue
          have hshort := member_shorter hseparated hname hcolon hvalue
          obtain ⟨ms, behind, hms, hgathers, rfl⟩ := (ih (by omega)).mp h
          exact ⟨_, behind, .member hseparated hname hcolon hvalue hms,
            .passed hresolve hgathers, rfl⟩
        · next f hresolve =>
          obtain ⟨_, c₃, hcolon, h⟩ := takes_of_bind h
          obtain ⟨put, c₄, hput, h⟩ := takes_of_bind h
          rw [takes_colon] at hcolon
          have hf := Layout.mem_of_resolve hresolve
          rw [hparts.takes f hf] at hput
          have hvalue := hparts.stands f hf hput
          have hshort := member_shorter hseparated hname hcolon hvalue
          obtain ⟨ms, behind, hms, hgathers, rfl⟩ := (ih (by omega)).mp h
          exact ⟨_, behind, .member hseparated hname hcolon hvalue hms,
            .stored hresolve hput hgathers, rfl⟩
    · rintro ⟨ms, behind, hms, hgathers, rfl⟩
      cases hms with
      | close hpast =>
        cases hgathers
        refine Takes.bind (takes_hasField_false.mpr ⟨_, hpast, rfl⟩) fun c₁ h₁ => ?_
        exact takes_pure.mpr ⟨rfl, h₁⟩
      | @member _ _ _ _ _ _ next _ _ hseparated hname hcolon hvalue hms =>
        have hless (c' : Cursor) (h : c'.rest = next) : c'.rest.length < fuel := by
          have := member_shorter hseparated hname hcolon hvalue
          rw [h]
          omega
        refine Takes.bind (takes_hasField_true.mpr ⟨_, hseparated, rfl⟩) fun c₁ h₁ => ?_
        refine Takes.bind (takes_key.mpr (by rw [h₁]; exact hname)) fun c₂ h₂ => ?_
        cases hgathers with
        | passed hresolve hgathers =>
          rw [hresolve]
          refine Takes.bind (a := ()) (takes_colon.mpr (h₂ ▸ hcolon)) fun c₃ h₃ => ?_
          refine Takes.bind (a := ()) (takes_skip.mpr (h₃ ▸ hvalue)) fun c₄ h₄ => ?_
          exact (ih (hless c₄ h₄)).mpr ⟨_, _, h₄ ▸ hms, hgathers, rfl⟩
        | stored hresolve hput hgathers =>
          rw [hresolve]
          refine Takes.bind (a := ()) (takes_colon.mpr (h₂ ▸ hcolon)) fun c₃ h₃ => ?_
          have hf := Layout.mem_of_resolve hresolve
          refine Takes.bind ((hparts.takes _ hf).mpr (h₃ ▸ hput)) fun c₄ h₄ => ?_
          exact (ih (hless c₄ h₄)).mpr ⟨_, _, h₄ ▸ hms, hgathers, rfl⟩

/-- What becomes of a draft along a list of parts in their order. -/
inductive Layout.Lists (holds : Field σ → (σ → σ) → Octets → Octets → Prop) :
    Bool → List (Field σ) → σ → Octets → σ → Octets → Prop
  | done {first draft bs} : Lists holds first [] draft bs draft bs
  | part {first f fs draft bs mid mid' put result rest} : Separated first bs mid →
    holds f put mid mid' → Lists holds false fs (put draft) mid' result rest →
    Lists holds first (f :: fs) draft bs result rest
  | short {first f fs draft bs mid result rest} : f.mayEndBefore = true →
    past bs = closeList :: mid → Lists holds first fs draft (closeList :: mid) result rest →
    Lists holds first (f :: fs) draft bs result rest

/-- A list of one part that has to be there. -/
theorem Layout.lists_single_iff {f : Field σ} (hneeded : f.mayEndBefore = false) {draft result : σ}
    {bs rest : Octets} :
    Layout.Lists holds true [f] draft bs result rest ↔
      ∃ put, holds f put (past bs) rest ∧ put draft = result := by
  constructor
  · intro h
    cases h with
    | part hseparated hput h =>
      obtain rfl : past bs = _ := hseparated
      cases h
      exact ⟨_, hput, rfl⟩
    | short hend => exact absurd (hneeded.symm.trans hend) Bool.false_ne_true
  · rintro ⟨put, hput, rfl⟩
    exact .part rfl hput .done

theorem takes_itemsFrom {fs : List (Field σ)}
    (htakes : ∀ f ∈ fs, ∀ {c : Cursor} {put rest},
      Takes f.form.ofText c put rest ↔ holds f put c.rest rest)
    (hstands : ∀ f ∈ fs, ∀ {put bs rest}, holds f put bs rest → Stands .value bs rest)
    {first : Bool} {index : Nat} {draft result : σ} :
    Takes (l.itemsFrom first index fs draft) c result rest ↔
      Layout.Lists holds first fs draft c.rest result rest := by
  induction fs generalizing c first index draft with
  | nil =>
    unfold Layout.itemsFrom
    rw [takes_pure]
    constructor
    · rintro ⟨rfl, rfl⟩
      exact .done
    · rintro ⟨⟩
      exact ⟨rfl, rfl⟩
  | cons f fs ih =>
    rw [List.forall_mem_cons] at htakes hstands
    unfold Layout.itemsFrom
    constructor
    · intro h
      obtain ⟨more, c₁, hmore, h⟩ := takes_of_bind h
      cases more with
      | true =>
        rw [takes_hasItem_true] at hmore
        obtain ⟨b, bs, -, hseparated, hstart⟩ := hmore
        rw [if_pos rfl] at h
        obtain ⟨put, c₂, hput, h⟩ := takes_of_bind h
        exact .part (hstart ▸ hseparated) (htakes.1.mp hput) ((ih htakes.2 hstands.2).mp h)
      | false =>
        rw [takes_hasItem_false] at hmore
        obtain ⟨bs, hpast, hstart⟩ := hmore
        rw [if_neg Bool.false_ne_true, takes_ite] at h
        split at h
        · next hend => exact .short hend hpast (hstart ▸ (ih htakes.2 hstands.2).mp h)
        · exact absurd h not_takes_refuse
    · intro h
      cases h with
      | part hseparated hput hlists =>
        obtain ⟨b, m, hne, rfl⟩ := hseparated.starts (hstands.1 hput)
        refine Takes.bind (takes_hasItem_true.mpr ⟨b, m, hne, hseparated, rfl⟩) fun c₁ h₁ => ?_
        rw [if_pos rfl]
        refine Takes.bind (htakes.1.mpr (h₁ ▸ hput)) fun c₂ h₂ => ?_
        exact (ih htakes.2 hstands.2).mpr (h₂ ▸ hlists)
      | short hend hpast hlists =>
        refine Takes.bind (takes_hasItem_false.mpr ⟨_, hpast, rfl⟩) fun c₁ h₁ => ?_
        rw [if_neg Bool.false_ne_true, if_pos hend]
        exact (ih htakes.2 hstands.2).mpr (h₁ ▸ hlists)

/-- What a record is read from. -/
inductive Layout.Stored (l : Layout σ α) (holds : Field σ → (σ → σ) → Octets → Octets → Prop)
    (a : α) (bs rest : Octets) : Prop
  | object {mid ms draft} : past bs = openObject :: mid → Members true ms mid rest →
    l.Gathers holds [] l.start ms draft → l.finish draft = .ok a → Stored l holds a bs rest
  | list {mid mid' draft} : past bs = openList :: mid →
    Lists holds true l.fields l.start mid draft mid' → past mid' = closeList :: rest →
    l.finish draft = .ok a → Stored l holds a bs rest

@[simp] theorem takes_finished {draft : σ} {a : α} :
    Takes (l.finished draft) c a rest ↔ l.finish draft = .ok a ∧ c.rest = rest := by
  unfold Layout.finished
  cases l.finish draft <;> simp

/-- The members of an object and the closing brace. -/
theorem takes_members (hparts : l.Parts holds) {a : α} :
    Takes (enclosed (do l.finished (← l.fieldsFrom ((← remaining) + 1) true [] l.start))
      endObject) c a rest ↔
      ∃ ms draft, Members true ms c.rest rest ∧ l.Gathers holds [] l.start ms draft ∧
        l.finish draft = .ok a := by
  rw [takes_enclosed]
  constructor
  · intro h
    obtain ⟨_, c₁, hinside, h⟩ := takes_of_bind h
    obtain ⟨_, c₂, hclose, h⟩ := takes_of_bind h
    obtain ⟨rfl, rfl⟩ := takes_pure.mp h
    rw [takes_remaining_bind] at hinside
    obtain ⟨draft, c₃, hfields, hfinish⟩ := takes_of_bind hinside
    rw [takes_fieldsFrom hparts (Nat.lt_succ_self _)] at hfields
    obtain ⟨ms, behind, hms, hgathers, hbehind⟩ := hfields
    obtain ⟨hfinish, hrest⟩ := takes_finished.mp hfinish
    rw [takes_endObject, ← hrest, ← hbehind] at hclose
    exact ⟨ms, draft, (List.cons.inj hclose).2 ▸ hms, hgathers, hfinish⟩
  · rintro ⟨ms, draft, hms, hgathers, hfinish⟩
    have hfields :=
      (takes_fieldsFrom hparts (Nat.lt_succ_self _)).mpr ⟨ms, rest, hms, hgathers, rfl⟩
    refine Takes.bind (a := a) (m := closeObject :: rest) ?_ fun c₁ h₁ => ?_
    · rw [takes_remaining_bind]
      exact hfields.bind fun c₂ h₂ => takes_finished.mpr ⟨hfinish, h₂⟩
    · refine Takes.bind (a := ()) (takes_endObject.mpr ?_) fun c₂ h₂ => takes_pure.mpr ⟨rfl, h₂⟩
      rw [h₁]
      rfl

/-- The parts of a list and the closing bracket. -/
theorem takes_parts (hparts : l.Parts holds) {a : α} :
    Takes (enclosed (do l.finished (← l.itemsFrom true 0 l.fields l.start)) endList) c a rest ↔
      ∃ mid draft, Layout.Lists holds true l.fields l.start c.rest draft mid ∧
        past mid = closeList :: rest ∧ l.finish draft = .ok a := by
  rw [takes_enclosed]
  constructor
  · intro h
    obtain ⟨_, c₁, hinside, h⟩ := takes_of_bind h
    obtain ⟨_, c₂, hclose, h⟩ := takes_of_bind h
    obtain ⟨rfl, rfl⟩ := takes_pure.mp h
    obtain ⟨draft, c₃, hitems, hfinish⟩ := takes_of_bind hinside
    obtain ⟨hfinish, hrest⟩ := takes_finished.mp hfinish
    rw [takes_endList, ← hrest] at hclose
    exact ⟨_, draft, (takes_itemsFrom hparts.takes hparts.stands).mp hitems, hclose, hfinish⟩
  · rintro ⟨mid, draft, hlists, hclose, hfinish⟩
    refine Takes.bind (a := a) (m := mid) ?_ fun c₁ h₁ => ?_
    · refine Takes.bind ((takes_itemsFrom hparts.takes hparts.stands).mpr hlists) fun c₂ h₂ => ?_
      exact takes_finished.mpr ⟨hfinish, h₂⟩
    · refine Takes.bind (a := ()) (takes_endList.mpr (h₁ ▸ hclose)) fun c₂ h₂ => ?_
      exact takes_pure.mpr ⟨rfl, h₂⟩

theorem takes_record (hparts : l.Parts holds) {a : α} :
    Takes (record l).ofText c a rest ↔ l.Stored holds a c.rest rest := by
  unfold record
  dsimp only
  rw [takes_firstOctet_bind]
  constructor
  · rintro ⟨b, bs, hpast, h⟩
    have htail := Cursor.tail_of_cons (c.pastBlanks_rest.trans hpast)
    by_cases hobject : b = openObject
    · rw [if_pos (beq_iff_eq.mpr hobject), takes_eat_bind, takes_located, takes_members hparts,
        htail] at h
      obtain ⟨ms, draft, hms, hgathers, hfinish⟩ := h
      exact .object (hobject ▸ hpast) hms hgathers hfinish
    by_cases hlist : b = openList
    · rw [if_neg (mt beq_iff_eq.mp hobject), if_pos (beq_iff_eq.mpr hlist), takes_eat_bind,
        takes_located, takes_parts hparts, htail] at h
      obtain ⟨mid, draft, hlists, hclose, hfinish⟩ := h
      exact .list (hlist ▸ hpast) hlists hclose hfinish
    · rw [if_neg (mt beq_iff_eq.mp hobject), if_neg (mt beq_iff_eq.mp hlist)] at h
      exact absurd h not_takes_mismatch
  · intro h
    cases h with
    | object hpast hms hgathers hfinish =>
      have htail := Cursor.tail_of_cons (c.pastBlanks_rest.trans hpast)
      refine ⟨_, _, hpast, ?_⟩
      rw [if_pos (beq_self_eq_true _), takes_eat_bind, takes_located, takes_members hparts, htail]
      exact ⟨_, _, hms, hgathers, hfinish⟩
    | list hpast hlists hclose hfinish =>
      have htail := Cursor.tail_of_cons (c.pastBlanks_rest.trans hpast)
      refine ⟨_, _, hpast, ?_⟩
      rw [if_neg (by decide), if_pos (beq_self_eq_true _), takes_eat_bind, takes_located,
        takes_parts hparts, htail]
      exact ⟨_, _, hlists, hclose, hfinish⟩

end Form

end RemoteNotes.Json
