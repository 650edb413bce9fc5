import Mathlib.Data.List.DropRight
import RemoteNotes.Proofs.ReaderRules

/-!
# The grammar of JSON

What can stand at the front of some octets, and the octets behind it, without a reader. Texts
that are wanted are given by `IsText`, values that nobody asked for by `Stands`.
-/

namespace RemoteNotes.Json.Grammar

open Reader (past isDigitOctet isExponentMark hexOctet? isHighSurrogate isLowSurrogate
  simpleEscape? quoteMark comma openList closeList openObject closeObject)
open Text.Utf8 (Octets)

-- ---------------------------------------------------------------------------
-- Texts
-- ---------------------------------------------------------------------------

inductive Hex : Octets → Nat → Octets → Prop
  | digits {a b c d : UInt8} {i j k l : Nat} {rest} : hexOctet? a = some i →
    hexOctet? b = some j → hexOctet? c = some k → hexOctet? d = some l →
    Hex (a :: b :: c :: d :: rest) (((i * 16 + j) * 16 + k) * 16 + l) rest

theorem isLowSurrogate_of_isHighSurrogate {n : Nat} (h : isHighSurrogate n = true) :
    isLowSurrogate n = false := by
  simp only [isHighSurrogate, isLowSurrogate, Bool.and_eq_true, Bool.and_eq_false_iff,
    decide_eq_true_eq, decide_eq_false_iff_not] at *
  omega

def pairedChar (high low : Nat) : Char :=
  Char.ofNat (0x10000 + (high - 0xD800) * 0x400 + (low - 0xDC00))

/-- A character by its number, in one unit or in a pair of surrogates. -/
inductive Numbered : Octets → Char → Octets → Prop
  | unit {bs n rest} : Hex bs n rest → isLowSurrogate n = false → isHighSurrogate n = false →
    Numbered bs (Char.ofNat n) rest
  | pair {bs high bs' low rest} : Hex bs high (0x5C :: 0x75 :: bs') → isHighSurrogate high = true →
    Hex bs' low rest → isLowSurrogate low = true →
    Numbered bs (pairedChar high low) rest

/-- What stands behind a backslash, and the octets that it means. -/
inductive Escape : Octets → Octets → Octets → Prop
  | simple {b o rest} : simpleEscape? b = some o → Escape (b :: rest) [o] rest
  | numbered {bs ch rest} : Numbered bs ch rest →
    Escape (0x75 :: bs) (String.utf8EncodeChar ch) rest

/-- The text behind an opening quote up to the closing one, and the octets that it means. -/
inductive Spells : Octets → Octets → Octets → Prop
  | close {rest} : Spells (quoteMark :: rest) [] rest
  | plain {b bs w rest} : b ≠ quoteMark → b ≠ 0x5C → 0x20 ≤ b → Spells bs w rest →
    Spells (b :: bs) (b :: w) rest
  | escape {bs v mid w rest} : Escape bs v mid → Spells mid w rest →
    Spells (0x5C :: bs) (v ++ w) rest

section

variable {bs rest : Octets}

theorem Hex.shorter {n : Nat} (h : Hex bs n rest) : rest.length < bs.length := by
  cases h
  simp only [List.length_cons]
  omega

theorem Numbered.shorter {ch : Char} (h : Numbered bs ch rest) : rest.length < bs.length := by
  cases h with
  | unit hn => exact hn.shorter
  | pair hhigh _ hlow =>
    have := hhigh.shorter
    have := hlow.shorter
    simp only [List.length_cons] at *
    omega

theorem Escape.shorter {w : Octets} (h : Escape bs w rest) : rest.length < bs.length := by
  cases h with
  | simple => exact Nat.lt_succ_self _
  | numbered hch => exact Nat.lt_succ_of_lt hch.shorter

theorem Spells.shorter {w : Octets} (h : Spells bs w rest) : rest.length < bs.length := by
  induction h with
  | close => exact Nat.lt_succ_self _
  | plain _ _ _ _ ih => exact Nat.lt_succ_of_lt ih
  | escape hescape _ ih => exact Nat.lt_succ_of_lt (Nat.lt_trans ih hescape.shorter)

end

def IsText (s : String) (bs rest : Octets) : Prop :=
  ∃ w, Spells bs w rest ∧ Text.Utf8.decode? w = some s.toList

/-- What stands behind a backslash, where it need not mean a character. -/
inductive LooseEscape : Octets → Octets → Prop
  | simple {b o rest} : simpleEscape? b = some o → LooseEscape (b :: rest) rest
  | numbered {bs n rest} : Hex bs n rest → LooseEscape (0x75 :: bs) rest

/-- A text whose octets need not be characters. -/
inductive Quoted : Octets → Octets → Prop
  | close {rest} : Quoted (quoteMark :: rest) rest
  | plain {b bs rest} : b ≠ quoteMark → b ≠ 0x5C → 0x20 ≤ b → Quoted bs rest →
    Quoted (b :: bs) rest
  | escape {bs mid rest} : LooseEscape bs mid → Quoted mid rest → Quoted (0x5C :: bs) rest

theorem LooseEscape.shorter {bs rest : Octets} (h : LooseEscape bs rest) :
    rest.length < bs.length := by
  cases h with
  | simple => exact Nat.lt_succ_self _
  | numbered hn => exact Nat.lt_succ_of_lt hn.shorter

theorem Quoted.shorter {bs rest : Octets} (h : Quoted bs rest) : rest.length < bs.length := by
  induction h with
  | close => exact Nat.lt_succ_self _
  | plain _ _ _ _ ih => exact Nat.lt_succ_of_lt ih
  | escape hescape _ ih => exact Nat.lt_succ_of_lt (Nat.lt_trans ih hescape.shorter)

-- ---------------------------------------------------------------------------
-- Numbers
-- ---------------------------------------------------------------------------

/-- A zero counts as no octet of a kind. -/
theorem forall_head_iff {p : UInt8 → Bool} {bs : Octets} (hzero : p 0 = false) :
    (∀ b ∈ bs.head?, p b = false) ↔ p (bs.head?.getD 0) = false := by
  cases bs with
  | nil => simpa using hzero
  | cons b bs => simp

/-- One digit at least, and as many as there are. -/
def Digits (bs rest : Octets) : Prop :=
  (∃ b ∈ bs.head?, isDigitOctet b = true) ∧ bs.dropWhile isDigitOctet = rest

@[simp] theorem not_digits_nil {rest : Octets} : ¬Digits [] rest := by
  rintro ⟨⟨_, h, _⟩, _⟩
  cases h

@[simp] theorem digits_cons {b : UInt8} {bs rest : Octets} :
    Digits (b :: bs) rest ↔ isDigitOctet b = true ∧ bs.dropWhile isDigitOctet = rest := by
  simp only [Digits, List.head?_cons, Option.mem_some_iff, exists_eq_left']
  refine and_congr_right fun hb => ?_
  rw [List.dropWhile_cons_of_pos hb]

theorem digits_iff {bs rest : Octets} :
    Digits bs rest ↔
      (bs.takeWhile isDigitOctet).length ≠ 0 ∧ bs.dropWhile isDigitOctet = rest := by
  cases bs with
  | nil => simp
  | cons b bs =>
    rw [digits_cons]
    by_cases hb : isDigitOctet b = true
    · simp [hb]
    · simp [hb]

inductive Whole : Octets → Octets → Prop
  | zero {rest} : (∀ b ∈ rest.head?, isDigitOctet b = false) → Whole (0x30 :: rest) rest
  | digits {b bs rest} : b ≠ 0x30 → Digits (b :: bs) rest → Whole (b :: bs) rest

inductive Fraction : Octets → Octets → Prop
  | none {bs} : bs.head? ≠ some 0x2E → Fraction bs bs
  | digits {bs rest} : Digits bs rest → Fraction (0x2E :: bs) rest

inductive Exponent : Octets → Octets → Prop
  | none {bs} : (∀ b ∈ bs.head?, isExponentMark b = false) → Exponent bs bs
  | plain {e bs rest} : isExponentMark e = true → Digits bs rest → Exponent (e :: bs) rest
  | signed {e s bs rest} : isExponentMark e = true → s = 0x2B ∨ s = 0x2D → Digits bs rest →
    Exponent (e :: s :: bs) rest

theorem exponent_cons {e : UInt8} {bs rest : Octets} (he : isExponentMark e = true) :
    Exponent (e :: bs) rest ↔
      if bs.head?.getD 0 = 0x2B ∨ bs.head?.getD 0 = 0x2D then Digits bs.tail rest
      else Digits bs rest := by
  constructor
  · intro h
    cases h with
    | none hnone => simp [he] at hnone
    | plain _ h =>
      rw [if_neg]
      · exact h
      · obtain ⟨⟨b, hb, hdigit⟩, -⟩ := h
        rw [Option.mem_def] at hb
        rw [hb, Option.getD_some]
        rintro (rfl | rfl) <;> exact absurd hdigit (by decide)
    | signed _ hsign h => exact (if_pos hsign).symm ▸ h
  · intro h
    split at h
    · next hsign =>
      cases bs with
      | nil => exact absurd h not_digits_nil
      | cons s bs => exact .signed he hsign h
    · exact .plain he h

theorem exponent_of_unmarked {bs rest : Octets} (h : isExponentMark (bs.head?.getD 0) = false) :
    Exponent bs rest ↔ bs = rest := by
  constructor
  · intro hexponent
    cases hexponent with
    | none => rfl
    | plain he => simp [he] at h
    | signed he => simp [he] at h
  · rintro rfl
    exact .none ((forall_head_iff rfl).mpr h)

theorem fraction_point {bs rest : Octets} : Fraction (0x2E :: bs) rest ↔ Digits bs rest := by
  constructor
  · intro h
    cases h with
    | none hnone => exact absurd rfl hnone
    | digits h => exact h
  · exact .digits

theorem fraction_of_no_point {bs rest : Octets} (h : bs.head? ≠ some 0x2E) :
    Fraction bs rest ↔ bs = rest := by
  constructor
  · intro hfraction
    cases hfraction with
    | none => rfl
    | digits => exact absurd rfl h
  · rintro rfl
    exact .none h

/-- A number without a sign. -/
def Number (bs rest : Octets) : Prop :=
  ∃ mid mid', Whole bs mid ∧ Fraction mid mid' ∧ Exponent mid' rest

-- ---------------------------------------------------------------------------
-- Values
-- ---------------------------------------------------------------------------

/-- What can stand in a text: a value, or the rest of a list or of an object from its start or
from behind an item or a field, up to the closing bracket. -/
inductive Part
  | value
  | items (first : Bool)
  | fields (first : Bool)

/-- A quoted name and the colon behind it. -/
def Name (bs rest : Octets) : Prop :=
  ∃ mid mid', past bs = quoteMark :: mid ∧ Quoted mid mid' ∧ past mid' = 0x3A :: rest

inductive Stands : Part → Octets → Octets → Prop
  | null {bs rest} : past bs = 0x6E :: 0x75 :: 0x6C :: 0x6C :: rest → Stands .value bs rest
  | truth {bs rest} : past bs = 0x74 :: 0x72 :: 0x75 :: 0x65 :: rest → Stands .value bs rest
  | falsehood {bs rest} : past bs = 0x66 :: 0x61 :: 0x6C :: 0x73 :: 0x65 :: rest →
    Stands .value bs rest
  | number {bs rest} : Number (past bs) rest → Stands .value bs rest
  | negative {bs mid rest} : past bs = 0x2D :: mid → Number mid rest → Stands .value bs rest
  | text {bs mid rest} : past bs = quoteMark :: mid → Quoted mid rest → Stands .value bs rest
  | list {bs mid rest} : past bs = openList :: mid → Stands (.items true) mid rest →
    Stands .value bs rest
  | object {bs mid rest} : past bs = openObject :: mid → Stands (.fields true) mid rest →
    Stands .value bs rest
  | endList {first bs rest} : past bs = closeList :: rest → Stands (.items first) bs rest
  | firstItem {bs mid rest} : Stands .value bs mid → Stands (.items false) mid rest →
    Stands (.items true) bs rest
  | nextItem {bs mid mid' rest} : past bs = comma :: mid → Stands .value mid mid' →
    Stands (.items false) mid' rest → Stands (.items false) bs rest
  | endObject {first bs rest} : past bs = closeObject :: rest → Stands (.fields first) bs rest
  | firstField {bs mid mid' rest} : Name bs mid → Stands .value mid mid' →
    Stands (.fields false) mid' rest → Stands (.fields true) bs rest
  | nextField {bs mid mid' mid'' rest} : past bs = comma :: mid → Name mid mid' →
    Stands .value mid' mid'' → Stands (.fields false) mid'' rest → Stands (.fields false) bs rest

/-- The rounds that a reader of a part takes at most. A list or an object is opened before its
first part is read, which takes a round of its own. -/
def Part.rounds : Part → Octets → Nat
  | .value, bs => 2 * bs.length
  | .items _, bs | .fields _, bs => 2 * bs.length + 1

section

variable {bs rest : Octets}

theorem length_past_le (bs : Octets) : (past bs).length ≤ bs.length :=
  (List.dropWhile_suffix _).length_le

theorem shorter_of_past {b : UInt8} {mid : Octets} (h : past bs = b :: mid) :
    mid.length < bs.length := by
  have hlength := length_past_le bs
  rw [h, List.length_cons] at hlength
  exact hlength

theorem Digits.shorter (h : Digits bs rest) : rest.length < bs.length := by
  cases bs with
  | nil => exact absurd h not_digits_nil
  | cons b bs =>
    obtain ⟨-, rfl⟩ := digits_cons.mp h
    exact Nat.lt_succ_of_le (List.dropWhile_suffix _).length_le

theorem Number.shorter (h : Number bs rest) : rest.length < bs.length := by
  obtain ⟨mid, mid', hwhole, hfraction, hexponent⟩ := h
  have h₁ : mid.length < bs.length := by
    cases hwhole with
    | zero => exact Nat.lt_succ_self _
    | digits _ h => exact h.shorter
  have h₂ : mid'.length ≤ mid.length := by
    cases hfraction with
    | none => exact Nat.le_refl _
    | digits h => exact Nat.le_succ_of_le (Nat.le_of_lt h.shorter)
  have h₃ : rest.length ≤ mid'.length := by
    cases hexponent with
    | none => exact Nat.le_refl _
    | plain _ h => exact Nat.le_succ_of_le (Nat.le_of_lt h.shorter)
    | signed _ _ h =>
      have := h.shorter
      simp only [List.length_cons]
      omega
  omega

theorem Number.digit {b : UInt8} (h : Number (b :: bs) rest) : isDigitOctet b = true := by
  obtain ⟨_, _, hwhole, -, -⟩ := h
  cases hwhole with
  | zero => rfl
  | digits _ h => exact (digits_cons.mp h).1

theorem Name.shorter (h : Name bs rest) : rest.length < bs.length := by
  obtain ⟨mid, mid', hquote, hname, hcolon⟩ := h
  have h₁ := shorter_of_past hquote
  have h₂ := hname.shorter
  have h₃ := shorter_of_past hcolon
  omega

theorem Stands.shorter {part : Part} (h : Stands part bs rest) : rest.length < bs.length := by
  induction h with
  | null h | truth h | falsehood h =>
    have := shorter_of_past h
    simp only [List.length_cons] at this
    omega
  | number h => exact Nat.lt_of_lt_of_le h.shorter (length_past_le _)
  | negative h hnumber => exact Nat.lt_trans hnumber.shorter (shorter_of_past h)
  | text h htext => exact Nat.lt_trans htext.shorter (shorter_of_past h)
  | list h _ ih | object h _ ih => exact Nat.lt_trans ih (shorter_of_past h)
  | endList h | endObject h => exact shorter_of_past h
  | firstItem _ _ hvalue hitems => exact Nat.lt_trans hitems hvalue
  | nextItem h _ _ hvalue hitems =>
    exact Nat.lt_trans hitems (Nat.lt_trans hvalue (shorter_of_past h))
  | firstField hname _ _ hvalue hfields =>
    exact Nat.lt_trans hfields (Nat.lt_trans hvalue hname.shorter)
  | nextField h hname _ _ hvalue hfields =>
    exact Nat.lt_trans hfields
      (Nat.lt_trans hvalue (Nat.lt_trans hname.shorter (shorter_of_past h)))

theorem Stands.past_ne_nil {part : Part} (h : Stands part bs rest) : past bs ≠ [] := by
  induction h with
  | number h => exact fun hnil => absurd (hnil ▸ h).shorter (Nat.not_lt_zero _)
  | firstItem _ _ ih => exact ih
  | firstField h => exact fun hnil => by simp [Name, hnil] at h
  | _ => simp_all

theorem past_past (bs : Octets) : past (past bs) = past bs := List.dropWhile_idempotent _ _

/-- The first octet tells what kind of value it is. -/
theorem stands_value_iff {b : UInt8} {mid : Octets} (h : past bs = b :: mid) :
    Stands .value bs rest ↔
      b = 0x6E ∧ mid = 0x75 :: 0x6C :: 0x6C :: rest ∨
        b = 0x74 ∧ mid = 0x72 :: 0x75 :: 0x65 :: rest ∨
        b = 0x66 ∧ mid = 0x61 :: 0x6C :: 0x73 :: 0x65 :: rest ∨
        isDigitOctet b = true ∧ Number (b :: mid) rest ∨
        b = 0x2D ∧ Number mid rest ∨
        b = quoteMark ∧ Quoted mid rest ∨
        b = openList ∧ Stands (.items true) mid rest ∨
        b = openObject ∧ Stands (.fields true) mid rest := by
  constructor
  · intro hvalue
    cases hvalue with
    | number hnumber =>
      rw [h] at hnumber
      simp [hnumber, hnumber.digit]
    | _ hpast => simp_all
  · rintro (⟨rfl, rfl⟩ | ⟨rfl, rfl⟩ | ⟨rfl, rfl⟩ | ⟨-, hnumber⟩ | ⟨rfl, hnumber⟩ | ⟨rfl, htext⟩ |
      ⟨rfl, hitems⟩ | ⟨rfl, hfields⟩)
    · exact .null h
    · exact .truth h
    · exact .falsehood h
    · exact .number (h ▸ hnumber)
    · exact .negative h hnumber
    · exact .text h htext
    · exact .list h hitems
    · exact .object h hfields

theorem ne_closeList_of_stands {b : UInt8} {mid : Octets} (h : past bs = b :: mid)
    (hvalue : Stands .value bs rest) : b ≠ closeList := by
  rintro rfl
  simp [stands_value_iff h, closeList, quoteMark, openList, openObject, isDigitOctet] at hvalue

theorem stands_value_past : Stands .value (past bs) rest ↔ Stands .value bs rest := by
  rcases hpast : past bs with _ | ⟨b, mid⟩
  · exact iff_of_false (fun h => h.past_ne_nil rfl) fun h => h.past_ne_nil hpast
  · have htwice : past (b :: mid) = b :: mid := by rw [← hpast, past_past]
    rw [stands_value_iff hpast, stands_value_iff htwice]

theorem stands_items_iff {first : Bool} {b : UInt8} {mid : Octets} (h : past bs = b :: mid) :
    Stands (.items first) bs rest ↔
      b = closeList ∧ mid = rest ∨
        b ≠ closeList ∧ first = true ∧
          (∃ m, Stands .value (past bs) m ∧ Stands (.items false) m rest) ∨
        b ≠ closeList ∧ first = false ∧ b = comma ∧
          ∃ m, Stands .value mid m ∧ Stands (.items false) m rest := by
  constructor
  · intro hitems
    cases hitems with
    | endList hpast => simp_all
    | firstItem hvalue hitems =>
      exact .inr (.inl
        ⟨ne_closeList_of_stands h hvalue, rfl, _, stands_value_past.mpr hvalue, hitems⟩)
    | nextItem hpast hvalue hitems =>
      obtain ⟨rfl, rfl⟩ := List.cons.inj (h.symm.trans hpast)
      exact .inr (.inr ⟨by decide, rfl, rfl, _, hvalue, hitems⟩)
  · rintro (⟨rfl, rfl⟩ | ⟨-, rfl, m, hvalue, hitems⟩ | ⟨-, rfl, rfl, m, hvalue, hitems⟩)
    · exact .endList h
    · exact .firstItem (stands_value_past.mp hvalue) hitems
    · exact .nextItem h hvalue hitems

theorem name_past : Name (past bs) rest ↔ Name bs rest := by
  rw [Name, Name, past_past]

theorem stands_fields_iff {first : Bool} {b : UInt8} {mid : Octets} (h : past bs = b :: mid) :
    Stands (.fields first) bs rest ↔
      b = closeObject ∧ mid = rest ∨
        b ≠ closeObject ∧ first = true ∧
          (∃ m m', Name (past bs) m ∧ Stands .value m m' ∧ Stands (.fields false) m' rest) ∨
        b ≠ closeObject ∧ first = false ∧ b = comma ∧
          ∃ m m', Name mid m ∧ Stands .value m m' ∧ Stands (.fields false) m' rest := by
  constructor
  · intro hfields
    cases hfields with
    | endObject hpast => simp_all
    | firstField hname hvalue hfields =>
      have hclose : b ≠ closeObject := by
        rintro rfl
        obtain ⟨_, _, hquote, -⟩ := hname
        exact absurd (List.cons.inj (h.symm.trans hquote)).1 (by decide)
      exact .inr (.inl ⟨hclose, rfl, _, _, name_past.mpr hname, hvalue, hfields⟩)
    | nextField hpast hname hvalue hfields =>
      obtain ⟨rfl, rfl⟩ := List.cons.inj (h.symm.trans hpast)
      exact .inr (.inr ⟨by decide, rfl, rfl, _, _, hname, hvalue, hfields⟩)
  · rintro (⟨rfl, rfl⟩ | ⟨-, rfl, m, m', hname, hvalue, hfields⟩ |
      ⟨-, rfl, rfl, m, m', hname, hvalue, hfields⟩)
    · exact .endObject h
    · exact .firstField (name_past.mp hname) hvalue hfields
    · exact .nextField h hname hvalue hfields

end

end Grammar

end RemoteNotes.Json
