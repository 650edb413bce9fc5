import RemoteNotes.Proofs.TextReaders

/-!
# Skipped values

A value that nobody asked for is passed over just where the grammar has one (`takes_skip`).
The readers of values, lists and objects call each other, so one step of all three is taken
under the hypothesis that less fuel does for shorter texts (`SkipsParts`).
-/

namespace RemoteNotes.Json.Reader

open Grammar
open Text.Utf8 (Octets)

variable {c : Cursor} {rest : Octets}

-- ---------------------------------------------------------------------------
-- Numbers
-- ---------------------------------------------------------------------------

/-- A digit and what digits follow. -/
theorem takes_someDigits {f : Option UInt8 → Reader Unit} {u : Unit}
    (hnone : f none = fail .invalidNumber)
    (hsome : ∀ b, f (some b) = do
      if !isDigitOctet b then fail .invalidNumber
      let _ ← skipDigits) :
    Takes (next >>= f) c u rest ↔ Digits c.rest rest := by
  rw [takes_next_bind]
  rcases hbs : c.rest with _ | ⟨b, bs⟩
  · simp [hnone]
  · by_cases hb : isDigitOctet b = true
    · simp [hsome, hb, hbs, eq_comm]
    · simp [hsome, hb]

theorem takes_skipExponent {u : Unit} {e : UInt8} {bs : Octets} (hc : c.rest = e :: bs)
    (he : isExponentMark e = true) : Takes skipExponent c u rest ↔ Exponent (e :: bs) rest := by
  have hrest := Cursor.tail_of_cons hc
  unfold skipExponent
  rw [exponent_cons he, takes_eat_bind, takes_peekOrZero_bind, hrest, takes_ite]
  simp only [Bool.or_eq_true, beq_iff_eq]
  split
  · rw [takes_eat_bind, ← hrest, ← Cursor.tail_rest]
    exact takes_someDigits rfl fun _ => rfl
  · rw [← hrest]
    exact takes_someDigits rfl fun _ => rfl

theorem takes_exponent_or_nothing {u : Unit} :
    Takes (if isExponentMark (c.rest.head?.getD 0) then skipExponent else pure ()) c u rest ↔
      Exponent c.rest rest := by
  rw [takes_ite]
  split
  · next he =>
    rcases hc : c.rest with _ | ⟨e, bs⟩
    · rw [hc] at he
      exact absurd he (by decide)
    · rw [hc] at he
      exact takes_skipExponent hc he
  · next he =>
    rw [exponent_of_unmarked (by simpa using he), takes_pure]
    exact and_iff_right rfl

theorem takes_skipFraction {u : Unit} {bs : Octets} (hc : c.rest = 0x2E :: bs) :
    Takes skipFraction c u rest ↔ ∃ mid, Digits bs mid ∧ Exponent mid rest := by
  have hrest := Cursor.tail_of_cons hc
  unfold skipFraction
  rw [takes_eat_bind]
  constructor
  · intro h
    obtain ⟨n, c', hn, h⟩ := takes_of_bind h
    rw [takes_skipDigits, hrest] at hn
    by_cases hzero : n = 0
    · simp [hzero] at h
    rw [if_neg hzero, takes_peekOrZero_bind, takes_exponent_or_nothing] at h
    exact ⟨c'.rest, digits_iff.mpr ⟨hn.1 ▸ hzero, hn.2.symm⟩, h⟩
  · rintro ⟨mid, hmid, h⟩
    obtain ⟨hsome, hmid⟩ := digits_iff.mp hmid
    rw [← hrest] at hsome hmid
    refine Takes.bind (takes_skipDigits.mpr ⟨rfl, hmid.symm⟩) fun c' h' => ?_
    rw [if_neg hsome, takes_peekOrZero_bind, takes_exponent_or_nothing, h']
    exact h

/-- What may follow whole digits. -/
theorem takes_after_whole {u : Unit} :
    Takes (do
      let b ← peekOrZero
      if b == 0x2E then skipFraction
      else if isExponentMark b then skipExponent) c u rest ↔
      ∃ mid, Fraction c.rest mid ∧ Exponent mid rest := by
  rw [takes_peekOrZero_bind, takes_ite]
  simp only [beq_iff_eq]
  split
  · next hpoint =>
    rcases hc : c.rest with _ | ⟨b, bs⟩
    · rw [hc] at hpoint
      exact absurd hpoint (by decide)
    · obtain rfl : b = 0x2E := by simpa [hc] using hpoint
      simp only [takes_skipFraction hc, fraction_point]
  · next hpoint =>
    have hnone : c.rest.head? ≠ some 0x2E := fun h => hpoint (by rw [h, Option.getD_some])
    simp only [fraction_of_no_point hnone, exists_eq_left']
    exact takes_exponent_or_nothing

theorem takes_skipNumber {u : Unit} : Takes skipNumber c u rest ↔ Number c.rest rest := by
  unfold skipNumber
  rw [takes_next_bind]
  rcases hc : c.rest with _ | ⟨b, bs⟩
  · simp only [List.head?_nil, not_takes_fail, false_iff]
    rintro ⟨_, _, ⟨⟩ | ⟨_, h⟩, _⟩
  have hrest := Cursor.tail_of_cons hc
  simp only [List.head?_cons]
  by_cases hzero : b = 0x30
  · rw [if_pos (beq_iff_eq.mpr hzero), takes_peekOrZero_bind, hrest, takes_ite, takes_after_whole,
      hrest]
    split
    · next hdigit =>
      refine iff_of_false not_takes_failAtNext_bind ?_
      rintro ⟨_, _, hwhole, _⟩
      cases hwhole with
      | zero hend => exact absurd hdigit (Bool.eq_false_iff.mp ((forall_head_iff rfl).mp hend))
      | digits hne => exact hne hzero
    · next hdigit =>
      have hend := (forall_head_iff rfl).mpr (Bool.eq_false_iff.mpr hdigit)
      constructor
      · rintro ⟨mid, h⟩
        exact ⟨bs, mid, hzero ▸ .zero hend, h⟩
      · rintro ⟨_, mid, hwhole, h⟩
        cases hwhole with
        | zero => exact ⟨mid, h⟩
        | digits hne => exact absurd hzero hne
  by_cases hdigit : isDigitOctet b = true
  · rw [if_neg (mt beq_iff_eq.mp hzero), if_pos hdigit]
    constructor
    · intro h
      obtain ⟨n, c', hn, h⟩ := takes_of_bind h
      rw [takes_skipDigits, hrest] at hn
      obtain ⟨mid, hfraction, hexponent⟩ := takes_after_whole.mp h
      exact ⟨_, mid, .digits hzero (digits_cons.mpr ⟨hdigit, hn.2.symm⟩), hfraction, hexponent⟩
    · rintro ⟨mid, mid', hwhole, h⟩
      cases hwhole with
      | zero => exact absurd rfl hzero
      | digits _ hdigits =>
        have hmid := (digits_cons.mp hdigits).2
        rw [← hrest] at hmid
        refine Takes.bind (takes_skipDigits.mpr ⟨rfl, hmid.symm⟩) fun c' h' => ?_
        exact takes_after_whole.mpr ⟨mid', h' ▸ h⟩
  · rw [if_neg (mt beq_iff_eq.mp hzero), if_neg hdigit]
    refine iff_of_false not_takes_fail_bind ?_
    rintro ⟨_, _, hwhole, _⟩
    cases hwhole with
    | zero => exact hzero rfl
    | digits _ h => exact hdigit (digits_cons.mp h).1

-- ---------------------------------------------------------------------------
-- Values
-- ---------------------------------------------------------------------------

theorem takes_colon {u : Unit} : Takes colon c u rest ↔ past c.rest = 0x3A :: rest := by
  unfold colon
  rw [takes_peekPastBlanks_bind]
  rcases hc : past c.rest with _ | ⟨b, bs⟩
  · simp
  · simp [hc]

theorem takes_skipKey {fuel : Nat} {u : Unit} (hfuel : c.rest.length ≤ fuel) :
    Takes (skipKey fuel) c u rest ↔ Name c.rest rest := by
  unfold skipKey
  rw [takes_peekPastBlanks_bind]
  rcases hpast : past c.rest with _ | ⟨b, bs⟩
  · refine iff_of_false not_takes_failAtNext_bind ?_
    rintro ⟨_, _, h, -⟩
    rw [hpast] at h
    cases h
  have hrest : c.pastBlanks.tail.rest = bs :=
    Cursor.tail_of_cons (c.pastBlanks_rest.trans hpast)
  have hshort := shorter_of_past hpast
  simp only [List.head?_cons]
  by_cases hquote : b = quoteMark
  · rw [if_neg (by simpa using hquote), takes_eat_bind]
    constructor
    · intro h
      obtain ⟨_, c', htext, h⟩ := takes_of_bind h
      rw [takes_skipText (by rw [hrest]; omega), hrest] at htext
      exact ⟨bs, _, hquote ▸ hpast, htext, takes_colon.mp h⟩
    · rintro ⟨mid, mid', h, htext, hcolon⟩
      obtain ⟨-, rfl⟩ := List.cons.inj (hpast.symm.trans h)
      have hless : c.pastBlanks.tail.rest.length < fuel := by
        rw [hrest]
        omega
      refine Takes.bind (a := ()) ((takes_skipText hless).mpr (hrest ▸ htext)) fun c' h' => ?_
      exact takes_colon.mpr (h' ▸ hcolon)
  · rw [if_pos (by simpa using hquote)]
    refine iff_of_false not_takes_failAtNext_bind ?_
    rintro ⟨_, _, h, -⟩
    exact hquote (List.cons.inj (hpast.symm.trans h)).1

/-- What the mutual readers do with each part. -/
def skipPart : Part → Nat → Reader Unit
  | .value => skipValue
  | .items first => fun fuel => skipItems fuel first
  | .fields first => fun fuel => skipFields fuel first

/-- Readers with this fuel take the parts that they have rounds for. -/
def SkipsParts (fuel : Nat) : Prop :=
  ∀ (part : Part) {c : Cursor} {u : Unit} {rest : Octets}, part.rounds c.rest < fuel →
    (Takes (skipPart part fuel) c u rest ↔ Stands part c.rest rest)

section

variable {fuel : Nat} {u : Unit}

theorem takes_skipValue (ih : SkipsParts fuel) (hfuel : 2 * c.rest.length ≤ fuel) :
    Takes (skipValue (fuel + 1)) c u rest ↔ Stands .value c.rest rest := by
  unfold skipValue
  rw [takes_peekPastBlanks_bind]
  rcases hpast : past c.rest with _ | ⟨b, bs⟩
  · exact iff_of_false not_takes_failAtNext fun h => h.past_ne_nil hpast
  rw [stands_value_iff hpast]
  have hrest : c.pastBlanks.rest = b :: bs := c.pastBlanks_rest.trans hpast
  have htail := Cursor.tail_of_cons hrest
  have hshort := shorter_of_past hpast
  have htext : Takes (skipText fuel) c.pastBlanks.tail u rest ↔ Quoted bs rest := by
    rw [takes_skipText (by rw [htail]; omega), htail]
  have hitems : Takes (skipItems fuel true) c.pastBlanks.tail u rest ↔
      Stands (.items true) bs rest := by
    rw [← htail]
    exact ih (.items true) (by simp only [Part.rounds, htail]; omega)
  have hfields : Takes (skipFields fuel true) c.pastBlanks.tail u rest ↔
      Stands (.fields true) bs rest := by
    rw [← htail]
    exact ih (.fields true) (by simp only [Part.rounds, htail]; omega)
  simp only [List.head?_cons, takes_ite, takes_eat_bind, identNull, identTrue, identFalse,
    takes_ident, takes_skipNumber, htext, hitems, hfields, hrest, htail, not_takes_failAtNext,
    beq_iff_eq, List.cons_append, List.nil_append]
  have hdigit (h : isDigitOctet b = true) : b ≠ 0x6E ∧ b ≠ 0x74 ∧ b ≠ 0x66 ∧ b ≠ 0x2D ∧
      b ≠ quoteMark ∧ b ≠ openList ∧ b ≠ openObject := by
    refine ⟨?_, ?_, ?_, ?_, ?_, ?_, ?_⟩ <;> rintro rfl <;> exact absurd h (by decide)
  clear htext hitems hfields ih hfuel hpast hrest htail hshort
  repeat' split
  all_goals simp_all [quoteMark, openList, openObject]

/-- What lists and objects have in common: the closing bracket, or another element, in front of
which there is a comma unless it is the first. -/
theorem takes_element_or_close {first : Bool} {close : UInt8} {atEnd noComma : GrammarFault}
    {element : Reader Unit} {b : UInt8} {bs : Octets} (hpast : past c.rest = b :: bs) :
    Takes (do
      match ← peekPastBlanks with
      | none => failAtNext atEnd
      | some b =>
        if b == close then eat
        else
          if !first then
            if b != comma then failAtNext noComma
            eat
          element) c u rest ↔
      b = close ∧ bs = rest ∨ b ≠ close ∧ first = true ∧ Takes element c.pastBlanks u rest ∨
        b ≠ close ∧ first = false ∧ b = comma ∧ Takes element c.pastBlanks.tail u rest := by
  rw [takes_peekPastBlanks_bind, hpast]
  by_cases hclose : b = close
  · simp [hclose, hpast]
  cases first with
  | true => simp [hclose]
  | false =>
    by_cases hcomma : b = comma
    · have hne : comma ≠ close := hcomma ▸ hclose
      simp [hcomma, hne]
    · simp [hclose, hcomma]

theorem takes_skipItems {first : Bool} (ih : SkipsParts fuel)
    (hfuel : 2 * c.rest.length + 1 ≤ fuel) :
    Takes (skipItems (fuel + 1) first) c u rest ↔ Stands (.items first) c.rest rest := by
  have hitem (c' : Cursor) (h : c'.rest.length ≤ c.rest.length) :
      Takes (do skipValue fuel; skipItems fuel false) c' u rest ↔
        ∃ mid, Stands .value c'.rest mid ∧ Stands (.items false) mid rest := by
    constructor
    · intro htakes
      obtain ⟨_, c'', hvalue, hitems⟩ := takes_of_bind htakes
      have hvalue := (ih .value (by simp only [Part.rounds]; omega)).mp hvalue
      have := hvalue.shorter
      have hitems := (ih (.items false) (by simp only [Part.rounds]; omega)).mp hitems
      exact ⟨_, hvalue, hitems⟩
    · rintro ⟨mid, hvalue, hitems⟩
      have := hvalue.shorter
      have hvalue := (ih .value (u := ()) (by simp only [Part.rounds]; omega)).mpr hvalue
      refine Takes.bind hvalue fun c'' h' => ?_
      exact (ih (.items false) (by simp only [Part.rounds, h']; omega)).mpr (h' ▸ hitems)
  unfold skipItems
  rcases hpast : past c.rest with _ | ⟨b, bs⟩
  · rw [takes_peekPastBlanks_bind, hpast]
    exact iff_of_false not_takes_failAtNext fun h => h.past_ne_nil hpast
  have hrest : c.pastBlanks.rest = b :: bs := c.pastBlanks_rest.trans hpast
  have htail := Cursor.tail_of_cons hrest
  have hshort := shorter_of_past hpast
  refine (takes_element_or_close hpast).trans ?_
  rw [stands_items_iff hpast, hitem _ (by rw [hrest]; exact hshort),
    hitem _ (by rw [htail]; omega), htail, hrest, hpast]

theorem takes_skipFields {first : Bool} (ih : SkipsParts fuel)
    (hfuel : 2 * c.rest.length + 1 ≤ fuel) :
    Takes (skipFields (fuel + 1) first) c u rest ↔ Stands (.fields first) c.rest rest := by
  have hfield (c' : Cursor) (h : c'.rest.length ≤ c.rest.length) :
      Takes (do skipKey fuel; skipValue fuel; skipFields fuel false) c' u rest ↔
        ∃ m m', Name c'.rest m ∧ Stands .value m m' ∧ Stands (.fields false) m' rest := by
    constructor
    · intro htakes
      obtain ⟨_, c₁, hname, htakes⟩ := takes_of_bind htakes
      obtain ⟨_, c₂, hvalue, hfields⟩ := takes_of_bind htakes
      rw [takes_skipKey (by omega)] at hname
      have := hname.shorter
      have hvalue := (ih .value (by simp only [Part.rounds]; omega)).mp hvalue
      have := hvalue.shorter
      have hfields := (ih (.fields false) (by simp only [Part.rounds]; omega)).mp hfields
      exact ⟨_, _, hname, hvalue, hfields⟩
    · rintro ⟨m, m', hname, hvalue, hfields⟩
      have := hname.shorter
      have := hvalue.shorter
      refine Takes.bind (a := ()) ((takes_skipKey (by omega)).mpr hname) fun c₁ h₁ => ?_
      have hvalue := (ih .value (u := ()) (by simp only [Part.rounds, h₁]; omega)).mpr (h₁ ▸ hvalue)
      refine Takes.bind hvalue fun c₂ h₂ => ?_
      exact (ih (.fields false) (by simp only [Part.rounds, h₂]; omega)).mpr (h₂ ▸ hfields)
  unfold skipFields
  rcases hpast : past c.rest with _ | ⟨b, bs⟩
  · rw [takes_peekPastBlanks_bind, hpast]
    exact iff_of_false not_takes_failAtNext fun h => h.past_ne_nil hpast
  have hrest : c.pastBlanks.rest = b :: bs := c.pastBlanks_rest.trans hpast
  have htail := Cursor.tail_of_cons hrest
  have hshort := shorter_of_past hpast
  refine (takes_element_or_close hpast).trans ?_
  rw [stands_fields_iff hpast, hfield _ (by rw [hrest]; exact hshort),
    hfield _ (by rw [htail]; omega), htail, hrest, hpast]

theorem skipsParts (fuel : Nat) : SkipsParts fuel := by
  induction fuel with
  | zero => exact fun _ _ _ _ h => absurd h (Nat.not_lt_zero _)
  | succ fuel ih =>
    intro part c u rest hfuel
    cases part with
    | value => exact takes_skipValue ih (Nat.le_of_lt_succ hfuel)
    | items => exact takes_skipItems ih (Nat.le_of_lt_succ hfuel)
    | fields => exact takes_skipFields ih (Nat.le_of_lt_succ hfuel)

theorem takes_skip : Takes skip c u rest ↔ Stands .value c.rest rest := by
  unfold skip
  rw [takes_remaining_bind]
  exact takes_skipValue (skipsParts (2 * c.rest.length + 1)) (Nat.le_succ _)

end

end RemoteNotes.Json.Reader
