import Mathlib.Data.String.Basic
import RemoteNotes.Proofs.Calendar
import RemoteNotes.Proofs.Digits
import RemoteNotes.Proofs.Results
import RemoteNotes.Time.Rfc3339

/-!
# Timestamps read back

Which instants have a text that is read as that instant: those whose year in Universal Time
has four digits (`parse_text_iff`). What is read is a point in time proper, with a leap
second in the last second of a minute only (`isRegular_of_parse`).
-/

namespace RemoteNotes.Time

open Number (IsNumeral digitValue? natOfDigits padded tenTo tenTo_succ)

namespace Instant

/-- A point in time proper: less than a second past its second, or less than two past the last
second of a minute, which is a leap second. -/
structure IsRegular (t : Instant) : Prop where
  nanos_lt : t.nanos < 2 * nanosPerSecond
  leap : nanosPerSecond ≤ t.nanos → t.seconds % 60 = 59

instance (t : Instant) : Decidable t.IsRegular :=
  decidable_of_iff (t.nanos < 2 * nanosPerSecond ∧ (nanosPerSecond ≤ t.nanos → t.seconds % 60 = 59))
    ⟨fun h => ⟨h.1, h.2⟩, fun h => ⟨h.nanos_lt, h.leap⟩⟩

/-- The year in Universal Time has four digits and no sign. -/
def HasPlainYear (t : Instant) : Prop := 0 ≤ t.date.year ∧ t.date.year ≤ 9999

instance (t : Instant) : Decidable t.HasPlainYear := by
  unfold HasPlainYear
  infer_instance

end Instant

namespace Rfc3339

-- ---------------------------------------------------------------------------
-- Successful readings
-- ---------------------------------------------------------------------------

theorem strictOctets_eq_ok {s : String} {cs : List Char} {t : Instant} :
    strictOctets s cs = .ok t ↔ ¬s.utf8ByteSize < leastSize ∧
      ∃ year, digits 0 4 cs = .ok year ∧ ∃ c₁, expect (· == '-') year.2 = .ok c₁ ∧
      ∃ month, digits 0 2 c₁.2 = .ok month ∧ ∃ c₂, expect (· == '-') month.2 = .ok c₂ ∧
      ∃ day, digits 0 2 c₂.2 = .ok day ∧ ¬¬(Date.mk year.1 month.1 day.1).IsValid ∧
      ∃ c₃, expect isDateTimeSeparator day.2 = .ok c₃ ∧
      ∃ hour, digits 0 2 c₃.2 = .ok hour ∧ ∃ c₄, expect (· == ':') hour.2 = .ok c₄ ∧
      ∃ minute, digits 0 2 c₄.2 = .ok minute ∧ ∃ c₅, expect (· == ':') minute.2 = .ok c₅ ∧
      ∃ second, digits 0 2 c₅.2 = .ok second ∧
      ∃ nanos, optionalFraction second.2 = .ok nanos ∧
      ¬(24 ≤ hour.1 ∨ 60 ≤ minute.1 ∨ 61 ≤ second.1) ∧
      ∃ zone, offset (expect (· == ':')) nanos.2 = .ok zone ∧ ¬¬zone.2.isEmpty = true ∧
      ¬86400 ≤ zone.1.natAbs ∧
      instantAt ⟨year.1, month.1, day.1⟩ hour.1 minute.1 second.1 nanos.1 zone.1 = t := by
  simp only [strictOctets, ↓guard_eq_ok, bind_eq_ok, pure_eq_ok]

-- ---------------------------------------------------------------------------
-- Fields of digits
-- ---------------------------------------------------------------------------

theorem value_eq {c : Char} (h : c.isDigit = true) : value c = (digitValue? c).getD 0 := by
  rw [Number.digitValue?_of_isDigit h]
  rfl

theorem digits_foldl {cs : List Char} (h : ∀ c ∈ cs, c.isDigit = true) (acc : Nat)
    (rest : List Char) :
    digits acc cs.length (cs ++ rest) =
      .ok (cs.foldl (fun acc c => acc * 10 + (digitValue? c).getD 0) acc, rest) := by
  induction cs generalizing acc with
  | nil => rfl
  | cons c cs ih =>
    have hc : c.isDigit = true := h c List.mem_cons_self
    rw [List.length_cons, List.cons_append, digits, isDigit, if_pos hc, value_eq hc]
    exact ih (fun d hd => h d (List.mem_cons_of_mem c hd)) _

/-- A field of fixed width is read as the number that it was written for. -/
theorem digits_padded {width n : Nat} (hw : 1 ≤ width) (h : n < tenTo width) (rest : List Char) :
    digits 0 width ((padded width n).toList ++ rest) = .ok (n, rest) := by
  obtain ⟨hdigits, hvalue⟩ := Number.isNumeral_padded width n
  have hread := digits_foldl hdigits 0 rest
  rw [Number.length_padded hw h] at hread
  rw [hread]
  exact congrArg (fun m => Except.ok (m, rest)) hvalue

/-- Digits in front of a `Z` end there. -/
theorem takeWhile_take_digits {ds : List Char} {n : Nat} (hdigits : ∀ c ∈ ds, c.isDigit = true)
    (hn : ds.length ≤ n) (rest : List Char) :
    ((ds ++ 'Z' :: rest).take n).takeWhile isDigit = ds := by
  induction ds generalizing n with
  | nil => cases n <;> rfl
  | cons c ds ih =>
    cases n with
    | zero => contradiction
    | succ n =>
      have hc : isDigit c = true := hdigits c List.mem_cons_self
      rw [List.cons_append, List.take_succ_cons, List.takeWhile_cons_of_pos hc,
        ih (fun d hd => hdigits d (List.mem_cons_of_mem c hd)) (Nat.le_of_succ_le_succ hn)]

theorem fraction_padded {width n : Nat} (hw : 1 ≤ width) (hw' : width ≤ 9) (h : n < tenTo width)
    (rest : List Char) :
    fraction ((padded width n).toList ++ 'Z' :: rest) =
      .ok (n * tenTo (9 - width), 'Z' :: rest) := by
  obtain ⟨hdigits, hvalue⟩ := Number.isNumeral_padded width n
  have hlength := Number.length_padded hw h
  generalize (padded width n).toList = ds at hdigits hvalue hlength
  subst hvalue hlength
  have htake := takeWhile_take_digits hdigits hw' rest
  have hread : someDigits 9 (ds ++ 'Z' :: rest) = .ok (natOfDigits ds, 'Z' :: rest) := by
    cases ds with
    | nil => exact absurd hw (Nat.not_succ_le_zero 0)
    | cons d ds =>
      have hd : isDigit d = true := hdigits d List.mem_cons_self
      rw [List.cons_append] at htake ⊢
      rw [someDigits, if_pos hd, htake, ← List.cons_append]
      dsimp only
      rw [List.drop_left]
  rw [fraction, hread]
  simp [bind, Except.bind, pure, Except.pure, isDigit]

theorem optionalFraction_fractionText {nanos : Nat} (h : nanos < nanosPerSecond)
    (rest : List Char) :
    optionalFraction ((Instant.fractionText nanos).toList ++ 'Z' :: rest) =
      .ok (nanos, 'Z' :: rest) := by
  have hpoint (width n : Nat) (hw : 1 ≤ width) (hw' : width ≤ 9) (hn : n < tenTo width) :
      optionalFraction (("." ++ padded width n).toList ++ 'Z' :: rest) =
        .ok (n * tenTo (9 - width), 'Z' :: rest) := by
    rw [String.toList_append]
    exact fraction_padded hw hw' hn rest
  have hthousand : tenTo 3 = 1000 := rfl
  have hmillion : tenTo 6 = 1000000 := rfl
  have hbillion : tenTo 9 = 1000000000 := rfl
  unfold nanosPerSecond at h
  unfold Instant.fractionText
  split
  · next hzero => rw [hzero]; rfl
  · split
    · rw [hpoint 3 _ (by omega) (by omega) (by omega), hmillion, Nat.div_mul_cancel (by omega)]
    · split
      · rw [hpoint 6 _ (by omega) (by omega) (by omega), hthousand, Nat.div_mul_cancel (by omega)]
      · rw [hpoint 9 _ (by omega) (by omega) (by omega), Nat.sub_self,
          Number.tenTo_zero, Nat.mul_one]

-- ---------------------------------------------------------------------------
-- Texts of instants
-- ---------------------------------------------------------------------------

theorem toList_text (t : Instant) :
    t.text.toList = (Instant.yearText t.date.year).toList ++ '-' ::
      ((padded 2 t.date.month).toList ++ '-' :: ((padded 2 t.date.day).toList ++ 'T' ::
      ((padded 2 (t.secondOfDay / 3600)).toList ++ ':' ::
      ((padded 2 (t.secondOfDay / 60 % 60)).toList ++ ':' ::
      ((padded 2 (t.secondOfDay % 60 + t.nanos / nanosPerSecond)).toList ++
      ((Instant.fractionText (t.nanos % nanosPerSecond)).toList ++ ['Z'])))))) := by
  simp [Instant.text]

theorem text_ne_empty (t : Instant) : t.text ≠ "" := by
  intro hempty
  have htext := toList_text t
  rw [hempty] at htext
  have := congrArg List.length htext
  simp at this

theorem length_le_utf8ByteSize (s : String) : s.toList.length ≤ s.utf8ByteSize := by
  rw [← String.utf8Len_toList]
  induction s.toList with
  | nil => exact Nat.le_refl 0
  | cons c cs ih =>
    have hc := c.utf8Size_pos
    rw [List.length_cons, String.utf8Len_cons]
    omega

theorem length_text_le {t : Instant} (hyear : t.HasPlainYear) : leastSize ≤ t.text.utf8ByteSize := by
  refine Nat.le_trans ?_ (length_le_utf8ByteSize t.text)
  have hwidth (width n : Nat) : width ≤ (padded width n).toList.length := by
    simp only [padded, String.toList_ofList, List.length_append, List.length_replicate]
    omega
  have htext : Instant.yearText t.date.year = padded 4 t.date.year.toNat := if_pos hyear
  have h4 := hwidth 4 t.date.year.toNat
  have := hwidth 2 t.date.month
  have := hwidth 2 t.date.day
  have := hwidth 2 (t.secondOfDay / 3600)
  have := hwidth 2 (t.secondOfDay / 60 % 60)
  have := hwidth 2 (t.secondOfDay % 60 + t.nanos / nanosPerSecond)
  simp only [toList_text, htext, List.length_append, List.length_cons, leastSize]
  omega

theorem monthLength_le (y : Int) (k : Nat) : (monthLengths y).getD k 0 ≤ 31 := by
  rw [List.getD_eq_getElem?_getD]
  cases hlength : (monthLengths y)[k]? with
  | none => exact Nat.zero_le 31
  | some length =>
    have hall : ∀ length ∈ monthLengths y, length ≤ 31 := by
      unfold monthLengths
      cases isLeapYear y <;> decide
    exact hall length (List.mem_of_getElem? hlength)

/-- The clock's reading leads back to the instant, also in a leap second, which is read off as
second 60. -/
theorem instantAt_self {t : Instant} (h : t.IsRegular) :
    instantAt t.date (t.secondOfDay / 3600) (t.secondOfDay / 60 % 60)
      (t.secondOfDay % 60 + t.nanos / nanosPerSecond) (t.nanos % nanosPerSecond) 0 = t := by
  obtain ⟨hnanos, hleap⟩ := h
  have hday : t.date.dayNumber = t.seconds / secondsPerDay := dayNumber_ofDayNumber _
  have hsecond : (t.secondOfDay : Int) = t.seconds % secondsPerDay :=
    Int.toNat_of_nonneg (Int.emod_nonneg _ (by decide))
  unfold secondsPerDay at hday hsecond
  unfold nanosPerSecond at hnanos hleap
  unfold instantAt nanosPerSecond secondsPerDay
  rw [hday]
  obtain ⟨seconds, nanos⟩ := t
  simp only [Int.sub_zero] at *
  -- in second 60 a second's worth of nanoseconds is put back
  split <;>
  · rw [Instant.mk.injEq]
    omega

theorem parse_text {t : Instant} (h : t.IsRegular) (hyear : t.HasPlainYear) :
    parse t.text = .ok t := by
  have hsize := length_text_le hyear
  obtain ⟨hfirst, hlast⟩ := hyear
  obtain ⟨hmonth, hmonth', hday, hday'⟩ : t.date.IsValid := isValid_ofDayNumber _
  have hlength := monthLength_le t.date.year (t.date.month - 1)
  have hsecond : t.secondOfDay < 86400 := by
    unfold Instant.secondOfDay secondsPerDay
    omega
  have hextra : t.nanos / nanosPerSecond ≤ 1 := by
    have := h.nanos_lt
    unfold nanosPerSecond at *
    omega
  have htwo : tenTo 2 = 100 := rfl
  have hfour : tenTo 4 = 10000 := rfl
  have hyear : ((t.date.year.toNat : Nat) : Int) = t.date.year := Int.toNat_of_nonneg hfirst
  have htext : Instant.yearText t.date.year = padded 4 t.date.year.toNat :=
    if_pos ⟨hfirst, hlast⟩
  have hnanos : t.nanos % nanosPerSecond < nanosPerSecond := Nat.mod_lt _ (by decide)
  rw [parse, toList_text, htext, strictOctets_eq_ok]
  refine ⟨by omega, _, digits_padded (by omega) (by omega) _, _, rfl,
    _, digits_padded (by omega) (by omega) _, _, rfl,
    _, digits_padded (by omega) (by omega) _, ?_, _, rfl,
    _, digits_padded (by omega) (by omega) _, _, rfl,
    _, digits_padded (by omega) (by omega) _, _, rfl,
    _, digits_padded (by omega) (by omega) _,
    _, optionalFraction_fractionText hnanos [], ?_, _, rfl, by simp, by simp, ?_⟩
  · dsimp only
    rw [hyear]
    exact not_not_intro (isValid_ofDayNumber _)
  · dsimp only
    omega
  · dsimp only
    rw [hyear]
    exact instantAt_self h

/-- A year that needs a sign starts with one, and a sign is no digit. -/
theorem hasPlainYear_of_parse {t u : Instant} (h : parse t.text = .ok u) :
    t.HasPlainYear := by
  by_contra hyear
  obtain ⟨-, _, hdigits, -⟩ := strictOctets_eq_ok.mp h
  have hsign {c : Char} (hc : isDigit c = false) (cs : List Char) :
      digits 0 4 (c :: cs) = .error .invalid := if_neg (by simp [hc])
  have htext : Instant.yearText t.date.year = _ := if_neg hyear
  rw [toList_text, htext] at hdigits
  rw [String.toList_append] at hdigits
  split at hdigits
  · exact nomatch (hsign rfl _).symm.trans hdigits
  · exact nomatch (hsign rfl _).symm.trans hdigits

theorem parse_text_iff {t : Instant} (h : t.IsRegular) :
    parse t.text = .ok t ↔ t.HasPlainYear :=
  ⟨hasPlainYear_of_parse, parse_text h⟩

-- ---------------------------------------------------------------------------
-- Instants that are read
-- ---------------------------------------------------------------------------

theorem someDigits_eq_ok {n value : Nat} {cs rest : List Char}
    (h : someDigits n cs = .ok (value, rest)) :
    ∃ ds, cs = ds ++ rest ∧ (∀ c ∈ ds, c.isDigit = true) ∧ ds.length ≤ n ∧
      value = natOfDigits ds := by
  unfold someDigits at h
  split at h
  · contradiction
  · split at h
    · next c cs _ =>
      cases h
      have hprefix := List.takeWhile_prefix (l := (c :: cs).take n) isDigit
      refine ⟨((c :: cs).take n).takeWhile isDigit, ?_, List.all_eq_true.mp List.all_takeWhile,
        Nat.le_trans hprefix.length_le (List.length_take_le n _), rfl⟩
      have hwhole := hprefix.trans (List.take_prefix n (c :: cs))
      rw [List.prefix_iff_eq_take] at hwhole
      conv_lhs => rw [← List.take_append_drop _ (c :: cs), ← hwhole]
    · contradiction

theorem optionalFraction_lt {cs : List Char} {nanos : Nat × List Char}
    (h : optionalFraction cs = .ok nanos) : nanos.1 < nanosPerSecond := by
  unfold optionalFraction at h
  split at h
  · unfold fraction at h
    obtain ⟨⟨n, rest⟩, hread, hnanos⟩ := bind_eq_ok.mp h
    cases pure_eq_ok.mp hnanos
    obtain ⟨ds, rfl, hdigits, hlength, rfl⟩ := someDigits_eq_ok hread
    have hscale : nanosPerSecond = tenTo ds.length * tenTo (9 - ds.length) := by
      rw [← Number.tenTo_add, Nat.add_sub_cancel' hlength]
      rfl
    dsimp only
    rw [List.length_append, Nat.add_sub_cancel, hscale]
    exact Nat.mul_lt_mul_of_pos_right (Number.natOfDigits_lt hdigits) (Number.tenTo_pos _)
  · cases h
    exact Nat.zero_lt_succ _

theorem offsetSign_eq_ok {cs : List Char} {sign : Int × List Char}
    (h : offsetSign cs = .ok sign) : sign.1 = 1 ∨ sign.1 = -1 := by
  unfold offsetSign at h
  split at h
  · contradiction
  · split at h
    · cases h
      exact .inl rfl
    · split at h
      · cases h
        exact .inr rfl
      · contradiction

theorem offset_whole_minutes {separator : List Char → Except Fault (Unit × List Char)}
    {cs : List Char} {zone : Int × List Char} (h : offset separator cs = .ok zone) :
    zone.1 % 60 = 0 := by
  unfold offset at h
  split at h
  · cases h
    rfl
  · cases h
    rfl
  · simp only [signedOffset, ↓guard_eq_ok, bind_eq_ok, pure_eq_ok] at h
    obtain ⟨sign, hsign, _, -, _, -, _, -, -, rfl⟩ := h
    dsimp only
    rcases offsetSign_eq_ok hsign with h | h <;> rw [h] <;> omega

/-- What is read is a point in time proper: fractions stay below a second, and offsets are whole
minutes, so that a leap second stays at the end of its minute. -/
theorem isRegular_of_parse {s : String} {t : Instant} (h : parse s = .ok t) : t.IsRegular := by
  obtain ⟨-, year, -, -, -, month, -, -, -, day, -, -, -, -, hour, -, -, -, minute, -, -, -,
    second, -, nanos, hnanos, hclock, zone, hzone, -, -, rfl⟩ := strictOctets_eq_ok.mp h
  have hfraction := optionalFraction_lt hnanos
  have hminutes := offset_whole_minutes hzone
  unfold nanosPerSecond at hfraction
  by_cases hsixty : second.1 = 60
  · simp only [instantAt, if_pos hsixty]
    constructor
    · dsimp only [nanosPerSecond]
      omega
    · intro
      dsimp only [secondsPerDay]
      omega
  · simp only [instantAt, if_neg hsixty]
    constructor
    · dsimp only [nanosPerSecond]
      omega
    · intro hleap
      exact absurd hleap (Nat.not_le.mpr hfraction)

end Rfc3339

end RemoteNotes.Time
