import RemoteNotes.Proofs.Doubles
import RemoteNotes.Proofs.FieldReports

/-!
# Reports of a location

The fields of a location are judged in two passes: each one for its type, and then the
coordinates for their range, but only if both of them are numbers. So a coordinate that is out
of range goes unreported where the other one is no number (`location_reported`).
-/

namespace RemoteNotes

open Json (Fields)
open Number (Double)

-- ---------------------------------------------------------------------------
-- Fields that do not fit
-- ---------------------------------------------------------------------------

/-- The fields that a check reports. -/
def Checked.fields {α : Type} (a : Checked α) : List String := a.violations.map (·.field)

namespace Wire

/-- A field is there and is not what it has to be. A null counts as absent. -/
def Misfit (Fits : Json → Prop) (name : String) (o : Fields) : Prop :=
  ∃ v, Json.lookup name o = some v ∧ v.isNull = false ∧ ¬Fits v

def IsText (v : Json) : Prop := ∃ s, v = .text s

def IsNumber (v : Json) : Prop := ∃ n, v = .num n

theorem find?_plain (name : String) (o : Fields) :
    find? (.plain name) o = (Json.lookup name o).filter fun v => !v.isNull := by
  simp [find?, Key.plain]

theorem text?_cases (name : String) (o : Fields) :
    (Misfit IsText name o ∧ ∃ message, text? (.plain name) o = .violation name message) ∨
      (¬Misfit IsText name o ∧ ∃ s?, text? (.plain name) o = .ok s?) := by
  unfold text? Misfit
  rw [find?_plain]
  cases Json.lookup name o with
  | none => exact .inr ⟨by simp, _, rfl⟩
  | some v =>
    cases v with
    | null => exact .inr ⟨by simp [Json.isNull], _, rfl⟩
    | text s => exact .inr ⟨by simp [IsText], _, rfl⟩
    | _ => exact .inl ⟨by simp [Json.isNull, IsText], _, rfl⟩

end Wire

namespace Location

open Wire (Misfit IsText IsNumber)

/-- A number of degrees up to a bound, to either side. -/
def IsDegrees (bound : Nat) (v : Json) : Prop :=
  ∃ n, v = .num n ∧ n.toDouble.isFinite = true ∧ n.toDouble.ratio.1 ≤ bound * n.toDouble.ratio.2

theorem misfit_degrees_of_number {bound : Nat} {name : String} {o : Fields}
    (h : Misfit IsNumber name o) : Misfit (IsDegrees bound) name o := by
  obtain ⟨v, hv, hnull, hnumber⟩ := h
  exact ⟨v, hv, hnull, fun ⟨n, hn, _⟩ => hnumber ⟨n, hn⟩⟩

theorem withinDegrees_iff_magnitude (bound : Nat) (x : Double) :
    withinDegrees bound x = true ↔ x.magnitude ≤ (Double.ofNat bound).magnitude := by
  have hbound : (Double.ofNat bound).magnitude ≤ Double.infiniteMagnitude :=
    Double.nearestMagnitude_le bound 1
  have hlower : (Double.ofRatio true bound 1).rank = -((Double.ofNat bound).magnitude : Int) := rfl
  have hupper : (Double.ofNat bound).rank = (Double.ofNat bound).magnitude := rfl
  have hx : x.rank = x.magnitude ∨ x.rank = -x.magnitude := by
    unfold Double.rank
    split <;> simp
  have hnan : x.isNaN = false ↔ x.magnitude ≤ Double.infiniteMagnitude := by
    simp [Double.isNaN]
  rw [withinDegrees, Bool.and_eq_true, Double.le_iff, Double.le_iff, hlower, hupper, hnan]
  simp only [Double.ofNat, Double.isNaN_ofRatio, true_and] at hbound ⊢
  omega

/-- The bounds in degrees are numbers themselves, so that they are compared as values. -/
theorem withinDegrees_iff {bound : Nat} (hbound : bound ∈ [90, 180]) (x : Double) :
    withinDegrees bound x = true ↔ x.isFinite = true ∧ x.ratio.1 ≤ bound * x.ratio.2 := by
  have hexact : (Double.ofNat bound).ratio.1 = bound * (Double.ofNat bound).ratio.2 := by
    revert bound
    decide +kernel
  have hfinite : (Double.ofNat bound).magnitude < Double.infiniteMagnitude := by
    revert bound
    decide +kernel
  have hvalue : x.magnitude ≤ (Double.ofNat bound).magnitude ↔ x.ratio.1 ≤ bound * x.ratio.2 := by
    rw [Double.magnitude_le_iff, hexact, Nat.mul_right_comm,
      Nat.mul_le_mul_right_iff (Double.ratio_pos _)]
  rw [withinDegrees_iff_magnitude, ← hvalue]
  simp only [Double.isFinite, decide_eq_true_eq, iff_and_self]
  exact fun h => Nat.lt_of_le_of_lt h hfinite

/-- A coordinate that is a number is read as one, and a missing one as zero. -/
theorem coordinate_cases (name : String) (o : Fields) :
    (Misfit IsNumber name o ∧ ∃ message,
      Wire.double? (.plain name) o = .violation name message) ∨
    (¬Misfit IsNumber name o ∧ ∃ x, Wire.double? (.plain name) o = .ok x ∧
      ∀ bound ∈ [90, 180], Misfit (IsDegrees bound) name o ↔
        withinDegrees bound (x.getD Double.zero) = false) := by
  have hzero : ∀ bound ∈ [90, 180], withinDegrees bound Double.zero = true := by decide +kernel
  unfold Wire.double? Misfit
  rw [Wire.find?_plain]
  cases Json.lookup name o with
  | none => exact .inr ⟨by simp, none, rfl, by simp [hzero]⟩
  | some v =>
    cases v with
    | null => exact .inr ⟨by simp [Json.isNull], none, rfl, by simp [Json.isNull, hzero]⟩
    | num n =>
      refine .inr ⟨by simp [IsNumber], some n.toDouble, rfl, fun bound hbound => ?_⟩
      have hwithin := withinDegrees_iff hbound n.toDouble
      rw [← Bool.not_eq_true, Option.getD_some, hwithin]
      simp [Json.isNull, IsDegrees]
    | _ => exact .inl ⟨by simp [Json.isNull, IsNumber], _, rfl⟩

/-- What is reported of the two coordinates: their types, and then their ranges. -/
def coordinateFaults (latitude longitude : Checked (Option Double)) : List Violation :=
  latitude.violations ++ longitude.violations ++
    match latitude, longitude with
    | .ok latitude, .ok longitude =>
      violations ⟨"", latitude.getD Double.zero, longitude.getD Double.zero⟩
    | _, _ => []

theorem fields_ofFields (o : Fields) :
    (ofFields o).fields =
      ((Wire.text? (.plain "placeholder") o).fields ++
        (coordinateFaults (Wire.double? (.plain "latitude") o)
          (Wire.double? (.plain "longitude") o)).map (·.field)).map nestedField := by
  simp only [ofFields, coordinateFaults, Wire.textOrEmpty, Checked.fields,
    Checked.violations_relabel, Checked.violations_and', Checked.violations_and,
    Checked.violations_map, Checked.violations_withViolations, List.map_map, List.map_append,
    List.append_assoc]
  rfl

theorem nestedField_coordinates :
    nestedField "latitude" = "location.latitude" ∧
    nestedField "longitude" = "location.longitude" ∧
    nestedField "location.latitude" = "location.latitude" ∧
    nestedField "location.longitude" = "location.longitude" := by decide

theorem ranges_reported (l : Location) (field : String) :
    (∃ fault ∈ l.violations, nestedField fault.field = field) ↔
      (field = "location.latitude" ∧ withinDegrees 90 l.latitude = false) ∨
        (field = "location.longitude" ∧ withinDegrees 180 l.longitude = false) := by
  obtain ⟨-, -, hlatitude, hlongitude⟩ := nestedField_coordinates
  unfold violations
  cases withinDegrees 90 l.latitude <;> cases withinDegrees 180 l.longitude <;>
    simp [hlatitude, hlongitude, eq_comm]

/-- A coordinate that is no number is reported. One that is out of range is reported only if the
other one is a number. -/
theorem coordinates_reported (o : Fields) (field : String) :
    (∃ fault ∈ coordinateFaults (Wire.double? (.plain "latitude") o)
        (Wire.double? (.plain "longitude") o), nestedField fault.field = field) ↔
      (field = "location.latitude" ∧ Misfit (IsDegrees 90) "latitude" o ∧
        (Misfit IsNumber "longitude" o → Misfit IsNumber "latitude" o)) ∨
      (field = "location.longitude" ∧ Misfit (IsDegrees 180) "longitude" o ∧
        (Misfit IsNumber "latitude" o → Misfit IsNumber "longitude" o)) := by
  obtain ⟨hlatName, hlongName, -, -⟩ := nestedField_coordinates
  rcases coordinate_cases "latitude" o with
    ⟨hlatitude, _, hlat⟩ | ⟨hlatitude, latitude, hlat, hlatRange⟩ <;>
  rcases coordinate_cases "longitude" o with
    ⟨hlongitude, _, hlong⟩ | ⟨hlongitude, longitude, hlong, hlongRange⟩ <;>
  simp only [coordinateFaults, hlat, hlong, Checked.violation, Checked.violations]
  · simp [hlatitude, hlongitude, misfit_degrees_of_number, hlatName, hlongName, eq_comm]
  · simp [hlatitude, hlongitude, misfit_degrees_of_number, hlatName, eq_comm]
  · simp [hlatitude, hlongitude, misfit_degrees_of_number, hlongName, eq_comm]
  · simp [hlatitude, hlongitude, hlatRange, hlongRange, ranges_reported]

/-- The field that each part of a location is reported under. -/
theorem mem_fields_ofFields (o : Fields) (field : String) :
    field ∈ (ofFields o).fields ↔
      (field = "location.placeholder" ∧ Misfit IsText "placeholder" o) ∨
      (field = "location.latitude" ∧ Misfit (IsDegrees 90) "latitude" o ∧
        (Misfit IsNumber "longitude" o → Misfit IsNumber "latitude" o)) ∨
      (field = "location.longitude" ∧ Misfit (IsDegrees 180) "longitude" o ∧
        (Misfit IsNumber "latitude" o → Misfit IsNumber "longitude" o)) := by
  rw [fields_ofFields, List.map_append, List.mem_append, List.map_map, List.mem_map,
    ← coordinates_reported o field]
  refine or_congr ?_ (by simp)
  have hname : nestedField "placeholder" = "location.placeholder" := by decide
  rcases Wire.text?_cases "placeholder" o with ⟨hmisfit, _, htext⟩ | ⟨hmisfit, _, htext⟩ <;>
    simp [htext, Checked.fields, Checked.violation, Checked.violations, hname, hmisfit, eq_comm]

end Location

namespace Memo

open Wire (FieldRule Misfit IsText IsNumber)
open Location (IsDegrees)

/-- Reading an object as a memo fails, and the error names the field. -/
def Reports (o : Fields) (field : String) : Prop :=
  ∃ e, (WireModel.ofWire (.object o) : Except ValidationError Memo) = .error e ∧
    e.mentions field = true

theorem reports_iff (o : Fields) (field : String) :
    Reports o field ↔ ∃ fault ∈ Wire.report rules o, fault.field = field := by
  have herror (e : ValidationError) :
      (WireModel.ofWire (.object o) : Except ValidationError Memo) = .error e ↔
        e = ⟨"memo", Wire.report rules o⟩ ∧ Wire.report rules o ≠ [] := by
    rw [← violations_ofFields]
    exact Checked.toExcept_eq_error
  constructor
  · rintro ⟨e, he, hfield⟩
    obtain ⟨rfl, -⟩ := (herror e).mp he
    simpa [ValidationError.mentions] using hfield
  · rintro ⟨fault, hfault, hfield⟩
    refine ⟨_, (herror _).mpr ⟨rfl, List.ne_nil_of_mem hfault⟩, ?_⟩
    simpa [ValidationError.mentions] using ⟨fault, hfault, hfield⟩

/-- No rule but the last one speaks of what is inside the location. -/
theorem reports_of_location {o l : Fields} {field : String}
    (hlocation : Json.lookup "location" o = some (.object l))
    (hinside : ∀ r ∈ rules.dropLast, Text.startsWith r.key.name field = false) :
    Reports o field ↔ field ∈ (Location.ofFields l).fields := by
  have hrule : (FieldRule.object (.plain "location") fun o =>
      (Location.ofFields o).violations).report o = (Location.ofFields l).violations := by
    have hfind : Wire.find? (.plain "location") o = some (.object l) := by
      rw [Wire.find?_plain, hlocation]
      rfl
    simp only [FieldRule.report, FieldRule.object, hfind]
  have hreport : Wire.report rules o =
      Wire.report rules.dropLast o ++ (Location.ofFields l).violations := by
    rw [← hrule]
    simp [Wire.report, rules]
  have hothers : ∀ fault ∈ Wire.report rules.dropLast o, fault.field ≠ field := by
    rintro fault hfault rfl
    obtain ⟨r, hr, hfault⟩ := List.mem_flatMap.mp hfault
    have hspeaks := rules_speak r (List.dropLast_subset rules hr) _ fault hfault
    rw [hinside r hr] at hspeaks
    cases hspeaks
  rw [reports_iff, hreport]
  simp only [List.mem_append, or_and_right, exists_or, Checked.fields, List.mem_map]
  refine or_iff_right ?_
  rintro ⟨fault, hfault, hfield⟩
  exact hothers fault hfault hfield

theorem rules_outside_location : ∀ r ∈ rules.dropLast,
    ∀ part ∈ ["location.placeholder", "location.latitude", "location.longitude"],
      Text.startsWith r.key.name part = false := by decide

/-- A placeholder is reported if it is no text. A coordinate is reported if it is no number of
degrees within its range, unless it is a number and the other coordinate is none. -/
theorem location_reported (o l : Fields) (hlocation : Json.lookup "location" o = some (.object l)) :
    (Reports o "location.placeholder" ↔ Misfit IsText "placeholder" l) ∧
    (Reports o "location.latitude" ↔ Misfit (IsDegrees 90) "latitude" l ∧
      (Misfit IsNumber "longitude" l → Misfit IsNumber "latitude" l)) ∧
    (Reports o "location.longitude" ↔ Misfit (IsDegrees 180) "longitude" l ∧
      (Misfit IsNumber "latitude" l → Misfit IsNumber "longitude" l)) := by
  have hpart : ∀ part ∈ ["location.placeholder", "location.latitude", "location.longitude"],
      (Reports o part ↔ part ∈ (Location.ofFields l).fields) := fun part hpart =>
    reports_of_location hlocation fun r hr => rules_outside_location r hr part hpart
  rw [hpart _ (by simp), hpart _ (by simp), hpart _ (by simp)]
  simp [Location.mem_fields_ofFields]

/-- A memo that is all right but for its location. -/
def located (location : Fields) : Fields := [
  ("createTime", .text "2024-01-01T00:00:00Z"), ("creator", .text "users/1"),
  ("location", .object location), ("name", .text "memos/1"), ("state", .text "NORMAL"),
  ("updateTime", .text "2024-01-01T00:00:00Z"), ("visibility", .text "PUBLIC")]

/-- Both coordinates are numbers, and both of them are out of range. -/
theorem location_reported_far :
    let l : Fields := [("latitude", .num (.nat 91)), ("longitude", .num (.nat 181))]
    Json.lookup "location" (located l) = some (.object l) ∧
      (Reports (located l) "location.placeholder" ↔ Misfit IsText "placeholder" l) ∧
      (Reports (located l) "location.latitude" ↔ Misfit (IsDegrees 90) "latitude" l ∧
        (Misfit IsNumber "longitude" l → Misfit IsNumber "latitude" l)) ∧
      (Reports (located l) "location.longitude" ↔ Misfit (IsDegrees 180) "longitude" l ∧
        (Misfit IsNumber "latitude" l → Misfit IsNumber "longitude" l)) := by
  intro l
  have hlocation : Json.lookup "location" (located l) = some (.object l) := rfl
  exact ⟨hlocation, location_reported (located l) l hlocation⟩

/-- The latitude is out of range, and nothing is said of it. -/
theorem unreported_though_far :
    let l : Fields := [("latitude", .num (.nat 120)), ("longitude", .text "x")]
    Misfit (IsDegrees 90) "latitude" l ∧ ¬Reports (located l) "location.latitude" := by
  intro l
  refine ⟨⟨.num (.nat 120), rfl, rfl, ?_⟩, ?_⟩
  · rintro ⟨n, hn, hwithin⟩
    cases hn
    revert hwithin
    decide +kernel
  · rw [reports_iff]
    decide +kernel

end Memo

end RemoteNotes
