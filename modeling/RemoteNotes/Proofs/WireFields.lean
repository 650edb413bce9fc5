import RemoteNotes.Proofs.Digits
import RemoteNotes.Proofs.Trimming
import RemoteNotes.Wire.Field

/-!
# Fields read back

What is known of a field that was read, and which fields are read as what was written. The
statements speak of the value of a field, so that one look-up in the written object settles
each of them.
-/

namespace RemoteNotes

namespace Json

@[simp] theorem lookup_nil (key : String) : lookup key [] = none := rfl

@[simp] theorem lookup_cons (key k : String) (v : Json) (fields : Fields) :
    lookup key ((k, v) :: fields) = if k = key then some v else lookup key fields := rfl

@[simp] theorem lookup_append (key : String) (fields more : Fields) :
    lookup key (fields ++ more) = (lookup key fields).or (lookup key more) := by
  induction fields with
  | nil => rfl
  | cons field rest ih =>
    obtain ⟨k, v⟩ := field
    rw [List.cons_append, lookup, lookup, ih]
    split <;> rfl

theorem lookup_filter_ne (key name : String) (o : Fields) :
    lookup key (o.filter fun field => field.1 ≠ name) =
      if key = name then none else lookup key o := by
  induction o with
  | nil => simp
  | cons field rest ih =>
    obtain ⟨k, v⟩ := field
    by_cases hk : k = name
    · subst hk
      rw [List.filter_cons_of_neg (by simp), ih, lookup_cons]
      by_cases hkey : key = k
      · simp [hkey]
      · rw [if_neg hkey, if_neg hkey, if_neg (Ne.symm hkey)]
    · rw [List.filter_cons_of_pos (by simpa using hk), lookup_cons, lookup_cons, ih]
      by_cases hkey : k = key
      · rw [if_pos hkey, if_pos hkey, if_neg (hkey ▸ hk)]
      · rw [if_neg hkey, if_neg hkey]

/-- A field that may be missing. -/
@[simp] theorem lookup_reverse_toList_map {α : Type} (key k : String) (a? : Option α)
    (f : α → Json) :
    lookup key (a?.map fun a => (k, f a)).toList.reverse = if k = key then a?.map f else none := by
  cases a? with
  | none => simp
  | some a => rfl

@[simp] theorem isNull_bool (b : Bool) : (Json.bool b).isNull = false := rfl

@[simp] theorem isNull_text (s : String) : (Json.text s).isNull = false := rfl

@[simp] theorem isNull_array (items : List Json) : (Json.array items).isNull = false := rfl

@[simp] theorem isNull_num (n : Num) : (Json.num n).isNull = false := rfl

@[simp] theorem isNull_ofFields (fields : Fields) : (ofFields fields).isNull = false := rfl

/-- Among fields of one name the last one counts. -/
theorem lookup_foldl_insertField (key : String) (fields acc : Fields) :
    lookup key (fields.foldl (fun acc (k, v) => insertField k v acc) acc) =
      (lookup key fields.reverse).or (lookup key acc) := by
  induction fields generalizing acc with
  | nil => rfl
  | cons field rest ih =>
    obtain ⟨k, v⟩ := field
    rw [List.foldl_cons, ih, lookup_insertField, List.reverse_cons, lookup_append, Option.or_assoc]
    congr 1
    rw [lookup_cons]
    split <;> rfl

end Json

namespace Checked

variable {α β : Type}

theorem relabel_eq_ok {f : String → String} {a : Checked α} {x : α} :
    a.relabel f = .ok x ↔ a = .ok x := by
  cases a <;> simp [relabel]

theorem andThen_eq_ok {a : Checked α} {f : α → Checked β} {y : β} :
    a.andThen f = .ok y ↔ ∃ x, a = .ok x ∧ f x = .ok y := by
  cases a <;> simp [andThen]

end Checked

namespace Wire

open Json (Fields)
open Number (Double)

variable {α β : Type} {k : Key} {o : Fields}

@[simp] theorem Key.plain_name (name : String) : (Key.plain name).name = name := rfl

@[simp] theorem Key.plain_alternative (name : String) : (Key.plain name).alternative = name := rfl

/-- An object was made from a list of fields. -/
def MadeOf (o fields : Fields) : Prop :=
  o = fields.foldl (fun acc (k, v) => Json.insertField k v acc) []

theorem MadeOf.find? {o fields : Fields} (h : MadeOf o fields) {v? : Option Json}
    (hlookup : (Json.lookup k.name fields.reverse).or
      (Json.lookup k.alternative fields.reverse) = v?)
    (hnull : ∀ v ∈ v?, v.isNull = false) : Wire.find? k o = v? := by
  subst h
  simp only [Wire.find?, Json.lookup_foldl_insertField, Json.lookup_nil, Option.or_none, hlookup]
  cases v? with
  | none => rfl
  | some v => simp [Option.filter, hnull v rfl]

-- ---------------------------------------------------------------------------
-- Fields that were read
-- ---------------------------------------------------------------------------

theorem text?_eq_ok {s? : Option String} :
    text? k o = .ok s? ↔ find? k o = s?.map .text := by
  unfold text?
  cases find? k o with
  | none => cases s? <;> simp
  | some v => cases v <;> cases s? <;> simp [mismatch, Checked.violation]

theorem required_eq_ok {parse : String → Except String α} {a : α} :
    required k parse o = .ok a ↔ ∃ s, find? k o = some (.text s) ∧ parse s = .ok a := by
  simp only [required, requiredText, Checked.andThen_eq_ok, Checked.ofExcept_eq_ok, text?_eq_ok]
  constructor
  · rintro ⟨s, ⟨_ | _, hfind, hs⟩, hparse⟩
    · contradiction
    · cases hs
      exact ⟨s, hfind, hparse⟩
  · rintro ⟨s, hfind, hparse⟩
    exact ⟨s, ⟨some s, hfind, rfl⟩, hparse⟩

theorem nonEmptyText?_eq_ok {s? : Option String} (h : nonEmptyText? k o = .ok s?) :
    s? ≠ some "" := by
  obtain ⟨read, -, rfl⟩ := Checked.map_eq_ok.mp h
  intro hempty
  have := (Option.filter_eq_some_iff.mp hempty).2
  contradiction

theorem optional_eq_some {parse : String → Except String α} {a : α}
    (h : optional k parse o = .ok (some a)) :
    ∃ s, find? k o = some (.text s) ∧ parse s = .ok a := by
  obtain ⟨s?, hread, hs⟩ := Checked.andThen_eq_ok.mp h
  cases s? with
  | none => cases hs
  | some s =>
    obtain ⟨read, htext, hfilter⟩ := Checked.map_eq_ok.mp hread
    obtain ⟨rfl, -⟩ := Option.filter_eq_some_iff.mp hfilter
    obtain ⟨a', hparse, ha⟩ := Checked.map_eq_ok.mp hs
    cases ha
    exact ⟨s, text?_eq_ok.mp htext, Checked.ofExcept_eq_ok.mp hparse⟩

theorem items_eq_ok {check : Nat → Json → Checked α} {xs : List α}
    (h : items k check o = .ok xs) : ∀ x ∈ xs, ∃ i v, check i v = .ok x := by
  obtain ⟨vs, -, hall⟩ := Checked.andThen_eq_ok.mp h
  rw [Checked.all_eq_ok] at hall
  intro x hx
  have hmem : Checked.ok x ∈ vs.mapIdx check := hall ▸ List.mem_map_of_mem hx
  obtain ⟨i, hi, heq⟩ := List.mem_mapIdx.mp hmem
  exact ⟨i, vs[i], heq⟩

theorem int64OrZero_le {n : Int} (h : int64OrZero k o = .ok n) : n ≤ Number.maxInt64 := by
  unfold int64OrZero at h
  split at h
  · cases h
    exact Int.natCast_nonneg _
  · next m _ =>
    split at h
    · next i hi =>
      cases h
      cases m with
      | nat m =>
        obtain ⟨hm, hi⟩ := Option.ite_none_right_eq_some.mp hi
        cases hi
        exact Int.ofNat_le.mpr hm
      | @negative m hm =>
        cases hi
        exact Int.le_trans (Int.le_of_lt hm) (Int.natCast_nonneg _)
      | float x => contradiction
    · contradiction
  · split at h
    · next i hi =>
      cases h
      exact Number.readInt_le hi
    · contradiction
  · contradiction

-- ---------------------------------------------------------------------------
-- Fields that were written
-- ---------------------------------------------------------------------------

theorem required_written {parse : String → Except String α} {s : String} {a : α}
    (hfind : find? k o = some (.text s)) (hparse : parse s = .ok a) :
    required k parse o = .ok a := required_eq_ok.mpr ⟨s, hfind, hparse⟩

theorem textOrEmpty_written {s : String} (hfind : find? k o = some (.text s)) :
    textOrEmpty k o = .ok s :=
  Checked.map_eq_ok.mpr ⟨some s, text?_eq_ok.mpr hfind, rfl⟩

theorem nonEmptyText?_written {s? : Option String} (hfind : find? k o = s?.map .text)
    (hne : s? ≠ some "") : nonEmptyText? k o = .ok s? := by
  refine Checked.map_eq_ok.mpr ⟨s?, text?_eq_ok.mpr hfind, ?_⟩
  cases s? with
  | none => rfl
  | some s => simpa [Option.filter] using hne

theorem optional_written {parse : String → Except String α} {text : α → String} {a? : Option α}
    (hfind : find? k o = a?.map fun a => .text (text a)) (hne : ∀ a ∈ a?, text a ≠ "")
    (hparse : ∀ a ∈ a?, parse (text a) = .ok a) : optional k parse o = .ok a? := by
  have hread : nonEmptyText? k o = .ok (a?.map text) := by
    refine nonEmptyText?_written ?_ ?_
    · rw [hfind, Option.map_map]
      rfl
    · intro hempty
      obtain ⟨a, ha, hs⟩ := Option.map_eq_some_iff.mp hempty
      exact hne a ha hs
  refine Checked.andThen_eq_ok.mpr ⟨a?.map text, hread, ?_⟩
  cases a? with
  | none => rfl
  | some a => exact Checked.map_eq_ok.mpr ⟨a, Checked.ofExcept_eq_ok.mpr (hparse a rfl), rfl⟩

theorem boolOrFalse_written {b : Bool} (hfind : find? k o = some (.bool b)) :
    boolOrFalse k o = .ok b := by
  rw [boolOrFalse, hfind]

theorem double?_written {x : Double} (hfind : find? k o = some (.num (.float x))) :
    double? k o = .ok (some x) := by
  rw [double?, hfind]
  rfl

theorem items_written {check : Nat → Json → Checked α} {write : α → Json} {xs : List α}
    (hfind : find? k o = some (.array (xs.map write)))
    (hcheck : ∀ i, ∀ x ∈ xs, check i (write x) = .ok x) : items k check o = .ok xs := by
  refine Checked.andThen_eq_ok.mpr ⟨xs.map write, by rw [array, hfind], Checked.all_eq_ok.mpr ?_⟩
  refine List.ext_getElem (by simp) ?_
  intro i hi hi'
  rw [List.getElem_mapIdx, List.getElem_map, List.getElem_map]
  exact hcheck i _ (List.getElem_mem _)

theorem trimmed_intText (n : Int) : Text.trimmed (Number.intText n) = Number.intText n := by
  have hchars : ∀ c ∈ (Number.intText n).toList, Text.isBlank c = false := fun c hc => by
    rcases Number.mem_intText hc with rfl | hdigit
    · rfl
    · exact Text.isBlank_of_isDigit hdigit
  exact Text.trimmed_of_noBlanks hchars

theorem int64OrZero_written {n : Int} (hfind : find? k o = some (.text (Number.intText n)))
    (hn : 0 ≤ n) (hlimit : n ≤ Number.maxInt64) : int64OrZero k o = .ok n := by
  rw [int64OrZero, hfind]
  dsimp only
  rw [trimmed_intText, Number.readInt_intText hn hlimit]

end Wire

end RemoteNotes
