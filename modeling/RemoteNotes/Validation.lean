/-!
# Validation

What is reported of an object that breaks its rules. Checking never stops at the first
broken rule: the results of independent checks are combined, and all violations are kept
in the order of the checks.
-/

namespace RemoteNotes

structure Violation where
  field : String
  message : String
  deriving DecidableEq

structure ValidationError where
  /-- What was checked. -/
  subject : String
  violations : List Violation
  deriving DecidableEq

namespace ValidationError

def single (subject field message : String) : ValidationError :=
  { subject, violations := [{ field, message }] }

def message (e : ValidationError) : String :=
  "Invalid " ++ e.subject ++ ": " ++
    String.intercalate "; " (e.violations.map fun v => v.field ++ ": " ++ v.message)

def mentions (e : ValidationError) (field : String) : Bool :=
  e.violations.any (·.field == field)

end ValidationError

/-- A value, or at least one violation. -/
inductive Checked (α : Type) where
  | ok (a : α)
  | bad (first : Violation) (more : List Violation)
  deriving DecidableEq

namespace Checked

variable {α β : Type}

def violation (field message : String) : Checked α := .bad { field, message } []

def violations : Checked α → List Violation
  | .ok _ => []
  | .bad first more => first :: more

def value? : Checked α → Option α
  | .ok a => some a
  | .bad _ _ => none

def map (f : α → β) : Checked α → Checked β
  | .ok a => .ok (f a)
  | .bad first more => .bad first more

/-- Both results, or the violations of both. -/
def and (f : Checked (α → β)) (a : Checked α) : Checked β :=
  match f, a with
  | .ok f, .ok a => .ok (f a)
  | .ok _, .bad first more => .bad first more
  | .bad first more, a => .bad first (more ++ a.violations)

/-- The first value, provided the second check succeeds too. -/
def and' (a : Checked α) (b : Checked Unit) : Checked α := (a.map fun x () => x).and b

/-- A check that needs the value of another one. -/
def andThen (a : Checked α) (f : α → Checked β) : Checked β :=
  match a with
  | .ok a => f a
  | .bad first more => .bad first more

instance : Functor Checked where
  map := map

instance : Pure Checked where
  pure := .ok

instance : Seq Checked where
  seq f a := f.and (a ())

/-- All values, or all violations. -/
def all : List (Checked α) → Checked (List α)
  | [] => .ok []
  | a :: rest => (a.map List.cons).and (all rest)

/-- The value, unless there are violations. -/
def withViolations : List Violation → α → Checked α
  | [], a => .ok a
  | first :: more, _ => .bad first more

/-- A check of one field by a rule that gives its own message. -/
def ofExcept (field : String) : Except String α → Checked α
  | .ok a => .ok a
  | .error message => violation field message

/-- Moves every violation to another field name. -/
def relabel (f : String → String) : Checked α → Checked α
  | .ok a => .ok a
  | .bad first more =>
    .bad { first with field := f first.field } (more.map fun v => { v with field := f v.field })

def toExcept (subject : String) : Checked α → Except ValidationError α
  | .ok a => .ok a
  | .bad first more => .error { subject, violations := first :: more }

@[simp] theorem violations_ok (a : α) : (ok a).violations = [] := rfl

@[simp] theorem violations_map (f : α → β) (a : Checked α) :
    (a.map f).violations = a.violations := by
  cases a <;> rfl

@[simp] theorem violations_and (f : Checked (α → β)) (a : Checked α) :
    (f.and a).violations = f.violations ++ a.violations := by
  cases f <;> cases a <;> simp [Checked.and, violations]

@[simp] theorem violations_and' (a : Checked α) (b : Checked Unit) :
    (a.and' b).violations = a.violations ++ b.violations := by
  simp [and']

theorem violations_withViolations (vs : List Violation) (a : α) :
    (withViolations vs a).violations = vs := by
  cases vs <;> rfl

theorem violations_all (checks : List (Checked α)) :
    (all checks).violations = checks.flatMap violations := by
  induction checks with
  | nil => rfl
  | cons a rest ih => simp [all, ih]

theorem violations_all_mapIdx (check : Nat → β → Checked α) (xs : List β) :
    (all (xs.mapIdx check)).violations = (xs.mapIdx fun i x => (check i x).violations).flatten := by
  have hjudged : (xs.mapIdx check).map violations = xs.mapIdx fun i x => (check i x).violations :=
    List.ext_getElem (by simp) (by simp)
  rw [violations_all, List.flatMap_def, hjudged]

theorem violations_eq_nil_iff (a : Checked α) : a.violations = [] ↔ ∃ x, a = .ok x := by
  cases a <;> simp [violations]

theorem map_eq_ok {f : α → β} {a : Checked α} {y : β} :
    a.map f = .ok y ↔ ∃ x, a = .ok x ∧ f x = y := by
  cases a <;> simp [map]

theorem and_eq_ok {f : Checked (α → β)} {a : Checked α} {y : β} :
    f.and a = .ok y ↔ ∃ g x, f = .ok g ∧ a = .ok x ∧ g x = y := by
  cases f <;> cases a <;> simp [Checked.and]

theorem and'_eq_ok {a : Checked α} {b : Checked Unit} {x : α} :
    a.and' b = .ok x ↔ a = .ok x ∧ b = .ok () := by
  cases a <;> cases b <;> simp [and', Checked.and, map]

theorem withViolations_eq_ok {vs : List Violation} {a x : α} :
    withViolations vs a = .ok x ↔ vs = [] ∧ a = x := by
  cases vs <;> simp [withViolations]

theorem ofExcept_eq_ok {field : String} {r : Except String α} {x : α} :
    ofExcept field r = .ok x ↔ r = .ok x := by
  cases r <;> simp [ofExcept, violation]

theorem toExcept_eq_ok {subject : String} {a : Checked α} {x : α} :
    a.toExcept subject = .ok x ↔ a = .ok x := by
  cases a <;> simp [toExcept]

theorem all_eq_ok {checks : List (Checked α)} {xs : List α} :
    all checks = .ok xs ↔ checks = xs.map .ok := by
  induction checks generalizing xs with
  | nil => cases xs <;> simp [all]
  | cons a rest ih =>
    simp only [all, and_eq_ok, map_eq_ok, ih]
    constructor
    · rintro ⟨_, xs, ⟨x, rfl, rfl⟩, rfl, rfl⟩; rfl
    · cases xs with
      | nil => exact fun h => (nomatch h)
      | cons x xs => rintro ⟨⟩; exact ⟨_, xs, ⟨x, rfl, rfl⟩, rfl, rfl⟩

/-- Numbered items come to a list of values if each of them comes to its value. -/
theorem mapIdx_eq_map_iff {γ δ : Type} {f : Nat → α → γ} {g : α → δ} {p : β → γ} {q : β → δ}
    (h : ∀ i x y, f i x = p y ↔ g x = q y) {xs : List α} {ys : List β} :
    xs.mapIdx f = ys.map p ↔ xs.map g = ys.map q := by
  have hitem (i : Nat) : (xs.mapIdx f)[i]? = (ys.map p)[i]? ↔
      (xs.map g)[i]? = (ys.map q)[i]? := by
    simp only [List.getElem?_mapIdx, List.getElem?_map]
    cases xs[i]? with
    | none => cases ys[i]? <;> simp
    | some x => cases ys[i]? <;> simp [h]
  rw [List.ext_getElem?_iff, List.ext_getElem?_iff]
  exact forall_congr' hitem

/-- Checks of numbered items succeed if each of them does. -/
theorem all_mapIdx_eq_ok {label : Nat → String} {check : α → Except String β} {xs : List α}
    {ys : List β} :
    all (xs.mapIdx fun i x => ofExcept (label i) (check x)) = .ok ys ↔
      xs.map check = ys.map .ok := by
  have hcheck (i : Nat) (x : α) (y : β) :
      ofExcept (label i) (check x) = .ok y ↔ check x = .ok y := ofExcept_eq_ok
  rw [all_eq_ok, mapIdx_eq_map_iff hcheck]

end Checked

end RemoteNotes
