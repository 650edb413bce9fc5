/-!
# Calendar

Days of the Gregorian calendar, extended to all years, as numbers counted from the first
of January 1970.
-/

namespace RemoteNotes.Time

structure Date where
  year : Int
  month : Nat
  day : Nat
  deriving DecidableEq

def isLeapYear (y : Int) : Bool := y % 4 == 0 && (y % 100 != 0 || y % 400 == 0)

def monthLengths (y : Int) : List Nat :=
  [31, if isLeapYear y then 29 else 28, 31, 30, 31, 30, 31, 31, 30, 31, 30, 31]

/-- The number of the first of January of a year. -/
def yearStart (y : Int) : Int :=
  365 * (y - 1) + (y - 1) / 4 - (y - 1) / 100 + (y - 1) / 400 - 719162

/-- Days of a year before the first of a month. -/
def daysBefore (y : Int) (month : Nat) : Nat := ((monthLengths y).take (month - 1)).foldl (· + ·) 0

def Date.IsValid (d : Date) : Prop :=
  1 ≤ d.month ∧ d.month ≤ 12 ∧ 1 ≤ d.day ∧ d.day ≤ (monthLengths d.year).getD (d.month - 1) 0

instance (d : Date) : Decidable d.IsValid := by
  unfold Date.IsValid
  infer_instance

def Date.dayNumber (d : Date) : Int :=
  yearStart d.year + daysBefore d.year d.month + (d.day - 1 : Nat)

/-- The year that a day lies in. The mean length of a year gives a guess that is off by at
most one. -/
def yearOf (n : Int) : Int :=
  let guess := (n + 719162) * 400 / 146097 + 1
  if n < yearStart guess then guess - 1
  else if yearStart (guess + 1) ≤ n then guess + 1
  else guess

/-- Month and day for a number of days since the start of a year, given the months from
`month` on. -/
def monthAndDay (month : Nat) : List Nat → Nat → Nat × Nat
  | [], n => (month, n + 1)
  | length :: rest, n =>
    if n < length then (month, n + 1) else monthAndDay (month + 1) rest (n - length)

def Date.ofDayNumber (n : Int) : Date :=
  let year := yearOf n
  let (month, day) := monthAndDay 1 (monthLengths year) (n - yearStart year).toNat
  { year, month, day }

theorem yearStart_succ (y : Int) :
    yearStart (y + 1) = yearStart y + if isLeapYear y then 366 else 365 := by
  unfold yearStart isLeapYear
  split <;> rename_i h <;> simp at h <;> omega

/-- A day lies in the year found for it. -/
theorem yearOf_bounds (n : Int) : yearStart (yearOf n) ≤ n ∧ n < yearStart (yearOf n + 1) := by
  unfold yearOf
  dsimp only
  split
  · unfold yearStart at *; omega
  · split <;> unfold yearStart at * <;> omega

end RemoteNotes.Time
