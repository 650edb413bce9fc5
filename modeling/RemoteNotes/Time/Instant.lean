import RemoteNotes.Time.Calendar
import RemoteNotes.Number.Decimal

/-!
# Instants

Points in time to the nanosecond, and their text. A leap second keeps the number of the
second before it and counts a second's worth of extra nanoseconds.
-/

namespace RemoteNotes.Time

open Number

def secondsPerDay : Int := 86400

def nanosPerSecond : Nat := 1000000000

structure Instant where
  /-- Whole seconds since the start of 1970. -/
  seconds : Int
  nanos : Nat
  deriving DecidableEq

namespace Instant

/-- The first and the last second of the years that dates are kept for. -/
def firstSecond : Int := yearStart (-262143) * secondsPerDay

def lastSecond : Int := yearStart 262143 * secondsPerDay - 1

/-- The start of a second, if its year is kept. -/
def ofSeconds? (seconds : Int) : Option Instant :=
  if firstSecond ≤ seconds ∧ seconds ≤ lastSecond then some ⟨seconds, 0⟩ else none

def lt (a b : Instant) : Bool :=
  a.seconds < b.seconds || (a.seconds == b.seconds && a.nanos < b.nanos)

def le (a b : Instant) : Bool := !b.lt a

def addDays (t : Instant) (days : Nat) : Instant :=
  { t with seconds := t.seconds + days * secondsPerDay }

/-- The least whole second that is not before the instant. -/
def ceilSeconds (t : Instant) : Int := if 0 < t.nanos then t.seconds + 1 else t.seconds

def date (t : Instant) : Date := Date.ofDayNumber (t.seconds / secondsPerDay)

def secondOfDay (t : Instant) : Nat := (t.seconds % secondsPerDay).toNat

/-- Four digits, or a sign and at least four digits for a year that does not fit. -/
def yearText (y : Int) : String :=
  if 0 ≤ y ∧ y ≤ 9999 then padded 4 y.toNat
  else (if y < 0 then "-" else "+") ++ padded 4 y.natAbs

/-- The shortest exact fraction of 0, 3, 6 or 9 digits. -/
def fractionText (nanos : Nat) : String :=
  if nanos = 0 then ""
  else if nanos % 1000000 = 0 then "." ++ padded 3 (nanos / 1000000)
  else if nanos % 1000 = 0 then "." ++ padded 6 (nanos / 1000)
  else "." ++ padded 9 nanos

/-- The instant in Universal Time, by RFC 3339. -/
def text (t : Instant) : String :=
  let d := t.date
  let s := t.secondOfDay
  let extra := t.nanos / nanosPerSecond
  yearText d.year ++ "-" ++ padded 2 d.month ++ "-" ++ padded 2 d.day ++ "T" ++
    padded 2 (s / 3600) ++ ":" ++ padded 2 (s / 60 % 60) ++ ":" ++ padded 2 (s % 60 + extra) ++
    fractionText (t.nanos % nanosPerSecond) ++ "Z"

end Instant

end RemoteNotes.Time
