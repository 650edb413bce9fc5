import RemoteNotes.Number.Power

/-!
# Binary floating-point numbers

Numbers of the 64-bit binary format, kept as a sign and a magnitude. Magnitudes grow with
the size of the number, so order is order of integers. Every operation here takes the
exact result as a ratio of natural numbers and rounds it once, to the nearest number and
from a tie to the one with the even magnitude.
-/

namespace RemoteNotes.Number

structure Double where
  negative : Bool
  /-- Exponent field and fraction field, read as one number. -/
  magnitude : Nat
  magnitude_lt : magnitude < twoTo 63 := by decide
  deriving DecidableEq

namespace Double

/-- The magnitude of an infinity. All greater ones stand for no number. -/
def infiniteMagnitude : Nat := 2047 * twoTo 52

def zero : Double := { negative := false, magnitude := 0 }

def one : Double := { negative := false, magnitude := 1023 * twoTo 52 }

def infinity (negative : Bool) : Double := { negative, magnitude := infiniteMagnitude }

def nan : Double := { negative := false, magnitude := 4095 * twoTo 51 }

def isNaN (x : Double) : Bool := infiniteMagnitude < x.magnitude

def isFinite (x : Double) : Bool := x.magnitude < infiniteMagnitude

def isZero (x : Double) : Bool := x.magnitude == 0

/-- The place of a number in the order. Both zeros have the same place. -/
def rank (x : Double) : Int := if x.negative then -x.magnitude else x.magnitude

/-- False as soon as one side is no number. -/
def le (x y : Double) : Bool := !x.isNaN && !y.isNaN && x.rank ≤ y.rank

def lt (x y : Double) : Bool := !x.isNaN && !y.isNaN && x.rank < y.rank

/-- Equality as numbers: the zeros are equal, and no number equals nothing. -/
def same (x y : Double) : Bool := !x.isNaN && !y.isNaN && x.rank == y.rank

def neg (x : Double) : Double := { x with negative := !x.negative }

/-- A finite number is `significand * 2 ^ (exponent - 1075)`; the exponent is at least 1. -/
def exponent (x : Double) : Nat := max 1 (x.magnitude / twoTo 52)

def significand (x : Double) : Nat :=
  if x.magnitude < twoTo 52 then x.magnitude else twoTo 52 + x.magnitude % twoTo 52

/-- Numerator and denominator of a finite number without its sign. -/
def ratio (x : Double) : Nat × Nat :=
  if 1075 ≤ x.exponent then (x.significand * twoTo (x.exponent - 1075), 1)
  else (x.significand, twoTo (1075 - x.exponent))

end Double

/-- The quotient rounded to the nearest integer, from a tie to the even one. -/
def roundHalfEven (num den : Nat) : Nat :=
  let q := num / den
  let r := num % den
  if 2 * r < den then q
  else if den < 2 * r then q + 1
  else if q % 2 = 0 then q else q + 1

/-- The greatest `k` with `2 ^ k ≤ num / den`, for positive numbers. -/
def floorLog2 (num den : Nat) : Int :=
  let k : Int := (num.log2 : Int) - den.log2
  if den * twoTo k.toNat ≤ num * twoTo (-k).toNat then k else k - 1

/-- The magnitude of the number nearest to a ratio. -/
def nearestMagnitude (num den : Nat) : Nat :=
  if num = 0 then 0
  else
    let unit := max (floorLog2 num den - 52) (-1074)
    let n := roundHalfEven (num * twoTo (-unit).toNat) (den * twoTo unit.toNat)
    min (n + (unit + 1074).toNat * twoTo 52) Double.infiniteMagnitude

namespace Double

/-- The number nearest to a ratio with a sign. -/
def ofRatio (negative : Bool) (num den : Nat) : Double where
  negative := negative
  magnitude := nearestMagnitude num den
  magnitude_lt := by
    unfold nearestMagnitude
    split
    · decide
    · exact Nat.lt_of_le_of_lt (Nat.min_le_right ..) (by decide)

def ofNat (n : Nat) : Double := ofRatio false n 1

def ofInt (n : Int) : Double := ofRatio (n < 0) n.natAbs 1

/-- The number nearest to `digits * 10 ^ exponent`. The bounds only spare work: beyond them
the result is infinite or zero whatever the digits are. -/
def ofDecimal (negative : Bool) (digits : Nat) (exponent : Int) : Double :=
  let bits := digits.log2
  if digits = 0 then { zero with negative }
  else if 400 < exponent + (bits * 3 / 10 : Nat) then infinity negative
  else if exponent + (bits / 3 + 1 : Nat) < -400 then { zero with negative }
  else ofRatio negative (digits * tenTo exponent.toNat) (tenTo (-exponent).toNat)

def mul (x y : Double) : Double :=
  let negative := x.negative != y.negative
  if x.isNaN || y.isNaN then nan
  else if !x.isFinite || !y.isFinite then
    if x.isZero || y.isZero then nan else infinity negative
  else ofRatio negative (x.ratio.1 * y.ratio.1) (x.ratio.2 * y.ratio.2)

/-- The quotient of two finite numbers, the second of which is not zero. -/
def div (x y : Double) : Double :=
  ofRatio (x.negative != y.negative) (x.ratio.1 * y.ratio.2) (x.ratio.2 * y.ratio.1)

/-- The sum of two finite numbers without a sign. -/
def addMagnitudes (x y : Double) : Double :=
  ofRatio false (x.ratio.1 * y.ratio.2 + y.ratio.1 * x.ratio.2) (x.ratio.2 * y.ratio.2)

/-- Powers by repeated squaring, rounded at every step: `power` times `base` for each binary
digit of the exponent that is set. -/
def powFrom (power base : Double) (n : Nat) : Double :=
  if n = 0 then power
  else
    let power := if n % 2 = 1 then power.mul base else power
    if n / 2 = 0 then power else powFrom power (base.mul base) (n / 2)
termination_by n

def pow (x : Double) (n : Nat) : Double := powFrom one x n

def powerOfTen (n : Nat) : Double := ofNat (tenTo n)

/-- Divides by a power of ten in steps of at most 308 places. -/
def divPowerOfTen (x : Double) (places : Nat) : Double :=
  if places ≤ 308 then x.div (powerOfTen places)
  else if x.isZero then x
  else divPowerOfTen (x.div (powerOfTen 308)) (places - 308)
termination_by places

theorem nearestMagnitude_le (num den : Nat) : nearestMagnitude num den ≤ infiniteMagnitude := by
  unfold nearestMagnitude
  split
  · exact Nat.zero_le _
  · exact Nat.min_le_right ..

theorem isNaN_ofRatio (negative : Bool) (num den : Nat) :
    (ofRatio negative num den).isNaN = false :=
  decide_eq_false (Nat.not_lt.mpr (nearestMagnitude_le num den))

theorem le_iff {x y : Double} :
    x.le y = true ↔ x.isNaN = false ∧ y.isNaN = false ∧ x.rank ≤ y.rank := by
  simp [le, and_assoc]

end Double

end RemoteNotes.Number
