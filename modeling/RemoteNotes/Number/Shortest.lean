import RemoteNotes.Number.Double

/-!
# Shortest decimals

The fewest decimal digits that read back as a given number, and among decimals of that
length the one nearest to it.
-/

namespace RemoteNotes.Number

/-- A positive decimal, `0.d₁d₂… * 10 ^ point`. -/
structure Decimal where
  digits : Nat
  length : Nat
  point : Int

/-- The greatest `k` with `10 ^ k ≤ num / den`, for positive numbers. -/
def floorLog10 (num den : Nat) : Int :=
  let reaches (k : Int) : Bool := den * tenTo k.toNat ≤ num * tenTo (-k).toNat
  let guess := floorLog2 num den * 30103 / 100000
  if reaches (guess + 1) then guess + 1 else if reaches guess then guess else guess - 1

namespace Double

/-- The numbers that round to `x` lie between these quarter steps, `(4s - below) / 4` and
`(4s + 2) / 4` in units of the significand `s`. The step below a power of two is half as
wide. -/
def quartersBelow (x : Double) : Nat :=
  if x.magnitude % twoTo 52 = 0 ∧ twoTo 53 ≤ x.magnitude then 1 else 2

/-- Whether `n * 10 ^ unit` rounds to `x`. -/
def covers (x : Double) (n : Nat) (unit : Int) : Bool :=
  let s := x.significand
  let e : Int := (x.exponent : Int) - 1077
  let value := n * tenTo unit.toNat * twoTo (-e).toNat
  let scale := tenTo (-unit).toNat * twoTo e.toNat
  let low := (4 * s - x.quartersBelow) * scale
  let high := (4 * s + 2) * scale
  if s % 2 = 0 then low ≤ value && value ≤ high else low < value && value < high

/-- The nearer neighbour of `x` on the grid of `length` digits, if one of them rounds to
`x`. -/
def onGrid? (x : Double) (top : Int) (length : Nat) : Option Decimal :=
  let unit := top + 1 - length
  let (num, den) := x.ratio
  let num := num * tenTo (-unit).toNat
  let den := den * tenTo unit.toNat
  let n := num / den
  let lowHit := x.covers n unit
  let highHit := x.covers (n + 1) unit
  let takeLow := lowHit && (!highHit || 2 * (num % den) < den || (2 * (num % den) == den && n % 2 == 0))
  if takeLow then some { digits := n, length, point := top + 1 }
  else if highHit then
    if n + 1 = tenTo length then some { digits := tenTo (length - 1), length, point := top + 2 }
    else some { digits := n + 1, length, point := top + 1 }
  else none

def shortestFrom (x : Double) (top : Int) : (tries length : Nat) → Decimal
  | 0, length => { digits := 0, length, point := top + 1 }
  | tries + 1, length => (x.onGrid? top length).getD (shortestFrom x top tries (length + 1))

/-- The shortest decimal that reads back as a finite number other than zero. -/
def shortest (x : Double) : Decimal :=
  let (num, den) := x.ratio
  x.shortestFrom (floorLog10 num den) 17 1

end Double

/-- Where positional notation ends, and how an exponent is written. -/
structure FloatFormat where
  /-- The least and the greatest place of the point that is still written positionally. -/
  firstPoint : Int
  lastPoint : Int
  plusSign : Bool

def zeros (n : Nat) : String := String.ofList (List.replicate n '0')

def takeString (n : Nat) (s : String) : String := String.ofList (s.toList.take n)

def dropString (n : Nat) (s : String) : String := String.ofList (s.toList.drop n)

/-- Digits with a point after the first `point` of them and with at least one digit on both
sides. -/
def positional (digits : String) (point : Int) : String :=
  let n : Int := digits.length
  if point ≤ 0 then "0." ++ zeros (-point).toNat ++ digits
  else if n ≤ point then digits ++ zeros (point - n).toNat ++ ".0"
  else takeString point.toNat digits ++ "." ++ dropString point.toNat digits

def scientific (plusSign : Bool) (digits : String) (point : Int) : String :=
  let mantissa :=
    if digits.length ≤ 1 then digits else takeString 1 digits ++ "." ++ dropString 1 digits
  let e := point - 1
  mantissa ++ "e" ++ (if e < 0 then "-" else if plusSign then "+" else "") ++ toString e.natAbs

def FloatFormat.write (f : FloatFormat) (x : Double) : String :=
  if x.isNaN then "NaN"
  else
    let sign := if x.negative then "-" else ""
    if !x.isFinite then sign ++ "inf"
    else if x.isZero then sign ++ "0.0"
    else
      let d := x.shortest
      let digits := toString d.digits
      sign ++
        if f.firstPoint ≤ d.point ∧ d.point ≤ f.lastPoint then positional digits d.point
        else scientific f.plusSign digits d.point

end RemoteNotes.Number
