import RemoteNotes.Number.Double
import RemoteNotes.Number.Decimal

/-!
# Spans of time

Timeouts and delays, counted in nanoseconds.
-/

namespace RemoteNotes.Time

open Number

structure Duration where
  nanos : Nat
  deriving DecidableEq

namespace Duration

def ofMillis (n : Nat) : Duration := ⟨n * 1000000⟩

def ofSeconds (n : Nat) : Duration := ⟨n * 1000000000⟩

def wholeSeconds (d : Duration) : Nat := d.nanos / 1000000000

def subsecond (d : Duration) : Nat := d.nanos % 1000000000

def min (d e : Duration) : Duration := if d.nanos ≤ e.nanos then d else e

inductive Fault
  | negative
  | tooBig
  deriving DecidableEq

def Fault.message : Fault → String
  | .negative => "cannot convert float seconds to Duration: value is negative"
  | .tooBig => "cannot convert float seconds to Duration: value is either too big or NaN"

/-- Seconds rounded to the nearest nanosecond, up to the last second that fits a 64-bit
count. -/
def ofFloatSeconds (x : Double) : Except Fault Duration :=
  if x.lt Double.zero then .error .negative
  else if !x.lt (Double.ofNat (twoTo 64)) then .error .tooBig
  else .ok ⟨roundHalfEven (x.ratio.1 * 1000000000) x.ratio.2⟩

/-- The span in seconds: whole seconds and the rest are rounded apart and then added. -/
def toFloatSeconds (d : Duration) : Double :=
  (Double.ofNat d.wholeSeconds).addMagnitudes (Double.ofRatio false d.subsecond 1000000000)

/-- A fraction of `width` digits without the zeros at its end, behind a point. -/
def fractionText (width n : Nat) : String :=
  let ds := Text.dropEndWhile (· == '0') (padded width n).toList
  if ds.isEmpty then "" else String.ofList ('.' :: ds)

/-- The greatest unit of which there is at least one, with the rest as its fraction. -/
def text (d : Duration) : String :=
  if 1000000000 ≤ d.nanos then
    natText (d.nanos / 1000000000) ++ fractionText 9 (d.nanos % 1000000000) ++ "s"
  else if 1000000 ≤ d.nanos then
    natText (d.nanos / 1000000) ++ fractionText 6 (d.nanos % 1000000) ++ "ms"
  else if 1000 ≤ d.nanos then
    natText (d.nanos / 1000) ++ fractionText 3 (d.nanos % 1000) ++ "µs"
  else natText d.nanos ++ "ns"

end Duration

end RemoteNotes.Time
