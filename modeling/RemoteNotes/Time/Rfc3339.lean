import RemoteNotes.Time.Instant
import RemoteNotes.Text.Blank

/-!
# Reading timestamps

Two readers for RFC 3339. The strict one takes fields of fixed width. The lenient one also
takes a year with a sign, fields without leading zeros, blanks around the parts and the
name `UTC`.
-/

namespace RemoteNotes.Time.Rfc3339

open Number (tenTo twoTo)

inductive Fault
  | tooShort
  | invalid
  | outOfRange
  | tooLong
  | impossible
  deriving DecidableEq

def Fault.message : Fault → String
  | .tooShort => "premature end of input"
  | .invalid => "input contains invalid characters"
  | .outOfRange => "input is out of range"
  | .tooLong => "trailing input"
  | .impossible => "no possible date and time matching input"

def isDigit (c : Char) : Bool := c.isDigit

def value (c : Char) : Nat := c.toNat - 0x30

/-- Exactly `n` digits after `acc`. -/
def digits (acc : Nat) : (n : Nat) → List Char → Except Fault (Nat × List Char)
  | 0, cs => .ok (acc, cs)
  | _ + 1, [] => .error .tooShort
  | n + 1, c :: cs => if isDigit c then digits (acc * 10 + value c) n cs else .error .invalid

def expect (p : Char → Bool) : List Char → Except Fault (Unit × List Char)
  | [] => .error .tooShort
  | c :: cs => if p c then .ok ((), cs) else .error .invalid

/-- At least one digit and at most `n`. -/
def someDigits (n : Nat) (cs : List Char) : Except Fault (Nat × List Char) :=
  match cs with
  | [] => .error .tooShort
  | c :: _ =>
    if isDigit c then
      let ds := (cs.take n).takeWhile isDigit
      .ok (Number.natOfDigits ds, cs.drop ds.length)
    else .error .invalid

/-- The digits of a fraction, scaled to nanoseconds. Digits past the ninth are dropped. -/
def fraction (cs : List Char) : Except Fault (Nat × List Char) := do
  let (n, rest) ← someDigits 9 cs
  let read := cs.length - rest.length
  return (n * tenTo (9 - read), rest.dropWhile isDigit)

def optionalFraction : List Char → Except Fault (Nat × List Char)
  | '.' :: cs => fraction cs
  | cs => .ok (0, cs)

/-- Two digits of an offset. A lone character that takes two octets is no digit. -/
def twoDigits : List Char → Except Fault (Char × Char × List Char)
  | [] => .error .tooShort
  | [c] => if c.toNat < 0x80 then .error .tooShort else .error .invalid
  | c :: d :: cs => if isDigit c && isDigit d then .ok (c, d, cs) else .error .invalid

def offsetSign : List Char → Except Fault (Int × List Char)
  | [] => .error .tooShort
  | c :: cs =>
    if c = '+' then .ok (1, cs)
    else if c = '-' ∨ c.toNat = 0x2212 then .ok (-1, cs)
    else .error .invalid

/-- A distance from Universal Time in seconds. -/
def signedOffset (separator : List Char → Except Fault (Unit × List Char)) (cs : List Char) : Except Fault (Int × List Char) := do
  let (sign, cs) ← offsetSign cs
  let (h1, h2, cs) ← twoDigits cs
  let ((), cs) ← separator cs
  let (m1, m2, cs) ← twoDigits cs
  if 6 ≤ value m1 then throw .outOfRange
  let hours := value h1 * 10 + value h2
  let minutes := value m1 * 10 + value m2
  return (sign * (hours * 3600 + minutes * 60 : Nat), cs)

def offset (separator : List Char → Except Fault (Unit × List Char)) : List Char → Except Fault (Int × List Char)
  | 'Z' :: cs => .ok (0, cs)
  | 'z' :: cs => .ok (0, cs)
  | cs => signedOffset separator cs

def isDateTimeSeparator (c : Char) : Bool := c == 'T' || c == 't' || c == ' '

/-- The instant at a local date and time. Second 60 is the leap second after second 59. -/
def instantAt (d : Date) (hour minute second nanos : Nat) (offset : Int) : Instant :=
  let (second, nanos) := if second = 60 then (59, nanos + nanosPerSecond) else (second, nanos)
  ⟨d.dayNumber * secondsPerDay + (hour * 3600 + minute * 60 + second : Nat) - offset, nanos⟩

/-- The shortest text of a date and a time. -/
def leastSize : Nat := 19

def strictOctets (s : String) (cs : List Char) : Except Fault Instant := do
  if s.utf8ByteSize < leastSize then throw .tooShort
  let (year, cs) ← digits 0 4 cs
  let ((), cs) ← expect (· == '-') cs
  let (month, cs) ← digits 0 2 cs
  let ((), cs) ← expect (· == '-') cs
  let (day, cs) ← digits 0 2 cs
  let date : Date := { year, month, day }
  if ¬date.IsValid then throw .outOfRange
  let ((), cs) ← expect isDateTimeSeparator cs
  let (hour, cs) ← digits 0 2 cs
  let ((), cs) ← expect (· == ':') cs
  let (minute, cs) ← digits 0 2 cs
  let ((), cs) ← expect (· == ':') cs
  let (second, cs) ← digits 0 2 cs
  let (nanos, cs) ← optionalFraction cs
  if 24 ≤ hour ∨ 60 ≤ minute ∨ 61 ≤ second then throw .outOfRange
  let (offset, cs) ← offset (expect (· == ':')) cs
  if ¬cs.isEmpty then throw .tooLong
  if 86400 ≤ offset.natAbs then throw .outOfRange
  return instantAt date hour minute second nanos offset

/-- Reads a timestamp whose fields have fixed width. -/
def parse (s : String) : Except Fault Instant := strictOctets s s.toList

def blanks (cs : List Char) : List Char := Text.trimStart cs

def literal (c : Char) (cs : List Char) : Except Fault (List Char) := do
  let ((), cs) ← expect (· == c) (blanks cs)
  return cs

/-- A year of up to four digits, or one of any length behind a sign. -/
def looseYear (cs : List Char) : Except Fault (Int × List Char) := do
  let (year, cs) ← match blanks cs with
    | '-' :: cs => do
      let (n, cs) ← someDigits cs.length cs
      pure (-(n : Int), cs)
    | '+' :: cs => do
      let (n, cs) ← someDigits cs.length cs
      pure ((n : Int), cs)
    | cs => do
      let (n, cs) ← someDigits 4 cs
      pure ((n : Int), cs)
  if year < -(twoTo 31 : Int) ∨ (twoTo 31 : Int) ≤ year then throw .outOfRange
  return (year, cs)

/-- Up to two digits for a number between two bounds. -/
def looseField (low high : Nat) (cs : List Char) : Except Fault (Nat × List Char) := do
  let (n, cs) ← someDigits 2 (blanks cs)
  if n < low ∨ high < n then throw .outOfRange
  return (n, cs)

def skipColonsAndBlanks (cs : List Char) : Except Fault (Unit × List Char) :=
  .ok ((), cs.dropWhile fun c => c == ':' || Text.isBlank c)

/-- An offset, or the name of Universal Time. -/
def looseOffset (cs : List Char) : Except Fault (Int × List Char) :=
  match cs with
  | u :: t :: c :: rest =>
    if [u, t, c].map Char.toLower = ['u', 't', 'c'] then .ok (0, rest)
    else offset skipColonsAndBlanks cs
  | _ => offset skipColonsAndBlanks cs

def looseChars (cs : List Char) : Except Fault Instant := do
  let (year, cs) ← looseYear cs
  let cs ← literal '-' cs
  let (month, cs) ← looseField 1 12 cs
  let cs ← literal '-' cs
  let (day, cs) ← looseField 1 31 cs
  let ((), cs) ← expect isDateTimeSeparator cs
  let (hour, cs) ← looseField 0 23 cs
  let cs ← literal ':' cs
  let (minute, cs) ← looseField 0 59 cs
  let cs ← literal ':' cs
  let (second, cs) ← looseField 0 60 cs
  let (nanos, cs) ← optionalFraction cs
  let (offset, cs) ← looseOffset (blanks cs)
  if ¬(blanks cs).isEmpty then throw .tooLong
  let date : Date := { year, month, day }
  if ¬date.IsValid ∨ year < -262143 ∨ 262142 < year then throw .outOfRange
  if 86400 ≤ offset.natAbs then throw .outOfRange
  let t := instantAt date hour minute second nanos offset
  if t.seconds < Instant.firstSecond ∨ Instant.lastSecond < t.seconds then throw .impossible
  return t

/-- Reads a timestamp with blanks, signed years and short fields. -/
def parseLenient (s : String) : Except Fault Instant := looseChars s.toList

end RemoteNotes.Time.Rfc3339
