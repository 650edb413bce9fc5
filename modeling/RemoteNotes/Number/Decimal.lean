import RemoteNotes.Number.Double
import RemoteNotes.Text.Blank

/-!
# Numbers in text

Whole numbers and floating-point numbers as people write them in settings: what is
accepted, and why the rest is refused.
-/

namespace RemoteNotes.Number

def digitValue? (c : Char) : Option Nat :=
  if c.isDigit then some (c.toNat - 0x30) else none

/-- Decimal digits without leading zeros. -/
def digitsOf (n : Nat) : List Char :=
  if n < 10 then [Char.ofNat (0x30 + n)] else digitsOf (n / 10) ++ [Char.ofNat (0x30 + n % 10)]

def natText (n : Nat) : String := String.ofList (digitsOf n)

def intText (n : Int) : String :=
  if n < 0 then String.ofList ('-' :: digitsOf n.natAbs) else natText n.natAbs

/-- Digits with zeros in front, up to a width. -/
def padded (width n : Nat) : String :=
  let ds := digitsOf n
  String.ofList (List.replicate (width - ds.length) '0' ++ ds)

inductive NumberFault
  | empty
  | badDigit
  | tooLarge
  | tooSmall
  | badFloat
  deriving DecidableEq

def NumberFault.message : NumberFault → String
  | .empty => "cannot parse integer from empty string"
  | .badDigit => "invalid digit found in string"
  | .tooLarge => "number too large to fit in target type"
  | .tooSmall => "number too small to fit in target type"
  | .badFloat => "invalid float literal"

/-- Reads digits into `acc`. The first digit that takes the number past `limit` ends the
reading, whatever follows it. -/
def readDigits (limit : Nat) (overflow : NumberFault) (acc : Nat) :
    List Char → Except NumberFault Nat
  | [] => .ok acc
  | c :: cs =>
    match digitValue? c with
    | none => .error .badDigit
    | some d =>
      if limit < acc * 10 + d then .error overflow
      else readDigits limit overflow (acc * 10 + d) cs

/-- A whole number up to `limit`, with an optional plus sign. -/
def readNat (limit : Nat) (s : String) : Except NumberFault Nat :=
  match s.toList with
  | [] => .error .empty
  | '+' :: [] => .error .badDigit
  | '+' :: cs => readDigits limit .tooLarge 0 cs
  | cs => readDigits limit .tooLarge 0 cs

/-- A whole number from `-limit - 1` to `limit`, with an optional sign. -/
def readInt (limit : Nat) (s : String) : Except NumberFault Int :=
  match s.toList with
  | [] => .error .empty
  | '+' :: [] => .error .badDigit
  | '-' :: [] => .error .badDigit
  | '+' :: cs => (readDigits limit .tooLarge 0 cs).map Int.ofNat
  | '-' :: cs => (readDigits (limit + 1) .tooSmall 0 cs).map fun n => -Int.ofNat n
  | cs => (readDigits limit .tooLarge 0 cs).map Int.ofNat

def maxUInt32 : Nat := twoTo 32 - 1

def maxUInt64 : Nat := twoTo 64 - 1

def maxInt64 : Nat := twoTo 63 - 1

def natOfDigits (cs : List Char) : Nat :=
  cs.foldl (fun acc c => acc * 10 + (digitValue? c).getD 0) 0

/-- The exponent behind the `e`: digits with an optional sign. -/
def readExponent? (cs : List Char) : Option Int :=
  let (sign, ds) := match cs with
    | '-' :: ds => (-1, ds)
    | '+' :: ds => (1, ds)
    | ds => ((1 : Int), ds)
  if ds.isEmpty || !ds.all Char.isDigit then none else some (sign * natOfDigits ds)

/-- Digits with an optional point and an optional exponent, at least one digit in all. -/
def readUnsignedFloat? (negative : Bool) (cs : List Char) : Option Double :=
  let whole := cs.takeWhile Char.isDigit
  let afterWhole := cs.dropWhile Char.isDigit
  let (fraction, rest) := match afterWhole with
    | '.' :: more => (more.takeWhile Char.isDigit, more.dropWhile Char.isDigit)
    | other => ([], other)
  if whole.isEmpty && fraction.isEmpty then none
  else
    let exponent? := match rest with
      | [] => some 0
      | c :: more => if c = 'e' ∨ c = 'E' then readExponent? more else none
    exponent?.map fun e =>
      Double.ofDecimal negative (natOfDigits (whole ++ fraction)) (e - fraction.length)

/-- A floating-point number, or the name of one that has no digits. -/
def readFloat (s : String) : Except NumberFault Double :=
  let (negative, cs) := match s.toList with
    | '-' :: cs => (true, cs)
    | '+' :: cs => (false, cs)
    | cs => (false, cs)
  let name := cs.map Char.toLower
  if name = ['n', 'a', 'n'] then .ok Double.nan
  else if name = ['i', 'n', 'f'] ∨ name = ['i', 'n', 'f', 'i', 'n', 'i', 't', 'y'] then
    .ok (Double.infinity negative)
  else match readUnsignedFloat? negative cs with
    | some x => .ok x
    | none => .error .badFloat

end RemoteNotes.Number
