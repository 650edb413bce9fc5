import RemoteNotes.Number.Decimal
import RemoteNotes.Number.Shortest

/-!
# JSON values

Values of a JSON document and their compact text. The fields of an object are kept in the
order of their names, each name once, and are written in that order.
-/

namespace RemoteNotes

open Number

namespace Json

/-- A number keeps the form that it was written in: without sign up to 64 bits, negative up
to 63 bits, and floating-point for everything else. -/
inductive Num
  | nat (n : Nat)
  | negative (n : Int) {h : n < 0}
  | float (x : Double)
  deriving DecidableEq

def Num.ofInt (n : Int) : Num := if h : n < 0 then .negative n (h := h) else .nat n.toNat

/-- The whole number that a signed 64-bit field would hold. -/
def Num.int64? : Num → Option Int
  | .nat n => if n ≤ maxInt64 then some n else none
  | .negative n => some n
  | .float _ => none

def Num.toDouble : Num → Double
  | .nat n => Double.ofNat n
  | .negative n => Double.ofInt n
  | .float x => x

/-- Points are written out from 0.00001 up to sixteen digits before the point. -/
def floatFormat : FloatFormat := { firstPoint := -4, lastPoint := 16, plusSign := true }

/-- Only finite numbers have a form of their own. -/
def Num.text : Num → String
  | .nat n => natText n
  | .negative n => intText n
  | .float x => if x.isFinite then floatFormat.write x else "null"

end Json

inductive Json
  | null
  | bool (b : Bool)
  | num (n : Json.Num)
  | text (s : String)
  | array (items : List Json)
  | object (fields : List (String × Json))
  deriving Inhabited

namespace Json

abbrev Fields := List (String × Json)

def lookup (key : String) : Fields → Option Json
  | [] => none
  | (k, v) :: rest => if k = key then some v else lookup key rest

/-- Puts a field in its place; an earlier value under the same name is replaced. -/
def insertField (key : String) (value : Json) : Fields → Fields
  | [] => [(key, value)]
  | (k, v) :: rest =>
    if key = k then (key, value) :: rest
    else if key < k then (key, value) :: (k, v) :: rest
    else (k, v) :: insertField key value rest

/-- An object with the given fields, in any order. -/
def ofFields (fields : Fields) : Json :=
  .object (fields.foldl (fun acc (k, v) => insertField k v acc) [])

def get? (key : String) : Json → Option Json
  | .object fields => lookup key fields
  | _ => none

def asText? : Json → Option String
  | .text s => some s
  | _ => none

def isNull : Json → Bool
  | .null => true
  | _ => false

def hexPair (n : Nat) : List Char :=
  let digit (k : Nat) := Char.ofNat (if k < 10 then 0x30 + k else 0x57 + k)
  [digit (n / 16), digit (n % 16)]

/-- Quotes, backslashes and control characters are escaped, and nothing else. -/
def escapeChar (c : Char) : List Char :=
  if c = '"' then ['\\', '"']
  else if c = '\\' then ['\\', '\\']
  else if c = '\n' then ['\\', 'n']
  else if c = '\r' then ['\\', 'r']
  else if c = '\t' then ['\\', 't']
  else if c.toNat = 8 then ['\\', 'b']
  else if c.toNat = 12 then ['\\', 'f']
  else if c.toNat < 0x20 then ['\\', 'u', '0', '0'] ++ hexPair c.toNat
  else [c]

def writeText (s : String) : List Char :=
  '"' :: s.toList.flatMap escapeChar ++ ['"']

mutual

def writeChars : Json → List Char
  | .null => ['n', 'u', 'l', 'l']
  | .bool true => ['t', 'r', 'u', 'e']
  | .bool false => ['f', 'a', 'l', 's', 'e']
  | .num n => n.text.toList
  | .text s => writeText s
  | .array items => '[' :: writeItems items ++ [']']
  | .object fields => '\x7b' :: writeFields fields ++ ['\x7d']

def writeItems : List Json → List Char
  | [] => []
  | [item] => writeChars item
  | item :: rest => writeChars item ++ ',' :: writeItems rest

def writeFields : List (String × Json) → List Char
  | [] => []
  | [(k, v)] => writeText k ++ ':' :: writeChars v
  | (k, v) :: rest => writeText k ++ ':' :: writeChars v ++ ',' :: writeFields rest

end

/-- The compact text of a value. -/
def write (v : Json) : String := String.ofList (writeChars v)

theorem lookup_insertField (key k : String) (value : Json) (fields : Fields) :
    lookup key (insertField k value fields) = if k = key then some value else lookup key fields := by
  induction fields with
  | nil => rfl
  | cons field rest ih =>
    obtain ⟨k', v'⟩ := field
    unfold insertField
    split
    · next h => subst h; simp only [lookup]; split <;> rfl
    · split
      · simp only [lookup]
      · next h _ =>
        simp only [lookup, ih]
        split <;> split <;> simp_all

end Json

end RemoteNotes
