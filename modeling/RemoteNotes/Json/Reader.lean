import RemoteNotes.Json.Fault
import RemoteNotes.Text.Utf8

/-!
# Reading JSON text

Readers move over the octets of a document and keep track of the line and the column. They
are total: the loops count down the octets that are left, of which each round takes one.
-/

namespace RemoteNotes.Json

open Number
open Text.Utf8 (Octets)

structure Cursor where
  rest : Octets
  position : Position := ⟨1, 0⟩

/-- A reader fails or succeeds, and in both cases leaves a cursor behind. -/
abbrev Reader := ExceptT Fault (StateM Cursor)

namespace Reader

def advance (p : Position) (b : UInt8) : Position :=
  if b == 0x0A then ⟨p.line + 1, 0⟩ else ⟨p.line, p.column + 1⟩

def peek : Reader (Option UInt8) := do
  return (← get).rest.head?

/-- The next octet, or zero at the end. -/
def peekOrZero : Reader UInt8 := do
  return (← get).rest.head?.getD 0

/-- Takes the next octet, if there is one. -/
def next : Reader (Option UInt8) := do
  match ← get with
  | ⟨[], _⟩ => return none
  | ⟨b :: rest, p⟩ =>
    set (Cursor.mk rest (advance p b))
    return some b

def eat : Reader Unit := do
  let _ ← next

/-- Fails at the octets read so far. -/
def fail {α : Type} (fault : GrammarFault) : Reader α := do
  throw { cause := .grammar fault, position := some (← get).position }

/-- Fails at the octet that comes next. -/
def failAtNext {α : Type} (fault : GrammarFault) : Reader α := do
  let c ← get
  let position := match c.rest with
    | [] => c.position
    | b :: _ => advance c.position b
  throw { cause := .grammar fault, position := some position }

/-- Fails without a place; a reader around this one knows the place. -/
def refuse {α : Type} (cause : Cause) : Reader α :=
  throw { cause }

/-- Runs a reader and hands its failure on as a value. -/
def attempt {α : Type} (r : Reader α) : Reader (Except Fault α) := fun c =>
  let (result, c) := r.run c
  (.ok result, c)

/-- A failure without a place happened where the reader stopped. -/
def located {α : Type} (r : Reader α) : Reader α := do
  match ← attempt r with
  | .ok a => return a
  | .error f => throw (f.locate (← get).position)

def isBlankOctet (b : UInt8) : Bool := b == 0x20 || b == 0x0A || b == 0x09 || b == 0x0D

def dropBlanks : Octets → Position → Cursor
  | [], p => ⟨[], p⟩
  | b :: rest, p => if isBlankOctet b then dropBlanks rest (advance p b) else ⟨b :: rest, p⟩

def skipBlanks : Reader Unit := modify fun c => dropBlanks c.rest c.position

/-- The first octet behind blanks. -/
def peekPastBlanks : Reader (Option UInt8) := do
  skipBlanks
  peek

/-- The number of octets left, which bounds every loop. -/
def remaining : Reader Nat := do
  return (← get).rest.length

def quoteMark : UInt8 := 0x22
def comma : UInt8 := 0x2C
def openList : UInt8 := 0x5B
def closeList : UInt8 := 0x5D
def openObject : UInt8 := 0x7B
def closeObject : UInt8 := 0x7D

def isDigitOctet (b : UInt8) : Bool := 0x30 ≤ b && b ≤ 0x39

def isExponentMark (b : UInt8) : Bool := b == 0x65 || b == 0x45

/-- The rest of a name whose first letter has been taken. -/
def ident : List UInt8 → Reader Unit
  | [] => return ()
  | expected :: more => do
    match ← next with
    | none => fail .endInValue
    | some b => if b == expected then ident more else fail .expectedIdent

def identNull : Reader Unit := ident [0x75, 0x6C, 0x6C]
def identTrue : Reader Unit := ident [0x72, 0x75, 0x65]
def identFalse : Reader Unit := ident [0x61, 0x6C, 0x73, 0x65]

/-! ### Texts -/

def hexOctet? (b : UInt8) : Option Nat :=
  let n := b.toNat
  if 0x30 ≤ n ∧ n ≤ 0x39 then some (n - 0x30)
  else if 0x61 ≤ n ∧ n ≤ 0x66 then some (n - 0x57)
  else if 0x41 ≤ n ∧ n ≤ 0x46 then some (n - 0x37)
  else none

/-- Four hexadecimal digits. -/
def hexUnit : Reader Nat := do
  match (← get).rest with
  | a :: b :: c :: d :: _ =>
    eat; eat; eat; eat
    match hexOctet? a, hexOctet? b, hexOctet? c, hexOctet? d with
    | some a, some b, some c, some d => return ((a * 16 + b) * 16 + c) * 16 + d
    | _, _, _, _ => fail .invalidEscape
  | rest =>
    rest.forM fun _ => eat
    fail .endInText

def nextInText : Reader UInt8 := do
  match ← next with
  | some b => return b
  | none => fail .endInText

def isLowSurrogate (n : Nat) : Bool := 0xDC00 ≤ n && n ≤ 0xDFFF

def isHighSurrogate (n : Nat) : Bool := 0xD800 ≤ n && n ≤ 0xDBFF

/-- Takes the octet `b` that a surrogate pair needs next. -/
def pairOctet (b : UInt8) : Reader Unit := do
  match ← peek with
  | none => fail .endInText
  | some found =>
    eat
    if found != b then fail .endOfHexEscape

/-- A character by its number, in one unit or in a pair of surrogates. -/
def unicodeEscape : Reader Char := do
  let first ← hexUnit
  if isLowSurrogate first then fail .loneSurrogate
  if !isHighSurrogate first then return Char.ofNat first
  pairOctet 0x5C
  pairOctet 0x75
  let second ← hexUnit
  if !isLowSurrogate second then fail .loneSurrogate
  return Char.ofNat (0x10000 + (first - 0xD800) * 0x400 + (second - 0xDC00))

def simpleEscape? (b : UInt8) : Option UInt8 :=
  if b == 0x22 || b == 0x5C || b == 0x2F then some b
  else if b == 0x62 then some 0x08
  else if b == 0x66 then some 0x0C
  else if b == 0x6E then some 0x0A
  else if b == 0x72 then some 0x0D
  else if b == 0x74 then some 0x09
  else none

/-- The octets of an escape whose backslash has been taken. -/
def escape : Reader Octets := do
  let b ← nextInText
  match simpleEscape? b with
  | some c => return [c]
  | none =>
    if b == 0x75 then return String.utf8EncodeChar (← unicodeEscape) else fail .invalidEscape

/-- The octets up to the closing quote, after those in `acc`, last octet first. -/
def textOctets : (fuel : Nat) → (acc : Octets) → Reader Octets
  | 0, _ => fail .endInText
  | fuel + 1, acc => do
    let b ← nextInText
    if b == quoteMark then return acc.reverse
    else if b == 0x5C then
      let bs ← escape
      textOctets fuel (bs.reverse ++ acc)
    else if b < 0x20 then fail .controlCharacter
    else textOctets fuel (b :: acc)

/-- A text whose opening quote has been taken. -/
def textBody : Reader String := do
  let bs ← textOctets ((← remaining) + 1) []
  match Text.Utf8.decode? bs with
  | some cs => return String.ofList cs
  | none => fail .invalidCodePoint

/-! ### Numbers -/

/-- Takes digits while the number they form with `n` fits 64 bits. -/
def wordDigits : (fuel : Nat) → (n taken : Nat) → Reader (Nat × Nat × Bool)
  | 0, n, taken => return (n, taken, true)
  | fuel + 1, n, taken => do
    let b ← peekOrZero
    if isDigitOctet b then
      let n' := n * 10 + (b.toNat - 0x30)
      if maxUInt64 < n' then return (n, taken, false)
      eat
      wordDigits fuel n' (taken + 1)
    else return (n, taken, true)

def countDigits : (fuel : Nat) → (taken : Nat) → Reader Nat
  | 0, taken => return taken
  | fuel + 1, taken => do
    if isDigitOctet (← peekOrZero) then
      eat
      countDigits fuel (taken + 1)
    else return taken

def skipDigits : Reader Nat := do
  countDigits ((← remaining) + 1) 0

/-- The significand as the nearest number, times or divided by a power of ten. -/
def scale (negative : Bool) (significand : Nat) (exponent : Int) : Reader Double := do
  let f := Double.ofNat significand
  if 308 < exponent ∧ significand ≠ 0 then fail .numberOutOfRange
  let f :=
    if 308 < exponent then f
    else if 0 ≤ exponent then f.mul (Double.powerOfTen exponent.toNat)
    else f.divPowerOfTen exponent.natAbs
  if !f.isFinite then fail .numberOutOfRange
  return if negative then f.neg else f

def maxExponent : Nat := twoTo 31 - 1

/-- Digits of an exponent, unless they pass what 31 bits hold. -/
def exponentDigits : (fuel : Nat) → (n : Nat) → Reader (Option Nat)
  | 0, n => return some n
  | fuel + 1, n => do
    let b ← peekOrZero
    if isDigitOctet b then
      eat
      let n' := n * 10 + (b.toNat - 0x30)
      if maxExponent < n' then return none
      exponentDigits fuel n'
    else return some n

/-- An exponent whose mark comes next. -/
def exponentPart (negative : Bool) (significand : Nat) (start : Int) : Reader Double := do
  eat
  let sign ← peekOrZero
  if sign == 0x2B || sign == 0x2D then eat
  let down := sign == 0x2D
  match ← next with
  | none => fail .endInValue
  | some b =>
    if !isDigitOctet b then fail .invalidNumber
    match ← exponentDigits ((← remaining) + 1) (b.toNat - 0x30) with
    | some n => scale negative significand (if down then start - n else start + n)
    | none =>
      if significand ≠ 0 ∧ ¬down then fail .numberOutOfRange
      let _ ← skipDigits
      return { Double.zero with negative }

/-- What follows the digits: an exponent or nothing. -/
def optionalExponent (negative : Bool) (significand : Nat) (exponent : Int) : Reader Double := do
  if isExponentMark (← peekOrZero) then exponentPart negative significand exponent
  else scale negative significand exponent

/-- A fraction whose point comes next. Digits that do not fit 64 bits are dropped. -/
def fractionPart (negative : Bool) (significand : Nat) (exponent : Int) : Reader Double := do
  eat
  let (n, taken, fits) ← wordDigits ((← remaining) + 1) significand 0
  if fits then
    if taken = 0 then
      match ← peek with
      | some _ => failAtNext .invalidNumber
      | none => failAtNext .endInValue
  else
    let _ ← skipDigits
  optionalExponent negative n (exponent - taken)

/-- What follows whole digits that fit 64 bits. -/
def numberTail (negative : Bool) (n : Nat) : Reader Num := do
  let b ← peekOrZero
  if b == 0x2E then return .float (← fractionPart negative n 0)
  else if isExponentMark b then return .float (← exponentPart negative n 0)
  else if !negative then return .nat n
  else if h : n = 0 ∨ maxInt64 + 1 < n then return .float (Double.ofNat n).neg
  else return .negative (-n) (h := by omega)

/-- Whole digits past 64 bits count as powers of ten. -/
def longNumber (negative : Bool) (n : Nat) : Reader Num := do
  let dropped ← skipDigits
  let b ← peekOrZero
  if b == 0x2E then return .float (← fractionPart negative n dropped)
  else return .float (← optionalExponent negative n dropped)

/-- A number whose sign has been taken. -/
def number (negative : Bool) : Reader Num := do
  match ← next with
  | none => fail .endInValue
  | some b =>
    if b == 0x30 then
      if isDigitOctet (← peekOrZero) then failAtNext .invalidNumber
      numberTail negative 0
    else if isDigitOctet b then
      let (n, _, fits) ← wordDigits ((← remaining) + 1) (b.toNat - 0x30) 0
      if fits then numberTail negative n else longNumber negative n
    else fail .invalidNumber

/-- A null, a truth value, a number or a text, by the octet that comes next. -/
def scalar? (b : UInt8) : Option (Reader Json) :=
  if b == 0x6E then some do eat; identNull; return .null
  else if b == 0x74 then some do eat; identTrue; return .bool true
  else if b == 0x66 then some do eat; identFalse; return .bool false
  else if b == 0x2D then some do eat; return .num (← number true)
  else if isDigitOctet b then some do return .num (← number false)
  else if b == quoteMark then some do eat; return .text (← textBody)
  else none

/-! ### Lists and objects -/

/-- Whether another item follows; the comma in front of it has then been taken. -/
def hasItem (first : Bool) : Reader Bool := do
  match ← peekPastBlanks with
  | none => failAtNext .endInList
  | some b =>
    if b == closeList then return false
    if first then return true
    if b != comma then failAtNext .expectedListCommaOrEnd
    eat
    match ← peekPastBlanks with
    | none => failAtNext .endInValue
    | some b => if b == closeList then failAtNext .trailingComma else return true

/-- Whether another field follows; the comma in front of it has then been taken. -/
def hasField (first : Bool) : Reader Bool := do
  match ← peekPastBlanks with
  | none => failAtNext .endInObject
  | some b =>
    if b == closeObject then return false
    if first then
      if b == quoteMark then return true else failAtNext .keyMustBeText
    if b != comma then failAtNext .expectedObjectCommaOrEnd
    eat
    match ← peekPastBlanks with
    | none => failAtNext .endInValue
    | some b =>
      if b == quoteMark then return true
      else if b == closeObject then failAtNext .trailingComma
      else failAtNext .keyMustBeText

/-- The name of a field. -/
def key : Reader String := do
  eat
  textBody

def colon : Reader Unit := do
  match ← peekPastBlanks with
  | none => failAtNext .endInObject
  | some b => if b == 0x3A then eat else failAtNext .expectedColon

/-- The end of a list, when its items are wanted no more. -/
def endList : Reader Unit := do
  match ← peekPastBlanks with
  | none => failAtNext .endInList
  | some b =>
    if b == closeList then eat
    else if b == comma then
      eat
      match ← peekPastBlanks with
      | some b => if b == closeList then failAtNext .trailingComma else failAtNext .trailingCharacters
      | none => failAtNext .trailingCharacters
    else failAtNext .trailingCharacters

/-- The end of an object, when its fields are wanted no more. -/
def endObject : Reader Unit := do
  match ← peekPastBlanks with
  | none => failAtNext .endInObject
  | some b =>
    if b == closeObject then eat
    else if b == comma then failAtNext .trailingComma
    else failAtNext .trailingCharacters

/-- Reads what is inside brackets and then the closing one. A failure inside wins, but the
place of a failure without one is found after the attempt to close. -/
def enclosed {α : Type} (inside : Reader α) (close : Reader Unit) : Reader α := do
  let result ← attempt inside
  let closed ← attempt close
  match result with
  | .error f => throw f
  | .ok a =>
    match closed with
    | .error f => throw f
    | .ok () => return a

/-- Lists and objects may be nested in at most 127 others. -/
def maxDepth : Nat := 128

mutual

/-- Any value, with `depth - 1` levels left for what is nested in it. -/
def value : (fuel depth : Nat) → Reader Json
  | 0, _ => failAtNext .expectedValue
  | fuel + 1, depth => do
    match ← peekPastBlanks with
    | none => failAtNext .endInValue
    | some b =>
      match scalar? b with
      | some r => r
      | none =>
        if b == openList then
          if depth ≤ 1 then failAtNext .tooDeep
          eat
          return .array (← enclosed (items fuel (depth - 1) true) endList)
        else if b == openObject then
          if depth ≤ 1 then failAtNext .tooDeep
          eat
          return .object (← enclosed (fields fuel (depth - 1) []) endObject)
        else failAtNext .expectedValue

def items : (fuel depth : Nat) → (first : Bool) → Reader (List Json)
  | 0, _, _ => failAtNext .expectedValue
  | fuel + 1, depth, first => do
    if ← hasItem first then
      let item ← value fuel depth
      return item :: (← items fuel depth false)
    else return []

def fields : (fuel depth : Nat) → (acc : Fields) → Reader Fields
  | 0, _, _ => failAtNext .expectedValue
  | fuel + 1, depth, acc => do
    if ← hasField acc.isEmpty then
      let name ← key
      colon
      let v ← value fuel depth
      fields fuel depth (insertField name v acc)
    else return acc

end

/-- Any value at the nesting depth that a whole document starts with. -/
def document : Reader Json := do
  value (2 * (← remaining) + 2) maxDepth

/-- Nothing but blanks may follow. -/
def atEnd : Reader Unit := do
  match ← peekPastBlanks with
  | none => return ()
  | some _ => failAtNext .trailingCharacters

end Reader

/-- Reads a whole document from octets. -/
def readOctets {α : Type} (r : Reader α) (bs : Octets) : Except Fault α :=
  (do let a ← r; Reader.atEnd; return a : Reader α).run ⟨bs, ⟨1, 0⟩⟩ |>.1

/-- Reads a whole document from text. -/
def readText {α : Type} (r : Reader α) (s : String) : Except Fault α :=
  readOctets r (Text.Utf8.ofString s)

/-- The value of a JSON document. -/
def parse (s : String) : Except Fault Json := readText Reader.document s

end RemoteNotes.Json
