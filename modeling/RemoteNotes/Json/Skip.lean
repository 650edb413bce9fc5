import RemoteNotes.Json.Reader

/-!
# Skipping values

Fields that nobody asked for are passed over. Their values have to follow the grammar, but
numbers may be of any size, texts of any octets, and nesting of any depth.
-/

namespace RemoteNotes.Json.Reader

/-- Passes over an exponent whose mark comes next. -/
def skipExponent : Reader Unit := do
  eat
  let sign ← peekOrZero
  if sign == 0x2B || sign == 0x2D then eat
  match ← next with
  | none => fail .invalidNumber
  | some b =>
    if !isDigitOctet b then fail .invalidNumber
    let _ ← skipDigits

/-- Passes over a fraction whose point comes next. -/
def skipFraction : Reader Unit := do
  eat
  let taken ← skipDigits
  if taken = 0 then failAtNext .invalidNumber
  if isExponentMark (← peekOrZero) then skipExponent

/-- Passes over a number whose sign has been taken. -/
def skipNumber : Reader Unit := do
  match ← next with
  | none => fail .invalidNumber
  | some b =>
    if b == 0x30 then
      if isDigitOctet (← peekOrZero) then failAtNext .invalidNumber
    else if isDigitOctet b then
      let _ ← skipDigits
    else fail .invalidNumber
    let b ← peekOrZero
    if b == 0x2E then skipFraction
    else if isExponentMark b then skipExponent

def skipEscape : Reader Unit := do
  let b ← nextInText
  if (simpleEscape? b).isNone then
    if b == 0x75 then
      let _ ← hexUnit
    else fail .invalidEscape

/-- Passes over a text whose opening quote has been taken. -/
def skipText : (fuel : Nat) → Reader Unit
  | 0 => fail .endInText
  | fuel + 1 => do
    match ← peek with
    | none => fail .endInText
    | some b =>
      if b < 0x20 then fail .controlCharacter
      eat
      if b == quoteMark then return ()
      if b == 0x5C then skipEscape
      skipText fuel

def skipKey (fuel : Nat) : Reader Unit := do
  match ← peekPastBlanks with
  | none => failAtNext .endInObject
  | some b =>
    if b != quoteMark then failAtNext .keyMustBeText
    eat
    skipText fuel
  colon

mutual

def skipValue : (fuel : Nat) → Reader Unit
  | 0 => failAtNext .expectedValue
  | fuel + 1 => do
    match ← peekPastBlanks with
    | none => failAtNext .endInValue
    | some b =>
      if b == 0x6E then do eat; identNull
      else if b == 0x74 then do eat; identTrue
      else if b == 0x66 then do eat; identFalse
      else if b == 0x2D then do eat; skipNumber
      else if isDigitOctet b then skipNumber
      else if b == quoteMark then do eat; skipText fuel
      else if b == openList then do eat; skipItems fuel true
      else if b == openObject then do eat; skipFields fuel true
      else failAtNext .expectedValue

def skipItems : (fuel : Nat) → (first : Bool) → Reader Unit
  | 0, _ => failAtNext .expectedValue
  | fuel + 1, first => do
    match ← peekPastBlanks with
    | none => failAtNext .endInList
    | some b =>
      if b == closeList then eat
      else
        if !first then
          if b != comma then failAtNext .expectedListCommaOrEnd
          eat
        skipValue fuel
        skipItems fuel false

def skipFields : (fuel : Nat) → (first : Bool) → Reader Unit
  | 0, _ => failAtNext .expectedValue
  | fuel + 1, first => do
    match ← peekPastBlanks with
    | none => failAtNext .endInObject
    | some b =>
      if b == closeObject then eat
      else
        if !first then
          if b != comma then failAtNext .expectedObjectCommaOrEnd
          eat
        skipKey fuel
        skipValue fuel
        skipFields fuel false

end

/-- Passes over the value that comes next. -/
def skip : Reader Unit := do
  skipValue (2 * (← remaining) + 2)

end RemoteNotes.Json.Reader
