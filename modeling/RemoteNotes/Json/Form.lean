import RemoteNotes.Json.Skip
import RemoteNotes.Time.Rfc3339

/-!
# Documents with a fixed form

Settings and credentials come as JSON documents whose fields have known names and types. A
form reads them in two ways: from the text, where a fault has a place, and from a value
that has been read before.
-/

namespace RemoteNotes.Json

open Number

structure Form (α : Type) where
  ofText : Reader α
  ofValue : Json → Except Cause α

namespace Form

open Reader

variable {α β : Type}

def map (f : α → β) (form : Form α) : Form β where
  ofText := do return f (← form.ofText)
  ofValue v := (form.ofValue v).map f

/-- Fails at a value of the wrong type, once it is known what it is. -/
def mismatch (expected : String) : Reader α := do
  match ← peek with
  | none => failAtNext .endInValue
  | some b =>
    match scalar? b with
    | some r =>
      let v ← r
      located (refuse (.wrongType (describe v) expected))
    | none =>
      if b == openList then located (refuse (.wrongType "sequence" expected))
      else if b == openObject then located (refuse (.wrongType "map" expected))
      else failAtNext .expectedValue

/-- The first octet of a value that has to be there. -/
def firstOctet : Reader UInt8 := do
  match ← peekPastBlanks with
  | none => failAtNext .endInValue
  | some b => return b

def judged (result : Except Cause α) : Reader α := do
  match result with
  | .ok a => return a
  | .error cause => located (refuse cause)

/-- A text that has to follow a rule. -/
def textBy (expected : String) (parse : String → Except Cause α) : Form α where
  ofText := do
    if (← firstOctet) == quoteMark then
      eat
      judged (parse (← textBody))
    else mismatch expected
  ofValue
    | .text s => parse s
    | v => .error (.wrongType (describe v) expected)

def text : Form String := textBy "a string" .ok

def instant : Form Time.Instant :=
  textBy "an RFC 3339 formatted date and time string" fun s =>
    (Time.Rfc3339.parseLenient s).mapError fun fault => .other fault.message

/-- A number that has to follow a rule. -/
def numberBy (expected : String) (parse : Num → Except Cause α) : Form α where
  ofText := do
    let b ← firstOctet
    if b == 0x2D then
      eat
      judged (parse (← number true))
    else if isDigitOctet b then judged (parse (← number false))
    else mismatch expected
  ofValue
    | .num n => parse n
    | v => .error (.wrongType (describe v) expected)

/-- A whole number up to a limit. -/
def nat (limit : Nat) (name : String) : Form Nat :=
  numberBy name fun
    | .nat n => if n ≤ limit then .ok n else .error (.wrongValue (describeNum (.nat n)) name)
    | m@(.negative _) => .error (.wrongValue (describeNum m) name)
    | .float x => .error (.wrongType (describeNum (.float x)) name)

/-- A whole number from `-limit - 1` to `limit`. -/
def int (limit : Nat) (name : String) : Form Int :=
  numberBy name fun
    | .nat n => if n ≤ limit then .ok n else .error (.wrongValue (describeNum (.nat n)) name)
    | m@(.negative n) =>
      if -(limit : Int) - 1 ≤ n then .ok n else .error (.wrongValue (describeNum m) name)
    | .float x => .error (.wrongType (describeNum (.float x)) name)

def double : Form Double := numberBy "f64" fun n => .ok n.toDouble

def bool : Form Bool where
  ofText := do
    let b ← firstOctet
    if b == 0x74 then do eat; identTrue; return true
    else if b == 0x66 then do eat; identFalse; return false
    else mismatch "a boolean"
  ofValue
    | .bool b => .ok b
    | v => .error (.wrongType (describe v) "a boolean")

/-- A value or a null. -/
def optional (form : Form α) : Form (Option α) where
  ofText := do
    if (← peekPastBlanks) == some 0x6E then do eat; identNull; return none
    else return some (← form.ofText)
  ofValue
    | .null => .ok none
    | v => (form.ofValue v).map some

def itemsOf (r : Reader α) : (fuel : Nat) → (first : Bool) → Reader (List α)
  | 0, _ => failAtNext .expectedValue
  | fuel + 1, first => do
    if ← hasItem first then
      let a ← r
      return a :: (← itemsOf r fuel false)
    else return []

def list (form : Form α) : Form (List α) where
  ofText := do
    if (← firstOctet) == openList then
      eat
      located (enclosed (do itemsOf form.ofText ((← remaining) + 1) true) endList)
    else mismatch "a sequence"
  ofValue
    | .array items => items.mapM form.ofValue
    | v => .error (.wrongType (describe v) "a sequence")

/-- Puts an entry in its place by name; an earlier one under that name is replaced. -/
def insertEntry (key : String) (value : α) : List (String × α) → List (String × α)
  | [] => [(key, value)]
  | (k, v) :: rest =>
    if key = k then (key, value) :: rest
    else if key < k then (key, value) :: (k, v) :: rest
    else (k, v) :: insertEntry key value rest

def entriesOf (r : Reader α) : (fuel : Nat) → (acc : List (String × α)) →
    Reader (List (String × α))
  | 0, _ => failAtNext .expectedValue
  | fuel + 1, acc => do
    if ← hasField acc.isEmpty then
      let name ← key
      colon
      let a ← r
      entriesOf r fuel (insertEntry name a acc)
    else return acc

/-- An object with any names, in the order of its names. -/
def entries (form : Form α) : Form (List (String × α)) where
  ofText := do
    if (← firstOctet) == openObject then
      eat
      located (enclosed (do entriesOf form.ofText ((← remaining) + 1) []) endObject)
    else mismatch "a map"
  ofValue
    | .object fields => fields.mapM fun (k, v) => (form.ofValue v).map fun a => (k, a)
    | v => .error (.wrongType (describe v) "a map")

/-! ### Choices -/

def choose (choices : List (String × α)) (name : String) : Except Cause α :=
  match choices.lookup name with
  | some a => .ok a
  | none => .error (.unknownChoice name (choices.map (·.1)))

def nullValue : Form Unit where
  ofText := do
    if (← firstOctet) == 0x6E then do eat; identNull
    else mismatch "unit"
  ofValue
    | .null => .ok ()
    | v => .error (.wrongType (describe v) "unit")

/-- A choice by its name, a text whose opening quote comes next. -/
def choiceName (choices : List (String × α)) : Reader α := do
  eat
  judged (choose choices (← textBody))

/-- The only field of an object whose opening brace has been taken: a choice and a null. An
object without fields lacks a value, and any other start of a name is not a text. -/
def choiceField (choices : List (String × α)) : Reader α := do
  match ← peekPastBlanks with
  | none => failAtNext .endInObject
  | some b =>
    if b == closeObject then failAtNext .expectedValue
    if b != quoteMark then failAtNext .keyMustBeText
    let a ← choiceName choices
    colon
    nullValue.ofText
    match ← peekPastBlanks with
    | none => fail .endInObject
    | some b => if b == closeObject then eat else fail .expectedValue
    return a

/-- One of several names, as a text or as the only name of an object that holds a null. -/
def choice (choices : List (String × α)) : Form α where
  ofText := do
    let b ← firstOctet
    if b == quoteMark then choiceName choices
    else if b == openObject then do eat; choiceField choices
    else failAtNext .expectedValue
  ofValue
    | .text s => choose choices s
    | .object [(name, v)] => do
      let a ← choose choices name
      nullValue.ofValue v
      return a
    | .object _ => .error (.wrongValue "map" "map with a single key")
    | v => .error (.wrongType (describe v) "string or map")

/-! ### Records -/

/-- A named part of a record that is built up in a draft of type `σ`. -/
structure Field (σ : Type) where
  name : String
  aliases : List String := []
  /-- Whether a record that is written as a list may end before this part. -/
  mayEndBefore : Bool := true
  form : Form (σ → σ)

def Field.answersTo {σ : Type} (f : Field σ) (name : String) : Bool :=
  f.name == name || f.aliases.contains name

structure Layout (σ α : Type) where
  label : String
  /-- Whether names outside the layout are refused. -/
  closed : Bool
  start : σ
  fields : List (Field σ)
  finish : σ → Except Cause α

namespace Layout

variable {σ : Type}

/-- What a list of the parts is called. -/
def listLabel (l : Layout σ α) : String :=
  let n := l.fields.length
  l.label ++ " with " ++ toString n ++ (if n = 1 then " element" else " elements")

/-- What a name means, given the parts read so far: a part, or nothing of interest. -/
def resolve (l : Layout σ α) (seen : List String) (name : String) :
    Except Cause (Option (Field σ)) :=
  match l.fields.find? (·.answersTo name) with
  | some f => if seen.contains f.name then .error (.duplicateField f.name) else .ok (some f)
  | none =>
    if l.closed then .error (.unknownField name (l.fields.map (·.name))) else .ok none

def fieldsFrom (l : Layout σ α) : (fuel : Nat) → (first : Bool) → (seen : List String) → σ →
    Reader σ
  | 0, _, _, _ => failAtNext .expectedValue
  | fuel + 1, first, seen, draft => do
    if ← hasField first then
      let name ← key
      match l.resolve seen name with
      | .error cause => refuse cause
      | .ok none =>
        colon
        skip
        fieldsFrom l fuel false seen draft
      | .ok (some f) =>
        colon
        let put ← f.form.ofText
        fieldsFrom l fuel false (f.name :: seen) (put draft)
    else return draft

/-- The parts in their order, from the one at `index` on. -/
def itemsFrom (l : Layout σ α) (first : Bool) (index : Nat) : List (Field σ) → σ → Reader σ
  | [], draft => return draft
  | f :: rest, draft => do
    if ← hasItem first then
      let put ← f.form.ofText
      itemsFrom l false (index + 1) rest (put draft)
    else if f.mayEndBefore then itemsFrom l first (index + 1) rest draft
    else refuse (.wrongLength index l.listLabel)

def finished (l : Layout σ α) (draft : σ) : Reader α :=
  match l.finish draft with
  | .ok a => return a
  | .error cause => refuse cause

def fieldsOfValue (l : Layout σ α) : List String → Fields → σ → Except Cause σ
  | _, [], draft => .ok draft
  | seen, (name, v) :: rest, draft => do
    match ← l.resolve seen name with
    | none => fieldsOfValue l seen rest draft
    | some f =>
      let put ← f.form.ofValue v
      fieldsOfValue l (f.name :: seen) rest (put draft)

def itemsOfValue (l : Layout σ α) (index : Nat) :
    List (Field σ) → List Json → σ → Except Cause (σ × List Json)
  | [], items, draft => .ok (draft, items)
  | f :: rest, [], draft =>
    if f.mayEndBefore then itemsOfValue l (index + 1) rest [] draft
    else .error (.wrongLength index l.listLabel)
  | f :: rest, item :: items, draft => do
    let put ← f.form.ofValue item
    itemsOfValue l (index + 1) rest items (put draft)

end Layout

/-- A record, as an object with named parts or as a list of the parts in their order. -/
def record {σ : Type} (l : Layout σ α) : Form α where
  ofText := do
    let b ← firstOctet
    if b == openObject then
      eat
      let inside := do l.finished (← l.fieldsFrom ((← remaining) + 1) true [] l.start)
      located (enclosed inside endObject)
    else if b == openList then
      eat
      let inside := do l.finished (← l.itemsFrom true 0 l.fields l.start)
      located (enclosed inside endList)
    else mismatch l.label
  ofValue
    | .object fields => do l.finish (← l.fieldsOfValue [] fields l.start)
    | .array items => do
      let (draft, left) ← l.itemsOfValue 0 l.fields items l.start
      let a ← l.finish draft
      if left.isEmpty then return a
      else throw (.wrongLength items.length "fewer elements in array")
    | v => .error (.wrongType (describe v) l.label)

/-- A part that a function stores in the draft. -/
def Field.part {σ : Type} (name : String) (form : Form α) (put : α → σ → σ) : Field σ :=
  { name, form := form.map put }

end Form

def Form.read {α : Type} (form : Form α) (s : String) : Except Fault α := readText form.ofText s

end RemoteNotes.Json
