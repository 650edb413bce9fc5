import RemoteNotes.Json.Value
import RemoteNotes.Text.Quoted

/-!
# What is wrong with a JSON text

The causes for which a document is refused, and their wording. A cause found in a text
carries the place where reading stopped.
-/

namespace RemoteNotes.Json

open Number

/-- A line, counted from one, and the octets of it that have been read. -/
structure Position where
  line : Nat
  column : Nat
  deriving DecidableEq

/-- Violations of the grammar. -/
inductive GrammarFault
  | endInValue
  | endInObject
  | endInList
  | endInText
  | expectedValue
  | expectedIdent
  | expectedColon
  | expectedListCommaOrEnd
  | expectedObjectCommaOrEnd
  | keyMustBeText
  | trailingComma
  | trailingCharacters
  | invalidNumber
  | numberOutOfRange
  | invalidEscape
  | controlCharacter
  | loneSurrogate
  | endOfHexEscape
  | invalidCodePoint
  | tooDeep
  deriving DecidableEq

def GrammarFault.message : GrammarFault → String
  | .endInValue => "EOF while parsing a value"
  | .endInObject => "EOF while parsing an object"
  | .endInList => "EOF while parsing a list"
  | .endInText => "EOF while parsing a string"
  | .expectedValue => "expected value"
  | .expectedIdent => "expected ident"
  | .expectedColon => "expected `:`"
  | .expectedListCommaOrEnd => "expected `,` or `]`"
  | .expectedObjectCommaOrEnd => "expected `,` or `\x7d`"
  | .keyMustBeText => "key must be a string"
  | .trailingComma => "trailing comma"
  | .trailingCharacters => "trailing characters"
  | .invalidNumber => "invalid number"
  | .numberOutOfRange => "number out of range"
  | .invalidEscape => "invalid escape"
  | .controlCharacter => "control character (\\u0000-\\u001F) found while parsing a string"
  | .loneSurrogate => "lone leading surrogate in hex escape"
  | .endOfHexEscape => "unexpected end of hex escape"
  | .invalidCodePoint => "invalid unicode code point"
  | .tooDeep => "recursion limit exceeded"

inductive Cause
  | grammar (fault : GrammarFault)
  /-- A value of one kind stands where another is expected. -/
  | wrongType (found expected : String)
  /-- A value of the right kind is not one of those expected. -/
  | wrongValue (found expected : String)
  | wrongLength (found : Nat) (expected : String)
  | unknownField (name : String) (known : List String)
  | unknownChoice (name : String) (known : List String)
  | missingField (name : String)
  | duplicateField (name : String)
  | other (message : String)
  deriving DecidableEq

/-- A list of names as a reader is told of them. -/
def alternatives : List String → String
  | [] => ""
  | [a] => "`" ++ a ++ "`"
  | [a, b] => "`" ++ a ++ "` or `" ++ b ++ "`"
  | names => "one of " ++ String.intercalate ", " (names.map fun name => "`" ++ name ++ "`")

def Cause.message : Cause → String
  | .grammar fault => fault.message
  | .wrongType found expected => "invalid type: " ++ found ++ ", expected " ++ expected
  | .wrongValue found expected => "invalid value: " ++ found ++ ", expected " ++ expected
  | .wrongLength found expected => "invalid length " ++ toString found ++ ", expected " ++ expected
  | .unknownField name known =>
    "unknown field `" ++ name ++ "`, expected " ++ alternatives known
  | .unknownChoice name known =>
    "unknown variant `" ++ name ++ "`, expected " ++ alternatives known
  | .missingField name => "missing field `" ++ name ++ "`"
  | .duplicateField name => "duplicate field `" ++ name ++ "`"
  | .other message => message

structure Fault where
  cause : Cause
  position : Option Position := none
  deriving DecidableEq

def Fault.message (f : Fault) : String :=
  match f.position with
  | none => f.cause.message
  | some p =>
    f.cause.message ++ " at line " ++ toString p.line ++ " column " ++ toString p.column

/-- A fault keeps the first position that it is given. -/
def Fault.locate (f : Fault) (p : Position) : Fault :=
  { f with position := f.position.or (some p) }

/-- How a value that is out of place is named. -/
def describeNum : Num → String
  | .nat n => "integer `" ++ natText n ++ "`"
  | .negative n => "integer `" ++ intText n ++ "`"
  | .float x => "floating point `" ++ floatFormat.write x ++ "`"

def describe : Json → String
  | .null => "null"
  | .bool b => "boolean `" ++ (if b then "true" else "false") ++ "`"
  | .num n => describeNum n
  | .text s => "string " ++ Text.quote s
  | .array _ => "sequence"
  | .object _ => "map"

end RemoteNotes.Json
