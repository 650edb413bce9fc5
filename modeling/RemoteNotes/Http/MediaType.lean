import RemoteNotes.Http.Header

/-!
# Media types

A media type is a type, a subtype and parameters. Types, subtypes, parameter names and
character sets count without regard to case and are written in lower case.
-/

namespace RemoteNotes.Http.MediaType

def isTokenChar (c : Char) : Bool := c.isAlphanum || isTokenMark c

/-- Splits behind the token characters at the front. -/
def token (cs : List Char) : List Char × List Char :=
  (cs.takeWhile isTokenChar, cs.dropWhile isTokenChar)

def isQuotedChar (c : Char) : Bool := 0x1F < c.toNat && c.toNat != 0x7F

/-- What follows a quoted value, given what follows its opening quote. The first character
belongs to the value even if it is a quote. -/
def afterQuotes? : List Char → Option (List Char)
  | [] => none
  | first :: rest =>
    match rest.dropWhile (· != '"') with
    | '"' :: after =>
      if isQuotedChar first && (rest.takeWhile (· != '"')).all isQuotedChar then some after
      else none
    | _ => none

/-- What follows the semicolon behind a quoted value, between which spaces may stand. -/
def afterQuotedValue? (cs : List Char) : Option (List Char) := do
  match (← afterQuotes? cs).dropWhile (· == ' ') with
  | [] => some []
  | ';' :: rest => some rest
  | _ => none

/-- What follows a value and the semicolon behind it. -/
def afterValue? : List Char → Option (List Char)
  | '"' :: rest => afterQuotedValue? rest
  | cs =>
    match token cs with
    | (_, []) => some []
    | (value, ';' :: rest) => if value.isEmpty then none else some rest
    | _ => none

def lower (cs : List Char) : List Char := cs.map Char.toLower

/-- The normal form of the parameters behind a semicolon. The fuel bounds their number. -/
def parameters? : (fuel : Nat) → List Char → Option (List Char)
  | 0, _ => none
  | fuel + 1, cs =>
    let spaces := cs.takeWhile (· == ' ')
    match token (cs.dropWhile (· == ' ')) with
    | ([], []) => some spaces
    | (first :: more, '=' :: rest) => do
      let name := lower (first :: more)
      let after ← afterValue? rest
      let value := rest.take (rest.length - after.length)
      let value := if name = "charset".toList then lower value else value
      return spaces ++ name ++ '=' :: value ++ (← parameters? fuel after)
    | _ => none

/-- The normal form of a media type. A semicolon without parameters is dropped. -/
def normalize? (s : String) : Option String :=
  match token s.toList with
  | (first :: more, '/' :: rest) =>
    let lead := lower (first :: more) ++ ['/']
    match token rest with
    | (subtype, []) => some (String.ofList (lead ++ lower subtype))
    | (subtype, ';' :: rest) => do
      if subtype.isEmpty then none
      let parameters ← parameters? (rest.length + 1) rest
      let tail := if rest.all (· == ' ') then [] else ';' :: parameters
      return String.ofList (lead ++ lower subtype ++ tail)
    | _ => none
  | _ => none

end RemoteNotes.Http.MediaType
