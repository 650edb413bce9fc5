import RemoteNotes.Text.Blank
import RemoteNotes.Text.Percent

/-!
# Addresses

Addresses of web resources, read as browsers read them. A path is kept as its segments;
dot segments have been resolved, and every part is percent-encoded.
-/

namespace RemoteNotes.Http

open Text Text.Percent

structure Url where
  scheme : String
  /-- Host and port as they were written, in lower case. -/
  authority : String
  /-- At least one; the last one is empty where the path ends in a slash. -/
  segments : List String
  query : Option String
  fragment : Option String
  deriving DecidableEq

namespace Url

/-! ### The octets that each part keeps -/

def isVisible (b : UInt8) : Bool := 0x21 ≤ b && b ≤ 0x7E

/-- Not kept in a fragment: `"`, `<`, `>` and the backquote. -/
def keptInFragment (b : UInt8) : Bool :=
  isVisible b && !([0x22, 0x3C, 0x3E, 0x60].contains b)

/-- Not kept in a query: `"`, `#`, the apostrophe, `<` and `>`. -/
def keptInQuery (b : UInt8) : Bool :=
  isVisible b && !([0x22, 0x23, 0x27, 0x3C, 0x3E].contains b)

/-- Not kept in a path: what a fragment does not keep, `#`, `?` and braces. -/
def keptInPath (b : UInt8) : Bool :=
  keptInFragment b && !([0x23, 0x3F, 0x7B, 0x7D].contains b)

/-! ### Dot segments -/

def isSingleDot (segment : String) : Bool := [".", "%2e"].contains (asciiLower segment)

def isDoubleDot (segment : String) : Bool :=
  ["..", ".%2e", "%2e.", "%2e%2e"].contains (asciiLower segment)

/-- Goes through segments from left to right: two dots undo the segment before them, and
a dot segment at the end leaves a slash there. -/
def resolveFrom (done : List String) : List String → List String
  | [] => done
  | [s] =>
    if isDoubleDot s then done.dropLast ++ [""]
    else if isSingleDot s then done ++ [""]
    else done ++ [s]
  | s :: t :: rest =>
    if isDoubleDot s then resolveFrom done.dropLast (t :: rest)
    else if isSingleDot s then resolveFrom done (t :: rest)
    else resolveFrom (done ++ [s]) (t :: rest)

/-! ### Reading -/

def isSlash (c : Char) : Bool := c == '/' || c == '\\'

/-- The characters that end an authority. -/
def endsAuthority (c : Char) : Bool := isSlash c || c == '?' || c == '#'

/-- The pieces between slashes of either kind. -/
def splitSegments (cs : List Char) : List (List Char) :=
  splitOn '/' (cs.map fun c => if isSlash c then '/' else c)

/-- The segments of a path. The slash in front of the first one may be missing. -/
def readPath (cs : List Char) : List String :=
  let cs := match cs with
    | c :: rest => if isSlash c then rest else c :: rest
    | [] => []
  resolveFrom [] ((splitSegments cs).map fun piece => encode keptInPath (String.ofList piece))

/-- Control characters and spaces around an address, and line ends and tabs inside it,
mean nothing. -/
def significant (raw : String) : List Char :=
  let isOuter (c : Char) : Bool := c.toNat ≤ 0x20
  (dropEndWhile isOuter (raw.toList.dropWhile isOuter)).filter fun c =>
    !(c == '\t' || c == '\n' || c == '\r')

/-- What follows the scheme and the slashes behind it. -/
def afterScheme? (cs : List Char) : Option (String × List Char) :=
  ["http", "https"].findSome? fun scheme =>
    ((scheme.toList ++ [':']).isPrefixOf? cs).map fun rest => (scheme, rest.dropWhile isSlash)

/-- The text behind the first `mark`, as far as there is one. -/
def behind (mark : Char) (cs : List Char) : List Char × Option (List Char) :=
  match cut? mark cs with
  | some (before, after) => (before, some after)
  | none => (cs, none)

/-- Reads an address that begins with its scheme. Of the rules for hosts and ports only one is
kept: there has to be something between the slashes and the path. Left out are what may stand
there (`http://a b`, `http://[::1`, `http://a:port` and `http://%00` are read as they stand),
percent-decoding and the forms of international names and of numbers as hosts, and the port that
goes without saying, which stays where it was written. -/
def parse? (raw : String) : Option Url := do
  let (scheme, rest) ← afterScheme? (significant raw)
  let authority := rest.takeWhile fun c => !endsAuthority c
  if authority.isEmpty then none
  let (rest, fragment) := behind '#' (rest.dropWhile fun c => !endsAuthority c)
  let (path, query) := behind '?' rest
  return {
    scheme
    authority := asciiLower (String.ofList authority)
    segments := readPath path
    query := query.map fun q => encode keptInQuery (String.ofList q)
    fragment := fragment.map fun f => encode keptInFragment (String.ofList f) }

/-! ### Writing -/

def path (u : Url) : String := "/" ++ String.intercalate "/" u.segments

def queryPart (u : Url) : String :=
  match u.query with
  | none => ""
  | some q => "?" ++ q

def fragmentPart (u : Url) : String :=
  match u.fragment with
  | none => ""
  | some f => "#" ++ f

/-- What is sent to the server: the path and the query. -/
def target (u : Url) : String := u.path ++ u.queryPart

def text (u : Url) : String :=
  u.scheme ++ "://" ++ u.authority ++ u.target ++ u.fragmentPart

/-- Adds pairs behind the query that an address has already. -/
def withPairs (u : Url) (pairs : List (String × String)) : Url :=
  if pairs.isEmpty then u
  else
    let added := formEncodePairs pairs
    match u.query with
    | none => { u with query := some added }
    | some "" => { u with query := some added }
    | some q => { u with query := some (q ++ "&" ++ added) }

end Url

end RemoteNotes.Http
