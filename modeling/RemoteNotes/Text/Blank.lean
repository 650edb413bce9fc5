/-!
# Blank characters

Text that a person typed is judged without the blanks around it. Which characters are
blank is fixed here once, for trimming, for tags and for names alike.
-/

namespace RemoteNotes.Text

/-- The characters with the Unicode property White_Space. -/
def isBlank (c : Char) : Bool :=
  let n := c.toNat
  (9 ≤ n && n ≤ 13) || n == 0x20 || n == 0x85 || n == 0xA0 || n == 0x1680 ||
    (0x2000 ≤ n && n ≤ 0x200A) || n == 0x2028 || n == 0x2029 || n == 0x202F ||
    n == 0x205F || n == 0x3000

def dropEndWhile (p : Char → Bool) (cs : List Char) : List Char :=
  (cs.reverse.dropWhile p).reverse

def trimStart (cs : List Char) : List Char := cs.dropWhile isBlank

def trimEnd (cs : List Char) : List Char := dropEndWhile isBlank cs

def trim (cs : List Char) : List Char := trimEnd (trimStart cs)

def trimmed (s : String) : String := String.ofList (trim s.toList)

/-- Nothing is left of a blank text once it is trimmed. -/
def isBlankText (s : String) : Bool := s.toList.all isBlank

/-- A trimmed text, unless nothing is left of it. -/
def nonBlank? (s : String) : Option String :=
  let t := trimmed s
  if t.isEmpty then none else some t

/-- The longest text quoted from a server in an error. -/
def compactLength : Nat := 180

/-- The trimmed text, cut after `compactLength` characters. -/
def compact (s : String) : String :=
  String.ofList ((trim s.toList).take compactLength)

/-- The pieces between the separators: one more than there are separators. -/
def splitOn (sep : Char) : List Char → List (List Char)
  | [] => [[]]
  | c :: cs =>
    if c = sep then [] :: splitOn sep cs
    else match splitOn sep cs with
      | [] => [[c]]
      | piece :: pieces => (c :: piece) :: pieces

/-- The text before the first separator, and the text after it. -/
def cut? (sep : Char) : List Char → Option (List Char × List Char)
  | [] => none
  | c :: cs =>
    if c = sep then some ([], cs) else (cut? sep cs).map fun (before, after) => (c :: before, after)

/-- What follows `lead` in a text that starts with it. -/
def dropLead? (lead s : String) : Option String :=
  (lead.toList.isPrefixOf? s.toList).map String.ofList

def startsWith (lead s : String) : Bool := lead.toList.isPrefixOf s.toList

def asciiLower (s : String) : String := String.ofList (s.toList.map Char.toLower)

def asciiCaseEq (a b : String) : Bool := asciiLower a == asciiLower b

theorem length_compact_le (s : String) : (compact s).length ≤ compactLength := by
  simp only [compact, String.length_ofList, List.length_take]
  omega

theorem splitOn_ne_nil (sep : Char) (cs : List Char) : splitOn sep cs ≠ [] := by
  cases cs with
  | nil => simp [splitOn]
  | cons c cs =>
    unfold splitOn
    split
    · simp
    · split <;> simp

end RemoteNotes.Text
