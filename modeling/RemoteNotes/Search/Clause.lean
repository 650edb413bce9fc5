import RemoteNotes.Memo
import RemoteNotes.Name

/-!
# Clauses of a search

A search is sent as an expression: clauses that must all hold, joined by `&&`. Texts stand
in it as literals, in which a backslash takes the next character as it is.
-/

namespace RemoteNotes.Search

open Number

inductive Clause
  | contentHolds (text : String)
  /-- At least one of the tags. -/
  | taggedWithAny (tags : List String)
  | createdBy (creator : UserName)
  | visibleTo (visibility : Visibility)
  /-- Created in this second or later. -/
  | createdFrom (second : Int)
  /-- Created before this second. -/
  | createdBefore (second : Int)
  deriving DecidableEq

def escapeChar (c : Char) : List Char :=
  if c = '\\' ∨ c = '"' then ['\\', c] else [c]

/-- A text between quotes. -/
def literal (s : String) : String :=
  String.ofList ('"' :: s.toList.flatMap escapeChar ++ ['"'])

def Clause.write : Clause → String
  | .contentHolds text => "content.contains(" ++ literal text ++ ")"
  | .taggedWithAny tags =>
    "(" ++ String.intercalate " || " (tags.map fun t => "tags.any(" ++ literal t ++ ")") ++ ")"
  | .createdBy creator => "creator == " ++ literal creator.text
  | .visibleTo visibility => "visibility == " ++ literal visibility.text
  | .createdFrom second => "created_ts >= " ++ intText second
  | .createdBefore second => "created_ts < " ++ intText second

/-- The expression of some clauses. Without clauses there is none. -/
def expression? (clauses : List Clause) : Option String :=
  if clauses.isEmpty then none
  else some (String.intercalate " && " (clauses.map Clause.write))

end RemoteNotes.Search
