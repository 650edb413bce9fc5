import RemoteNotes.Memo

/-!
# Tagging a memo

Tags that are asked for apart from the content are written into it, unless they are there.
-/

namespace RemoteNotes.Tag

/-- What is wrong with the tags of a list, each under its place. -/
def violations (raw : List String) : List Violation :=
  (raw.mapIdx fun i tag =>
    (Checked.ofExcept (Wire.itemLabel "tags" i) (validate tag)).violations).flatten

/-- The tags of a list that are valid, each once. -/
def valid (raw : List String) : List String :=
  (raw.filterMap fun tag => (validate tag).toOption).eraseDups

/-- The tags that a content does not hold. -/
def missing (content : String) (tags : List String) : List String :=
  tags.filter fun tag => !(extract content).contains tag

/-- A line with hash signs in front of tags. -/
def line (tags : List String) : String :=
  String.intercalate " " (tags.map fun tag => "#" ++ tag)

/-- The content with the tags that it does not hold behind it. -/
def append (content : String) (tags : List String) : String :=
  if (missing content tags).isEmpty then content
  else String.ofList (Text.trimEnd content.toList) ++ "\n\n" ++ line (missing content tags)

end RemoteNotes.Tag
