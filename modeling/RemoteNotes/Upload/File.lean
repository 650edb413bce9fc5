import RemoteNotes.Text.Blank

/-!
# Names of files

The name of a file is the last part of its path, and the part of the name behind its last
point tells what kind of file it is.
-/

namespace RemoteNotes.Upload

/-- The parts of a path. Empty parts and single points mean nothing. -/
def pathParts (path : String) : List (List Char) :=
  (Text.splitOn '/' path.toList).filter fun part => !part.isEmpty && part != ['.']

/-- The last part of a path, unless it leads back up. -/
def fileName? (path : String) : Option String :=
  ((pathParts path).getLast?.filter (· != ['.', '.'])).map String.ofList

/-- What follows the last point of a file name that does not start there. -/
def extension? (path : String) : Option String := do
  let name ← fileName? path
  let (after, before) ← Text.cut? '.' name.toList.reverse
  if before.isEmpty then none else some (String.ofList after.reverse)

def unknownMediaType : String := "application/octet-stream"

/-- The media type of a file by its name. Which extensions are known is not up to the client. -/
def guessMediaType (known : String → Option String) (filename : String) : String :=
  ((extension? filename).bind known).getD unknownMediaType

/-- What stands at a path. -/
inductive FileEntry
  | missing
  | directory
  | regular (content : List UInt8)

/-- What the system says of a path at which nothing stands. -/
def missingMessage : String := "No such file or directory (os error 2)"

end RemoteNotes.Upload
