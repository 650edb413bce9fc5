import RemoteNotes.Text.Blank

/-!
# Tags

A tag is written in the text of a memo, as a hash sign and a run of characters that are
neither blank nor hash signs. The same characters decide what a tag may be and where one
ends in a text.
-/

namespace RemoteNotes.Tag

def isTagChar (c : Char) : Bool := !Text.isBlank c && c != '#'

/-- The tag in a text that holds nothing else. One hash sign in front is dropped. -/
def validate (raw : String) : Except String String :=
  let cs := Text.trim raw.toList
  let tag := match cs with
    | '#' :: rest => rest
    | cs => cs
  if tag.isEmpty then .error "tag must not be empty"
  else if tag.all isTagChar then .ok (String.ofList tag)
  else .error ("tag '" ++ String.ofList tag ++ "' must not contain whitespace or '#'")

/-- The tags in a text, in the order of their places. -/
def occurrences : List Char → List String
  | [] => []
  | '#' :: cs =>
    let tag := cs.takeWhile isTagChar
    if tag.isEmpty then occurrences cs
    else String.ofList tag :: occurrences (cs.dropWhile isTagChar)
  | _ :: cs => occurrences cs
termination_by cs => cs.length
decreasing_by
  · simp
  · have := (List.dropWhile_suffix isTagChar (l := cs)).length_le
    simp only [List.length_cons]
    omega
  · simp

end RemoteNotes.Tag

namespace RemoteNotes

/-- Puts a text in its place in an ascending list, unless it is there. -/
def insertAscending (s : String) : List String → List String
  | [] => [s]
  | t :: rest =>
    if s = t then t :: rest
    else if s < t then s :: t :: rest
    else t :: insertAscending s rest

theorem mem_insertAscending {s x : String} {ts : List String} :
    x ∈ insertAscending s ts ↔ x = s ∨ x ∈ ts := by
  induction ts with
  | nil => simp [insertAscending]
  | cons t rest ih =>
    unfold insertAscending
    split
    · next h => subst h; simp
    · split
      · simp
      · simp only [List.mem_cons, ih]
        grind

theorem pairwise_insertAscending {s : String} {ts : List String}
    (h : ts.Pairwise (· < ·)) : (insertAscending s ts).Pairwise (· < ·) := by
  induction ts with
  | nil => simp [insertAscending]
  | cons t rest ih =>
    obtain ⟨ht, hr⟩ := List.pairwise_cons.1 h
    unfold insertAscending
    split
    · exact h
    · split
      · next hlt =>
        refine List.pairwise_cons.2 ⟨?_, h⟩
        intro x hx
        rcases List.mem_cons.1 hx with rfl | hx
        · exact hlt
        · exact String.lt_trans hlt (ht x hx)
      · next hne hlt =>
        refine List.pairwise_cons.2 ⟨?_, ih hr⟩
        intro x hx
        rcases mem_insertAscending.1 hx with rfl | hx
        · exact Std.lt_of_le_of_ne (Std.not_lt.1 hlt) (Ne.symm hne)
        · exact ht x hx

/-- A set of texts, kept in ascending order. -/
structure TagSet where
  toList : List String
  ascending : toList.Pairwise (· < ·) := by simp
  deriving DecidableEq

namespace TagSet

def empty : TagSet := { toList := [] }

def insert (s : String) (ts : TagSet) : TagSet :=
  ⟨insertAscending s ts.toList, pairwise_insertAscending ts.ascending⟩

def ofList (tags : List String) : TagSet := tags.foldl (fun acc t => acc.insert t) empty

def contains (ts : TagSet) (s : String) : Bool := ts.toList.contains s

theorem mem_insert {s x : String} {ts : TagSet} :
    x ∈ (ts.insert s).toList ↔ x = s ∨ x ∈ ts.toList := mem_insertAscending

end TagSet

namespace Tag

def extract (text : String) : TagSet := TagSet.ofList (occurrences text.toList)

end Tag

end RemoteNotes
