import RemoteNotes.Search.Filter
import RemoteNotes.Json.Form

/-!
# Reading search filters

Filters come as pairs of keys and values, or as a JSON document. Neither way accepts a key
that means nothing.
-/

namespace RemoteNotes

open Number

/-- A choice is read by the names of all its values. -/
def Visibility.form : Json.Form Visibility := .choice (all.map fun v => (v.text, v))

def MemoState.form : Json.Form MemoState := .choice (all.map fun s => (s.text, s))

def SortOrder.form : Json.Form SortOrder := .choice named

namespace SearchFilter

/-- The pieces of a list of tags that are not blank. -/
def splitTags (value : String) : List String :=
  (Text.splitOn ',' value.toList).filterMap fun piece =>
    let tag := Text.trim piece
    if tag.isEmpty then none else some (String.ofList tag)

def parseInstant (value : String) : Except String Time.Instant :=
  (Time.Rfc3339.parse value).mapError fun fault => "invalid RFC 3339 timestamp: " ++ fault.message

/-- What a pair changes in a filter. The value has no blanks around it. -/
def change (key value : String) : Except String (SearchFilter → SearchFilter) :=
  match key with
  | "text" => .ok fun f => { f with text := some value }
  | "tag" => .ok fun f => { f with tags := f.tags ++ [value] }
  | "tags" => .ok fun f => { f with tags := f.tags ++ splitTags value }
  | "creator" => .ok fun f => { f with creator := some value }
  | "visibility" => (Visibility.parse value).map fun v f => { f with visibility := some v }
  | "state" => (MemoState.parse value).map fun s f => { f with state := s }
  | "created_after" => (parseInstant value).map fun t f => { f with createdAfter := some t }
  | "created_before" => (parseInstant value).map fun t f => { f with createdBefore := some t }
  | "page_size" =>
    ((readNat maxUInt32 value).mapError fun fault => "invalid page size: " ++ fault.message).map
      fun n f => { f with pageSize := n }
  | "page_token" => .ok fun f => { f with pageToken := some value }
  | "order" =>
    ((Json.Form.choose SortOrder.named value).mapError Json.Cause.message).map
      fun o f => { f with order := o }
  | _ => .error "unknown filter key"

/-- Applies a pair, or adds what is wrong with it to the violations. -/
def applyPair (draft : SearchFilter × List Violation) (pair : String × String) :
    SearchFilter × List Violation :=
  match change pair.1 (Text.trimmed pair.2) with
  | .ok set => (set draft.1, draft.2)
  | .error message => (draft.1, draft.2 ++ [⟨pair.1, message⟩])

/-- The filter that the pairs describe, from left to right. -/
def ofPairs (pairs : List (String × String)) : Except ValidationError SearchFilter :=
  let (f, bad) := pairs.foldl applyPair ({}, [])
  (Checked.withViolations (bad ++ f.violations) f).toExcept subject

def layout : Json.Form.Layout SearchFilter SearchFilter where
  label := "struct SearchFilter"
  closed := true
  start := {}
  fields := [
    .part "text" (.optional .text) fun v f => { f with text := v },
    .part "tags" (.list .text) fun v f => { f with tags := v },
    .part "creator" (.optional .text) fun v f => { f with creator := v },
    .part "visibility" (.optional Visibility.form) fun v f => { f with visibility := v },
    .part "created_after" (.optional .instant) fun v f => { f with createdAfter := v },
    .part "created_before" (.optional .instant) fun v f => { f with createdBefore := v },
    .part "state" MemoState.form fun v f => { f with state := v },
    .part "page_size" (.nat maxUInt32 "u32") fun v f => { f with pageSize := v },
    .part "page_token" (.optional .text) fun v f => { f with pageToken := v },
    .part "order" SortOrder.form fun v f => { f with order := v }]
  finish := .ok

/-- The document form of a filter. All its parts may be missing. -/
def form : Json.Form SearchFilter := .record layout

end SearchFilter

end RemoteNotes
