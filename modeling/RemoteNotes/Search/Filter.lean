import RemoteNotes.Search.Clause

/-!
# Search filters

What a search asks for: conditions on the memos, the order of the results and the page.
A filter may hold anything while it is built; it is checked as a whole before it is sent.
-/

namespace RemoteNotes

open Number
open Time (Instant)

/-- The time that results are ordered by. -/
inductive SortKey
  | displayTime
  | createTime
  | updateTime
  deriving DecidableEq

def SortKey.text : SortKey → String
  | .displayTime => "display_time"
  | .createTime => "create_time"
  | .updateTime => "update_time"

structure SortOrder where
  key : SortKey
  descending : Bool
  deriving DecidableEq

namespace SortOrder

def newestFirst : SortOrder := ⟨.displayTime, true⟩

def all : List SortOrder :=
  [.displayTime, .createTime, .updateTime].flatMap fun key => [⟨key, true⟩, ⟨key, false⟩]

def direction (o : SortOrder) : String := if o.descending then "desc" else "asc"

/-- The name of an order in settings. -/
def name (o : SortOrder) : String := o.key.text ++ "_" ++ o.direction

/-- The order as a query asks for it. -/
def query (o : SortOrder) : String := o.key.text ++ " " ++ o.direction

def named : List (String × SortOrder) := all.map fun o => (o.name, o)

end SortOrder

structure SearchFilter where
  /-- Text that the content holds. -/
  text : Option String := none
  /-- Tags of which a memo has at least one. -/
  tags : List String := []
  creator : Option String := none
  visibility : Option Visibility := none
  /-- First instant of the window of creation. -/
  createdAfter : Option Instant := none
  /-- First instant after the window of creation. -/
  createdBefore : Option Instant := none
  state : MemoState := .normal
  pageSize : Nat := 50
  pageToken : Option String := none
  order : SortOrder := .newestFirst
  deriving DecidableEq

namespace SearchFilter

def subject : String := "search filter"

def maxPageSize : Nat := 1000

def textViolations (f : SearchFilter) : List Violation :=
  match f.text with
  | some text => if Text.isBlankText text then [⟨"text", "text must not be blank"⟩] else []
  | none => []

def checkTags (tags : List String) : Checked (List String) :=
  .all (tags.mapIdx fun i tag => .ofExcept (Wire.itemLabel "tags" i) (Tag.validate tag))

def checkCreator (f : SearchFilter) : Checked (Option UserName) :=
  match f.creator with
  | some raw => (Checked.ofExcept "creator" (ResourceName.parseMessage raw)).map some
  | none => .ok none

def windowViolations (f : SearchFilter) : List Violation :=
  match f.createdAfter, f.createdBefore with
  | some after, some before =>
    if before.le after then [⟨"created_after", "created_after must be before created_before"⟩]
    else []
  | _, _ => []

def pageSizeViolations (f : SearchFilter) : List Violation :=
  if f.pageSize = 0 ∨ maxPageSize < f.pageSize then
    [⟨"page_size", "page_size must be between 1 and " ++ natText maxPageSize⟩]
  else []

/-- Everything that is wrong with a filter. -/
def violations (f : SearchFilter) : List Violation :=
  f.textViolations ++ (checkTags f.tags).violations ++ f.checkCreator.violations ++
    f.windowViolations ++ f.pageSizeViolations

/-- The conditions that are set, in a fixed order. -/
def clausesOf (f : SearchFilter) (tags : List String) (creator : Option UserName) :
    List Search.Clause :=
  (f.text.map fun text => .contentHolds (Text.trimmed text)).toList ++
    (if tags.isEmpty then [] else [.taggedWithAny tags]) ++
    (creator.map .createdBy).toList ++
    (f.visibility.map .visibleTo).toList ++
    (f.createdAfter.map fun t => .createdFrom t.seconds).toList ++
    (f.createdBefore.map fun t => .createdBefore t.ceilSeconds).toList

/-- The clauses of a filter that has been found valid. -/
def checkClauses (f : SearchFilter) : Checked (List Search.Clause) :=
  (((Checked.withViolations f.textViolations f.clausesOf).and (checkTags f.tags)).and
    f.checkCreator).and' (.withViolations (f.windowViolations ++ f.pageSizeViolations) ())

def clauses (f : SearchFilter) : Except ValidationError (List Search.Clause) :=
  f.checkClauses.toExcept subject

/-- The expression that is sent to the server, if any condition is set. -/
def filterExpression (f : SearchFilter) : Except ValidationError (Option String) :=
  f.clauses.map Search.expression?

/-- The query of a search. -/
def toQuery (f : SearchFilter) : Except ValidationError (List (String × String)) := do
  let expression ← f.filterExpression
  return [("pageSize", natText f.pageSize), ("state", f.state.text), ("orderBy", f.order.query)] ++
    (expression.map fun e => ("filter", e)).toList ++
    ((f.pageToken.filter (· != "")).map fun t => ("pageToken", t)).toList

theorem violations_checkClauses (f : SearchFilter) :
    f.checkClauses.violations = f.violations := by
  have h (vs : List Violation) (α : Type) (a : α) : (Checked.withViolations vs a).violations = vs := by
    cases vs <;> rfl
  simp [checkClauses, violations, Checked.and', h]

end SearchFilter

end RemoteNotes
