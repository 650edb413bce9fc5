import RemoteNotes.Error

/-!
# Batch reports

The outcomes of a batch in the order of its input, whatever order they came in.
-/

namespace RemoteNotes

structure BatchReport where
  items : List BatchItem

namespace BatchReport

def operation : String := "create_memos_batch"

/-- A report on outcomes that arrived in any order. -/
def ofItems (items : List BatchItem) : BatchReport :=
  ⟨items.mergeSort fun a b => a.index ≤ b.index⟩

/-- The memos that exist on the server, also those with errors. -/
def succeeded (r : BatchReport) : List (Nat × MemoName) :=
  r.items.filterMap fun item => item.outcome.name?.map fun name => (item.index, name)

def failed (r : BatchReport) : List (Nat × Error) :=
  r.items.filterMap fun item => item.outcome.error?.map fun error => (item.index, error)

/-- The items that the server never created. -/
def notCreated (r : BatchReport) : List (Nat × Error) :=
  r.items.filterMap fun item =>
    match item.outcome with
    | .failed error => some (item.index, error)
    | _ => none

def allSucceeded (r : BatchReport) : Bool := r.failed.isEmpty

/-- The names of all memos, or an error with the items of the report. -/
def toExcept (r : BatchReport) : Except Error (List MemoName) :=
  if r.allSucceeded then .ok (r.succeeded.map (·.2))
  else .error (.partialBatch operation r.items)

end BatchReport

end RemoteNotes
