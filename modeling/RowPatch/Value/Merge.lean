import RowPatch.Value.Basic

/-!
# Merging records

Records are merged in order.  A later record overwrites the fields of earlier ones, and a field
stays at the place where its name first appeared.
-/

namespace RowPatch

/-- A value that is no record stood among the records to merge. -/
structure MergeError where
  /-- The position of the value among the arguments. -/
  argument : Nat
  found : ValueKind
deriving DecidableEq

/-- What is said of a value that cannot be merged. -/
def MergeError.message (e : MergeError) : String :=
  "argument " ++ toString e.argument ++ " is a " ++ e.found.word ++ ", expected a record"

/-- Merges records into `merged`; the first of them is the argument `index`. -/
def mergeInto (merged : Record) (index : Nat) : List Value → Except MergeError Record
  | [] => .ok merged
  | .record r :: rest => mergeInto (merged.setAll r.toList) (index + 1) rest
  | v :: _ => .error ⟨index, v.kind⟩

/-- Merges records, the first of which is the argument `first`. -/
def mergeRecords (first : Nat) (values : List Value) : Except MergeError Record :=
  mergeInto .empty first values

end RowPatch
