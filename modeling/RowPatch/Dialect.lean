import RowPatch.Json

/-!
# Dialects

The switches under which a call is checked, the argument counts that they allow, and the documents
that hold them.

A settings document is an object or a list.  An object names the switches it changes and may hold
other names; a list gives the switches in order and may stop early.  Switches that are not given
keep their usual setting.
-/

namespace RowPatch

/-- The switches under which a call is checked. -/
structure Dialect where
  /-- Changes whose types differ from the columns may be converted. -/
  coercion : Bool := true
  /-- Dates and timestamps are one type for every comparison. -/
  legacyDates : Bool := false
  /-- Any number of change records may follow the base record. -/
  variadic : Bool := false
deriving DecidableEq

namespace Dialect

/-- The usual settings. -/
def standard : Dialect := {}

/-- The name under which the function is called. -/
def functionName : String := "Patch"

/-- A call has at least a table, a base record and one change record. -/
def minArity : Nat := 3

/-- Without the variadic switch there are at most two change records. -/
def maxFixedArity : Nat := 4

/-- The largest argument count, if there is one. -/
def maxArity? (d : Dialect) : Option Nat :=
  if d.variadic then none else some maxFixedArity

/-- Whether a call may have `count` arguments. -/
def acceptsArity (d : Dialect) (count : Nat) : Bool :=
  decide (minArity ≤ count) &&
    match d.maxArity? with
    | none => true
    | some max => decide (count ≤ max)

/-- The setting of one switch in an object: absent is usual, anything but a truth value is wrong. -/
def switch? (members : List (String × Json)) (name : String) (usual : Bool) : Option Bool :=
  match Json.member? name members with
  | none => some usual
  | some j => j.bool?

/-- Reads a settings document. -/
def ofJson? : Json → Option Dialect
  | .object members => do
      let coercion ← switch? members "allowCoercion" true
      let legacyDates ← switch? members "legacyDateTime" false
      let variadic ← switch? members "variadic" false
      some ⟨coercion, legacyDates, variadic⟩
  | .array [] => some standard
  | .array [.bool c] => some { coercion := c }
  | .array [.bool c, .bool l] => some { coercion := c, legacyDates := l }
  | .array [.bool c, .bool l, .bool v] => some ⟨c, l, v⟩
  | _ => none

/-- The settings document of a dialect. -/
def toJson (d : Dialect) : Json :=
  .object [
    ("allowCoercion", .bool d.coercion),
    ("legacyDateTime", .bool d.legacyDates),
    ("variadic", .bool d.variadic)]

/-- A written dialect reads back. -/
theorem ofJson?_toJson (d : Dialect) : ofJson? d.toJson = some d := by
  cases d
  simp [toJson, ofJson?, switch?, Json.member?, Json.bool?]

end Dialect

end RowPatch
