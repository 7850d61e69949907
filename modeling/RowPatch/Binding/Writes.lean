import RowPatch.Binding.TypeHost
import RowPatch.Diagnostic

/-!
# Checking what a call writes to

A call writes to what its first argument is bound to, so that has to be something that can change,
and no change record may name a column that a data source of the table refuses to write.  The base
record only finds the row; it may name any column.
-/

namespace RowPatch

/-- What the first argument of a call is bound to. -/
inductive Target where
  /-- A named variable. -/
  | variable (name : String) (mutable : Bool)
  /-- A connected data source. -/
  | dataSource (name : String) (writable : Bool)
  /-- Any other expression. -/
  | expression
deriving DecidableEq

namespace Target

/-- Whether the target can be written to. -/
def isMutable : Target → Bool
  | .variable _ mutable => mutable
  | .dataSource _ writable => writable
  | .expression => false

/-- The target as it is named in a finding. -/
def describe : Target → String
  | .variable name _ => "variable '" ++ name ++ "'"
  | .dataSource name _ => "data source '" ++ name ++ "'"
  | .expression => "this expression"

end Target

namespace Diagnostic

/-- The target cannot be written to. -/
def immutable (target : Target) : Diagnostic :=
  .error 0 .notMutable (target.describe ++ " cannot be modified")

/-- A change names a read-only column. -/
def readOnly (index : Nat) (field : String) : Diagnostic :=
  .fieldError index .readOnlyField field
    ("column '" ++ field ++ "' is read-only and cannot be changed")

end Diagnostic

/-- A column that one of the data sources refuses to write. -/
def refusesColumn (origins : SortedSet Origin) (name : String) : Bool :=
  origins.toList.any (fun o => decide (name ∈ o.readOnly))

/-- The read-only columns that one change record names. -/
def readOnlyFindings (origins : SortedSet Origin) (change : DataType × Nat) : List Diagnostic :=
  match change.1.recordFields? with
  | none => []
  | some fields => (fields.names.filter (refusesColumn origins)).map (.readOnly change.2)

/-- Checks that the target can be written to and that read-only columns are left alone. -/
def checkWrites (host : TypeHost) (target : Target) (args : List DataType) : List Diagnostic :=
  (if target.isMutable then [] else [.immutable target]) ++
    match args with
    | [] => []
    | table :: rest =>
        if host.isTable table then
          ((rest.drop 1).zipIdx 2).flatMap (readOnlyFindings (host.origins table))
        else []

end RowPatch
