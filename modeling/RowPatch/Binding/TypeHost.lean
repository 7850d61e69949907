import RowPatch.Schema.Basic

/-!
# Type hosts

A host may have its own idea of which types are tables or records and of the data sources that a
table descends from.  The structural host reads all of this off the type.
-/

namespace RowPatch

/-- What a host answers about types. -/
structure TypeHost where
  isTable : DataType → Bool
  isRecord : DataType → Bool
  origins : DataType → SortedSet Origin

namespace TypeHost

/-- The host that reads its answers off the type. -/
def structural : TypeHost := ⟨DataType.isTable, DataType.isRecord, DataType.origins⟩

/-- A structural host some of whose answers are the same for every type.  Given origins belong to
every type that this host takes for a table. -/
def fixed (isTable isRecord : Option Bool) (origins : Option (SortedSet Origin)) : TypeHost where
  isTable t := isTable.getD t.isTable
  isRecord t := isRecord.getD t.isRecord
  origins t :=
    match origins with
    | none => t.origins
    | some o => if isTable.getD t.isTable then o else ∅

end TypeHost

end RowPatch
