import RowPatch.Binding.Arguments
import RowPatch.Binding.Writes

/-!
# Binding a call

Both checks run and neither stops the other; the findings about types come first.
-/

namespace RowPatch

/-- Checks the types of a call and what it writes to. -/
def bindCall (d : Dialect) (host : TypeHost) (target : Target) (args : List DataType) : Verdict :=
  let v := checkArguments d host args
  { v with found := v.found ++ checkWrites host target args }

end RowPatch
