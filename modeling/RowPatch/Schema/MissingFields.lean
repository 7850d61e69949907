import RowPatch.Schema.Union

/-!
# Missing fields

The fields of one row type that another does not have.  The comparison descends wherever both sides
have a row, be it a record or a table, and stops below a missing field.
-/

namespace RowPatch

/-- The path as it is reported: names with dots between them, from the first name that is not
empty. -/
def Path.compact (p : Path) : String := Path.dotted (p.dropWhile (fun n => n.isEmpty))

mutual

/-- The paths of the second type that `target` does not have. -/
def DataType.missing (target : DataType) : DataType → List Path
  | .scalar _ => []
  | .row _ _ ss =>
      match target with
      | .scalar _ => []
      | .row _ _ ts => Fields.missing ts ss

/-- The paths of a field list that `targets` does not have, in order of name. -/
def Fields.missing (targets : Fields none) : {lo : Option String} → Fields lo → List Path
  | _, .nil => []
  | _, .cons n _ s rest =>
      (match targets.find? n with
        | none => [[n]]
        | some t => (DataType.missing t s).map (n :: ·)) ++
      Fields.missing targets rest

end

/-- The reported names of the fields of `source` that `target` does not have. -/
def DataType.missingNames (source target : DataType) : List String :=
  (target.missing source).map Path.compact

end RowPatch
