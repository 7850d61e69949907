import RowPatch.Number.Decimal
import RowPatch.Schema.Text
import RowPatch.Text.Quoted
import RowPatch.Value.Basic

/-!
# The written form of values

Text is quoted, a record is written as its fields in braces, and of a table only its name or the
number of its rows is shown.
-/

namespace RowPatch

mutual

/-- The written form of a value. -/
def Value.text : Value → String
  | .blank => ""
  | .number n => n.text
  | .string s => quoted s
  | .boolean b => if b then "true" else "false"
  | .fault f => f.text
  | .record cells => braced (Cells.entries cells)
  | .snapshot rows => "<table of " ++ toString rows.length ++ " rows>"
  | .table ref => "<table " ++ ref.name ++ ">"

/-- The written forms of the fields. -/
def Cells.entries : {used : List String} → Cells used → List String
  | _, .nil => []
  | _, .cons n _ v rest => (n ++ ": " ++ Value.text v) :: Cells.entries rest

end

/-- The written form of a record. -/
def Record.text (r : Record) : String := braced r.entries

/-- How a table describes itself: by its name, or by the number of its rows. -/
def Value.tableLabel? : Value → Option String
  | .table ref => some ("Mutable(" ++ quoted ref.name ++ ")")
  | .snapshot rows => some ("Snapshot(" ++ toString rows.length ++ ")")
  | _ => none

end RowPatch
