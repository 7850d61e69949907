import RowPatch.Schema.Basic

/-!
# The written form of types

A record is written as its fields in braces, a table as its row in brackets.
-/

namespace RowPatch

/-- The name of a scalar type. -/
def Scalar.name : Scalar → String
  | blank => "Blank"
  | boolean => "Boolean"
  | number => "Number"
  | decimal => "Decimal"
  | text => "Text"
  | date => "Date"
  | dateTime => "DateTime"
  | time => "Time"
  | error => "Error"

/-- Puts a list of entries into braces. -/
def braced (entries : List String) : String :=
  "\x7b" ++ String.intercalate ", " entries ++ "\x7d"

mutual

/-- The written form of a type. -/
def DataType.text : DataType → String
  | .scalar k => k.name
  | .row shape _ fs =>
      match shape with
      | .record => braced (Fields.entries fs)
      | .table true => "Table<error>"
      | .table false => "[" ++ braced (Fields.entries fs) ++ "]"

/-- The written forms of the fields. -/
def Fields.entries : {lo : Option String} → Fields lo → List String
  | _, .nil => []
  | _, .cons n _ t rest => (n ++ ": " ++ DataType.text t) :: Fields.entries rest

end

end RowPatch
