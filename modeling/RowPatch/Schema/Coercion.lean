import RowPatch.Schema.Acceptance

/-!
# Coercion

The type that a value has to be converted to before it can stand where another type is expected.
A row is converted field by field and keeps its own fields and origins.  A field that already fits
keeps its type.
-/

namespace RowPatch

/-- A scalar of the first type can be converted to the second. -/
def Scalar.convertsTo : Scalar → Scalar → Bool
  | text, number => true
  | text, decimal => true
  | text, boolean => true
  | text, date => true
  | text, dateTime => true
  | text, time => true
  | number, text => true
  | decimal, text => true
  | boolean, text => true
  | date, text => true
  | dateTime, text => true
  | time, text => true
  | number, boolean => true
  | decimal, boolean => true
  | boolean, number => true
  | boolean, decimal => true
  | number, date => true
  | number, dateTime => true
  | decimal, date => true
  | decimal, dateTime => true
  | date, dateTime => true
  | dateTime, date => true
  | _, _ => false

/-- The scalar type to convert to, if `source` can be used as `target` at all. -/
def Scalar.coerce? (d : Dialect) (target source : Scalar) : Option Scalar :=
  if target.accepts d .loose source then some source
  else if source.convertsTo target then some target
  else none

/-- A converted table is not marked as failed. -/
def Shape.plain : Shape → Shape
  | .record => .record
  | .table _ => .table false

mutual

/-- The type that a value of the second type is converted to in order to be used as `target`. -/
def DataType.coerce? (d : Dialect) (target : DataType) : DataType → Option DataType
  | .scalar s =>
      match target with
      | .scalar t => (t.coerce? d s).map .scalar
      | .row .. => if s = .blank then some .blank else none
  | .row shape origins ss =>
      match target with
      | .scalar _ => none
      | .row shape' _ ts =>
          if shape'.sameKind shape then
            (Fields.coerceAll? d ts ss).map (.row shape.plain origins)
          else none

/-- Converts each field to the type that `targets` has under its name. -/
def Fields.coerceAll? (d : Dialect) (targets : Fields none) :
    {lo : Option String} → Fields lo → Option (Fields lo)
  | _, .nil => some .nil
  | _, .cons n h s rest =>
      match targets.find? n with
      | none => none
      | some t =>
          match DataType.coerce? d t s, Fields.coerceAll? d targets rest with
          | some c, some rest' => some (.cons n h c rest')
          | _, _ => none

end

end RowPatch
