import RowPatch.Dialect
import RowPatch.Schema.Lookup

/-!
# Acceptance

Whether a value of one type may stand where another type is expected, without conversion.  A row is
accepted when each of its fields is a field of the expected row and is accepted there; the expected
row may have more fields.  Exact acceptance does not widen; loose acceptance lets `Blank` stand for
everything and identifies the two numeric types.

**Results.**
* `Fields.acceptsAll_iff`: acceptance of rows, field by field.
-/

namespace RowPatch

/-- How closely a type has to fit. -/
inductive Fit where
  /-- No widening. -/
  | exact
  /-- `Blank` fits everywhere, and one numeric type for the other. -/
  | loose
deriving DecidableEq

namespace Scalar

/-- The types of numbers. -/
def isNumeric : Scalar → Bool
  | number => true
  | decimal => true
  | _ => false

/-- The types that hold a day. -/
def isDated : Scalar → Bool
  | date => true
  | dateTime => true
  | _ => false

/-- Both types hold a day, and the dialect does not tell them apart. -/
def sameDates (d : Dialect) (s t : Scalar) : Bool :=
  d.legacyDates && s.isDated && t.isDated

/-- Whether a scalar of type `source` fits where `target` is expected. -/
def accepts (d : Dialect) (fit : Fit) (target source : Scalar) : Bool :=
  if target.sameDates d source then true
  else if target = error ∨ source = error then false
  else if target = source then true
  else
    match fit with
    | .exact => false
    | .loose => decide (source = blank) || (target.isNumeric && source.isNumeric)

end Scalar

/-- Both describe one record, or both describe a table. -/
def Shape.sameKind : Shape → Shape → Bool
  | .record, .record => true
  | .table _, .table _ => true
  | _, _ => false

mutual

/-- Whether a value of the second type fits where `target` is expected. -/
def DataType.accepts (d : Dialect) (fit : Fit) (target : DataType) : DataType → Bool
  | .scalar s =>
      match target with
      | .scalar t => t.accepts d fit s
      | .row .. => decide (fit = .loose) && decide (s = .blank)
  | .row shape _ ss =>
      match target with
      | .scalar _ => false
      | .row shape' _ ts => shape'.sameKind shape && Fields.acceptsAll d fit ts ss

/-- Whether each field is a field of `targets` and fits there. -/
def Fields.acceptsAll (d : Dialect) (fit : Fit) (targets : Fields none) :
    {lo : Option String} → Fields lo → Bool
  | _, .nil => true
  | _, .cons n _ s rest =>
      (match targets.find? n with
        | none => false
        | some t => DataType.accepts d fit t s) &&
      Fields.acceptsAll d fit targets rest

end

namespace Fields

theorem acceptsAll_iff (d : Dialect) (fit : Fit) (targets : Fields none) :
    {lo : Option String} → (fs : Fields lo) →
      (targets.acceptsAll d fit fs = true ↔
        ∀ n s, fs.find? n = some s → ∃ t, targets.find? n = some t ∧ t.accepts d fit s = true)
  | _, .nil => by simp [acceptsAll]
  | _, .cons m hm s rest => by
      have ih := acceptsAll_iff d fit targets rest
      rw [acceptsAll, Bool.and_eq_true, ih, forall_find?_cons]
      refine and_congr_left fun _ => ?_
      cases targets.find? m <;> simp

end Fields

end RowPatch
