import RowPatch.Proofs.Binding.Independence
import RowPatch.Proofs.Schema.Marks

/-!
# Which conversions are recorded

A type that fits loosely needs no conversion.  It is still rebuilt, and loses the marks of its
failed tables; so a conversion is recorded for an argument that fits if it holds such a table and
does not fit exactly.

**Results.**
* `inspectArgument_coercion?_of_accepts`: what is recorded for an argument that fits.
* `failed_lines_lose_their_mark`: a type that fits and is converted nevertheless.
* `fitting_type_loses_only_marks`: what becomes of types and of arguments that fit.
-/

namespace RowPatch

/-- For an argument that fits, the conversion that leaves out its marks is recorded if there are any
and the argument does not fit exactly. -/
theorem inspectArgument_coercion?_of_accepts
    (d : Dialect)
    (host : TypeHost)
    (row : DataType)
    (index : Nat)
    (arg : DataType)
    (hcoercion : d.coercion = true)
    (hrecord : host.isRecord arg = true)
    (haccepts : row.accepts d .loose arg = true) :
    (inspectArgument d host row index arg).coercion? =
      if row.accepts d .exact arg = false ∧ arg.holdsFailed = true then some arg.unmarked
      else none := by
  have hconverted := DataType.coerce?_of_accepts d arg row haccepts
  have hi := inspectArgument_inspected d host row index arg
  generalize inspectArgument d host row index arg = i at hi
  cases hi with
  | noRecord hno =>
      rw [hrecord] at hno
      exact absurd hno (by simp)
  | unknownFields _ hmissing =>
      exact absurd (DataType.missing_eq_nil_of_accepts d .loose arg row haccepts) hmissing
  | taken _ _ htaken =>
      have hexact : row.accepts d .exact arg = true := htaken.resolve_right (by simp [hcoercion])
      simp [hexact]
  | converted c _ _ hexact _ hc =>
      cases Option.some.inj (hc.symm.trans hconverted)
      have hmarks := DataType.unmarked_eq_self_iff arg
      cases hfailed : arg.holdsFailed <;> simp [hexact, hmarks, hfailed]
  | notConvertible _ _ _ _ hc =>
      rw [hc] at hconverted
      exact absurd hconverted (by simp)

/-- A failed table fits where a table with its fields is expected, and is converted to a table that
has not failed.  An order with such a table and a blank note fits the row type; yet a conversion is
recorded for it. -/
theorem failed_lines_lose_their_mark :
    let lines (failed : Bool) : DataType :=
      .table failed ∅ (.ofList [("count", .scalar .number)])
    let order (note : Scalar) (failed : Bool) := Fields.ofList
      [("note", .scalar note), ("lines", lines failed)]
    let change : DataType := .record ∅ (order .blank true)
    (lines false).accepts .standard .loose (lines true) = true ∧
      (lines false).coerce? .standard (lines true) = some (lines false) ∧
      lines false ≠ lines true ∧
      (DataType.record ∅ (order .text false)).accepts .standard .loose change = true ∧
      (checkTableCall .standard false ∅ (order .text false) [change, change]).coercionAt? 2 =
        some (.record ∅ (order .blank false)) := by
  decide +kernel

/-- A type that fits loosely is converted to itself without the marks of its failed tables, and so
to itself if it holds none.  Under coercion no conversion is recorded for an argument that the row
type accepts loosely, unless it holds a failed table and does not fit exactly; then the one that
leaves out its marks is. -/
theorem fitting_type_loses_only_marks
    (d : Dialect) :
    (∀ target source : DataType, target.accepts d .loose source = true →
      target.coerce? d source = some source.unmarked ∧
      (target.coerce? d source = some source ↔ source.holdsFailed = false)) ∧
    (d.coercion = true → ∀ failed origins fields args, d.acceptsArity (args.length + 1) = true →
      ∀ j arg, args[j]? = some arg →
        let row := DataType.record origins fields
        row.accepts d .loose arg = true →
          (checkTableCall d failed origins fields args).coercionAt? (j + 1) =
            if row.accepts d .exact arg = false ∧ arg.holdsFailed = true then some arg.unmarked
            else none) := by
  constructor
  · intro target source haccepts
    have hconverted := DataType.coerce?_of_accepts d source target haccepts
    refine ⟨hconverted, ?_⟩
    rw [hconverted, Option.some.injEq, DataType.unmarked_eq_self_iff]
  · intro hcoercion failed origins fields args harity j arg hj row haccepts
    rw [coercionAt?_checkArguments d .structural failed origins fields args harity rfl j arg hj]
    cases arg with
    | row s o fs =>
        have hrecord : s.plain = .record := ((DataType.accepts_row_iff d .loose _ s _ o _ fs).1
          haccepts).1.symm
        cases s with
        | table failed => exact absurd hrecord (by simp [Shape.plain])
        | record =>
            exact inspectArgument_coercion?_of_accepts d .structural row (j + 1) _ hcoercion rfl
              haccepts
    | scalar k => simp [inspectArgument, TypeHost.structural, DataType.isRecord,
        DataType.holdsFailed]

/-- An order with a blank note and lines that have not failed is its own conversion, and none is
recorded for it. -/
theorem sound_lines_stay_as_they_are :
    let order (note : Scalar) := Fields.ofList
      [("note", .scalar note), ("lines", .table false ∅ (.ofList [("count", .scalar .number)]))]
    let row := DataType.record ∅ (order .text)
    let change := DataType.record ∅ (order .blank)
    row.accepts .standard .loose change = true ∧
      row.accepts .standard .exact change = false ∧
      row.coerce? .standard change = some change ∧
      (checkTableCall .standard false ∅ (order .text) [change, change]).coercionAt? 2 = none := by
  intro order row change
  obtain ⟨htypes, hcalls⟩ := fitting_type_loses_only_marks .standard
  have haccepts : row.accepts .standard .loose change = true := by decide +kernel
  have hsound : change.holdsFailed = false := by decide +kernel
  refine ⟨haccepts, by decide +kernel, (htypes row change haccepts).2.2 hsound, ?_⟩
  rw [hcalls rfl false ∅ (order .text) [change, change] rfl 1 change rfl haccepts, if_neg]
  simp [hsound]

end RowPatch
