import RowPatch.Proofs.Binding.Findings
import RowPatch.Proofs.Schema.Marks
import RowPatch.Proofs.Schema.MissingFields

/-!
# Arguments with unknown fields

There are four judgements about two types: that one fits the other exactly, that it fits loosely, that
it can be converted, and that the other has all of its fields.  Each of them implies the next.  So a
type with a field too many neither fits nor can be converted, and nothing has to be said of its
conversion when the field has been reported.

**Results.**
* `DataType.exists_coerce?_of_accepts`: what fits can be converted.
* `DataType.not_fits_of_lacks`: what has a field too many neither fits nor can be converted.
* `foundAt_of_coerce?_eq_none`: a conversion that fails is reported, or unknown fields are.
* `foundAt_of_lacks`: of an argument with unknown fields these are reported, and nothing is converted.
* `judgements_are_nested`: the four judgements, and what a check reports of them.
-/

namespace RowPatch

namespace DataType

variable (d : Dialect)

/-- What fits can be converted. -/
theorem exists_coerce?_of_accepts
    (fit : Fit)
    (target source : DataType)
    (h : target.accepts d fit source = true) :
    ∃ c, target.coerce? d source = some c :=
  ⟨_, coerce?_of_accepts d source target (accepts_loose_of_accepts d fit source target h)⟩

theorem missing_ne_nil_of_lacks
    (target source : DataType)
    (h : ∃ p, Lacks target source p) :
    target.missing source ≠ [] := by
  obtain ⟨p, hp⟩ := h
  exact List.ne_nil_of_mem ((mem_missing_iff source target p).2 hp)

/-- What has a field too many, at any depth, neither fits nor can be converted. -/
theorem not_fits_of_lacks
    (target source : DataType)
    (h : ∃ p, Lacks target source p) :
    (∀ fit, target.accepts d fit source = false) ∧ target.coerce? d source = none := by
  have hmissing := missing_ne_nil_of_lacks target source h
  have hnone : target.coerce? d source = none := by
    rw [Option.eq_none_iff_forall_ne_some]
    intro c hc
    exact hmissing (missing_eq_nil_of_coerce? d source target c hc)
  refine ⟨fun fit => Bool.eq_false_iff.2 fun haccepts => ?_, hnone⟩
  obtain ⟨c, hc⟩ := exists_coerce?_of_accepts d fit target source haccepts
  rw [hnone] at hc
  exact absurd hc (by simp)

end DataType

section TableCall

variable (d : Dialect) (host : TypeHost) (failed : Bool) (origins : SortedSet Origin)
  (fields : Fields none) (args : List DataType)
  (harity : d.acceptsArity (args.length + 1) = true)
  (htable : host.isTable (.table failed origins fields) = true)
  (j : Nat) (arg : DataType) (hj : args[j]? = some arg) (hrecord : host.isRecord arg = true)
include harity htable hj hrecord

/-- A conversion that fails is reported as such, or else the unknown fields are that make it fail. -/
theorem foundAt_of_coerce?_eq_none
    (hcoercion : d.coercion = true)
    (hc : (DataType.record origins fields).coerce? d arg = none) :
    (checkArguments d host (.table failed origins fields :: args)).foundAt (j + 1) =
      if arg.missingNames (.record origins fields) = [] then [.notConvertible (j + 1) arg]
      else (arg.missingNames (.record origins fields)).map (.noColumn (j + 1)) := by
  have hreport :=
    argumentReport_checkArguments d host failed origins fields args harity htable j arg hj
  generalize (checkArguments d host (.table failed origins fields :: args)).foundAt (j + 1) = found
    at hreport ⊢
  cases hreport with
  | nothing _ _ hfits =>
      -- an exact fit could be converted too, and so the conversion was tried
      rcases hfits hcoercion with hexact | hsome
      · obtain ⟨c, hc'⟩ := DataType.exists_coerce?_of_accepts d .exact _ arg hexact
        exact absurd (hc.symm.trans hc') (by simp)
      · simp [hc] at hsome
  | noRecord hno => exact absurd (hno.symm.trans hrecord) (by simp)
  | unknownFields _ hmissing => rw [if_neg hmissing]
  | notConvertible _ hmissing =>
      rw [if_pos ((DataType.missingNames_eq_nil_iff arg _).2 hmissing)]
  | conflicts _ _ hoff => exact absurd (hoff.symm.trans hcoercion) (by simp)

/-- Of an argument with unknown fields these are reported and nothing else, and no conversion is
recorded for it. -/
theorem foundAt_of_lacks
    (hlacks : ∃ p, DataType.Lacks (.record origins fields) arg p) :
    (checkArguments d host (.table failed origins fields :: args)).foundAt (j + 1) =
        (arg.missingNames (.record origins fields)).map (.noColumn (j + 1)) ∧
      (checkArguments d host (.table failed origins fields :: args)).coercionAt? (j + 1) = none := by
  have hmissing := DataType.missing_ne_nil_of_lacks _ arg hlacks
  constructor
  · have hreport :=
      argumentReport_checkArguments d host failed origins fields args harity htable j arg hj
    generalize (checkArguments d host (.table failed origins fields :: args)).foundAt (j + 1) =
      found at hreport ⊢
    cases hreport with
    | nothing _ hnone => exact absurd hnone hmissing
    | noRecord hno => exact absurd (hno.symm.trans hrecord) (by simp)
    | unknownFields => rfl
    | notConvertible _ hnone => exact absurd hnone hmissing
    | conflicts _ hnone => exact absurd hnone hmissing
  · rw [coercionAt?_checkArguments d host failed origins fields args harity htable j arg hj]
    have hi := inspectArgument_inspected d host (.record origins fields) (j + 1) arg
    generalize inspectArgument d host (.record origins fields) (j + 1) arg = i at hi ⊢
    cases hi with
    | noRecord => rfl
    | unknownFields => rfl
    | taken => rfl
    | converted _ _ hnone => exact absurd hnone hmissing
    | notConvertible => rfl

end TableCall

/-- The four judgements are nested.  What fits exactly fits loosely, what fits loosely can be converted,
and what can be converted has no missing field; so a type with a field too many, at any depth, neither
fits nor can be converted.  The check of a call, for every host, rests on this: a conversion that fails
is passed over in silence only where unknown fields have been reported, and an argument with unknown
fields has no conversion, and these fields are all that is reported about it. -/
theorem judgements_are_nested (d : Dialect) :
    (∀ target source : DataType,
      (target.accepts d .exact source = true → target.accepts d .loose source = true) ∧
        (target.accepts d .loose source = true → ∃ c, target.coerce? d source = some c) ∧
        ((∃ c, target.coerce? d source = some c) → source.missingNames target = []) ∧
        ((∃ p, DataType.Lacks target source p) →
          (∀ fit, target.accepts d fit source = false) ∧ target.coerce? d source = none)) ∧
      ∀ (host : TypeHost) (failed : Bool) (origins : SortedSet Origin) (fields : Fields none)
        (args : List DataType) (j : Nat) (arg : DataType),
        d.acceptsArity (args.length + 1) = true →
          host.isTable (.table failed origins fields) = true →
          args[j]? = some arg → host.isRecord arg = true →
            let row := DataType.record origins fields
            let v := checkArguments d host (.table failed origins fields :: args)
            (d.coercion = true → row.coerce? d arg = none →
              v.foundAt (j + 1) = if arg.missingNames row = [] then [.notConvertible (j + 1) arg]
                else (arg.missingNames row).map (.noColumn (j + 1))) ∧
              ((∃ p, DataType.Lacks row arg p) →
                v.foundAt (j + 1) = (arg.missingNames row).map (.noColumn (j + 1)) ∧
                  v.coercionAt? (j + 1) = none) := by
  constructor
  · intro target source
    refine ⟨DataType.accepts_loose_of_accepts d .exact source target,
      DataType.exists_coerce?_of_accepts d .loose target source, ?_,
      DataType.not_fits_of_lacks d target source⟩
    rintro ⟨c, hc⟩
    rw [DataType.missingNames_eq_nil_iff]
    exact DataType.missing_eq_nil_of_coerce? d source target c hc
  · intro host failed origins fields args j arg harity htable hj hrecord
    exact ⟨foundAt_of_coerce?_eq_none d host failed origins fields args harity htable j arg hj hrecord,
      foundAt_of_lacks d host failed origins fields args harity htable j arg hj hrecord⟩

/-- The lines of a failed table fit and can be converted.  A base record with an unknown field in its
lines, which are a record where a table is expected, and a change that has no such field cannot be
converted, and each is reported in its own way. -/
theorem failed_conversions_reported :
    let lines (shape : Shape) (fields : List (String × Scalar)) : DataType :=
      .row shape ∅ (.ofList (fields.map fun f => (f.1, .scalar f.2)))
    let target := lines (.table false) [("count", .number)]
    let source := lines (.table true) [("count", .number)]
    let fields := Fields.ofList [("day", .scalar .date), ("lines", target)]
    let order (t : DataType) : DataType := .record ∅ (.ofList [("lines", t)])
    let base := order (lines .record [("count", .number), ("size", .text)])
    let change := order (lines .record [("count", .number)])
    let v := checkArguments .standard .structural [.table false ∅ fields, base, change]
    target.accepts .standard .exact source = true ∧ target.accepts .standard .loose source = true ∧
      (∃ c, target.coerce? .standard source = some c) ∧ source.missingNames target = [] ∧
      DataType.Lacks (.record ∅ fields) base ["lines", "size"] ∧
      (∀ fit, (DataType.record ∅ fields).accepts .standard fit base = false) ∧
      v.foundAt 1 = [.noColumn 1 "lines.size"] ∧ v.coercionAt? 1 = none ∧
      (DataType.record ∅ fields).coerce? .standard change = none ∧
      v.foundAt 2 = [.notConvertible 2 change] := by
  intro lines target source fields order base change v
  obtain ⟨hnested, hcall⟩ := judgements_are_nested .standard
  obtain ⟨hloose, hconverts, hnames, -⟩ := hnested target source
  obtain ⟨-, -, -, hfails⟩ := hnested (.record ∅ fields) base
  have hexact : target.accepts .standard .exact source = true := by decide +kernel
  have hlacks : DataType.Lacks (.record ∅ fields) base ["lines", "size"] := by
    rw [← DataType.mem_missing_iff]
    decide +kernel
  have hnone : (DataType.record ∅ fields).coerce? .standard change = none := by decide +kernel
  have hunknown : base.missingNames (.record ∅ fields) = ["lines.size"] := by decide +kernel
  have hknown : change.missingNames (.record ∅ fields) = [] := by decide +kernel
  obtain ⟨-, hbase⟩ :=
    hcall .structural false ∅ fields [base, change] 0 base (by decide) rfl rfl rfl
  obtain ⟨hfound, hconversion⟩ := hbase ⟨_, hlacks⟩
  rw [hunknown] at hfound
  obtain ⟨hchange, -⟩ :=
    hcall .structural false ∅ fields [base, change] 1 change (by decide) rfl rfl rfl
  exact ⟨hexact, hloose hexact, hconverts (hloose hexact), hnames (hconverts (hloose hexact)), hlacks,
    (hfails ⟨_, hlacks⟩).1, hfound, hconversion, hnone, (hchange rfl hnone).trans (if_pos hknown)⟩

end RowPatch
