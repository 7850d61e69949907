import RowPatch.Binding.Arguments
import RowPatch.Proofs.Schema.Coercion
import RowPatch.Proofs.Schema.Union

/-!
# The inspection of one argument

There are five ways in which the inspection of an argument can end.  Everything else about it is
read off from them.

**Results.**
* `inspectArgument_inspected`: the five ways.
* `inspectArgument_passed`: the two of them that an argument passes by.
* `inspectArgument_index`: the position of an argument only shows in what is reported.
* `accepts_of_contribution?`: under coercion, what an argument adds is accepted by the row type.
-/

namespace RowPatch

/-- How the inspection of an argument ends. -/
inductive Inspected (d : Dialect) (host : TypeHost) (row : DataType) (index : Nat)
    (arg : DataType) : Inspection → Prop
  | noRecord
      (hrecord : host.isRecord arg = false) :
      Inspected d host row index arg ⟨false, none, none, [.noRecord index arg]⟩
  | unknownFields
      (hrecord : host.isRecord arg = true)
      (hmissing : row.missing arg ≠ []) :
      Inspected d host row index arg
        ⟨false, none, none, (arg.missingNames row).map (.noColumn index)⟩
  | taken
      (hrecord : host.isRecord arg = true)
      (hmissing : row.missing arg = [])
      (htaken : row.accepts d .exact arg = true ∨ d.coercion = false) :
      Inspected d host row index arg ⟨true, none, some arg, []⟩
  | converted
      (c : DataType)
      (hrecord : host.isRecord arg = true)
      (hmissing : row.missing arg = [])
      (hexact : row.accepts d .exact arg = false)
      (hcoercion : d.coercion = true)
      (hc : row.coerce? d arg = some c) :
      Inspected d host row index arg ⟨true, if c = arg then none else some c, some c, []⟩
  | notConvertible
      (hrecord : host.isRecord arg = true)
      (hmissing : row.missing arg = [])
      (hexact : row.accepts d .exact arg = false)
      (hcoercion : d.coercion = true)
      (hc : row.coerce? d arg = none) :
      Inspected d host row index arg ⟨false, none, none, [.notConvertible index arg]⟩

theorem inspectArgument_inspected
    (d : Dialect)
    (host : TypeHost)
    (row : DataType)
    (index : Nat)
    (arg : DataType) :
    Inspected d host row index arg (inspectArgument d host row index arg) := by
  unfold inspectArgument
  cases hrecord : host.isRecord arg with
  | false => exact .noRecord hrecord
  | true =>
      simp only [if_true]
      cases hmissing : arg.missingNames row with
      | nil =>
          have hnone := (DataType.missingNames_eq_nil_iff arg row).1 hmissing
          split
          · rename_i htaken
            rw [Bool.or_eq_true, Bool.not_eq_true'] at htaken
            exact .taken hrecord hnone htaken
          · rename_i htaken
            rw [Bool.or_eq_true, Bool.not_eq_true', not_or, Bool.not_eq_true,
              Bool.not_eq_false] at htaken
            cases hc : row.coerce? d arg with
            | some c => exact .converted c hrecord hnone htaken.1 htaken.2 hc
            | none => exact .notConvertible hrecord hnone htaken.1 htaken.2 hc
      | cons n names =>
          have hsome : row.missing arg ≠ [] := by
            intro h
            rw [(DataType.missingNames_eq_nil_iff arg row).2 h] at hmissing
            exact absurd hmissing (by simp)
          have hfound : Inspected d host row index arg
              ⟨false, none, none, (arg.missingNames row).map (.noColumn index)⟩ :=
            .unknownFields hrecord hsome
          rw [hmissing] at hfound
          split
          · exact hfound
          · cases hc : row.coerce? d arg with
            | none => exact hfound
            | some c => exact absurd (DataType.missing_eq_nil_of_coerce? d arg row c hc) hsome

/-- A record of columns adds itself if it fits exactly or nothing is ever converted. -/
theorem inspectArgument_of_taken
    (d : Dialect)
    (host : TypeHost)
    (row : DataType)
    (index : Nat)
    (arg : DataType)
    (hrecord : host.isRecord arg = true)
    (hmissing : row.missing arg = [])
    (htaken : row.accepts d .exact arg = true ∨ d.coercion = false) :
    inspectArgument d host row index arg = ⟨true, none, some arg, []⟩ := by
  have hnames := (DataType.missingNames_eq_nil_iff arg row).2 hmissing
  unfold inspectArgument
  rcases htaken with h | h <;> simp [hrecord, hnames, h]

/-- A record that does not fit exactly adds what it is converted to. -/
theorem inspectArgument_of_converted
    (d : Dialect)
    (host : TypeHost)
    (row : DataType)
    (index : Nat)
    (arg c : DataType)
    (hrecord : host.isRecord arg = true)
    (hexact : row.accepts d .exact arg = false)
    (hcoercion : d.coercion = true)
    (hc : row.coerce? d arg = some c) :
    inspectArgument d host row index arg =
      ⟨true, if c = arg then none else some c, some c, []⟩ := by
  have hmissing := DataType.missing_eq_nil_of_coerce? d arg row c hc
  have hnames := (DataType.missingNames_eq_nil_iff arg row).2 hmissing
  unfold inspectArgument
  simp [hrecord, hnames, hexact, hcoercion, hc]

namespace Diagnostic

/-- The finding as it would be about another argument. -/
def about (index : Nat) (f : Diagnostic) : Diagnostic := { f with argument := index }

end Diagnostic

/-- The position of an argument shows in what is reported and nowhere else. -/
theorem inspectArgument_index
    (d : Dialect)
    (host : TypeHost)
    (row : DataType)
    (i j : Nat)
    (arg : DataType) :
    inspectArgument d host row i arg =
      { inspectArgument d host row j arg with
        found := (inspectArgument d host row j arg).found.map (.about i) } := by
  unfold inspectArgument
  cases host.isRecord arg with
  | false => rfl
  | true =>
      have hunknown : ∀ l : List String,
          (l.map (Diagnostic.noColumn j)).map (.about i) = l.map (Diagnostic.noColumn i) := by
        intro l
        rw [List.map_map]
        rfl
      simp only [if_true]
      split
      · rw [hunknown]
      · cases row.coerce? d arg with
        | some c => simp only [hunknown]
        | none =>
            cases (arg.missingNames row).isEmpty with
            | true => rfl
            | false => simp only [Bool.false_eq_true, if_false, hunknown]

theorem argument_of_mem_found
    (d : Dialect)
    (host : TypeHost)
    (row : DataType)
    (index : Nat)
    (arg : DataType)
    (f : Diagnostic)
    (h : f ∈ (inspectArgument d host row index arg).found) :
    f.argument = index := by
  rw [inspectArgument_index d host row index index arg] at h
  obtain ⟨g, _, rfl⟩ := List.mem_map.1 h
  rfl

/-- An inspection never speaks of a conflict. -/
theorem kind_of_mem_found
    (d : Dialect)
    (host : TypeHost)
    (row : DataType)
    (index : Nat)
    (arg : DataType)
    (f : Diagnostic)
    (h : f ∈ (inspectArgument d host row index arg).found) :
    f.kind ≠ .incompatibleRecord := by
  have hi := inspectArgument_inspected d host row index arg
  generalize inspectArgument d host row index arg = i at hi h
  cases hi with
  | noRecord =>
      rw [List.mem_singleton.1 h]
      simp [Diagnostic.noRecord, Diagnostic.error]
  | unknownFields =>
      obtain ⟨n, _, rfl⟩ := List.mem_map.1 h
      simp [Diagnostic.noColumn, Diagnostic.fieldError]
  | taken => exact absurd h (by simp)
  | converted => exact absurd h (by simp)
  | notConvertible =>
      rw [List.mem_singleton.1 h]
      simp [Diagnostic.notConvertible, Diagnostic.error]

/-- An argument passes the inspection when nothing is reported about it. -/
theorem inspectArgument_valid_iff
    (d : Dialect)
    (host : TypeHost)
    (row : DataType)
    (index : Nat)
    (arg : DataType) :
    (inspectArgument d host row index arg).valid = true ↔
      (inspectArgument d host row index arg).found = [] := by
  have hi := inspectArgument_inspected d host row index arg
  generalize inspectArgument d host row index arg = i at hi
  cases hi with
  | noRecord => simp
  | unknownFields _ hmissing => simpa [DataType.missingNames] using hmissing
  | taken => simp
  | converted => simp
  | notConvertible => simp

/-- How the inspection of an argument ends that passes it. -/
inductive Passed (d : Dialect) (host : TypeHost) (row arg : DataType) : Inspection → Prop
  | taken
      (hrecord : host.isRecord arg = true)
      (hmissing : row.missing arg = [])
      (htaken : row.accepts d .exact arg = true ∨ d.coercion = false) :
      Passed d host row arg ⟨true, none, some arg, []⟩
  | converted
      (c : DataType)
      (hrecord : host.isRecord arg = true)
      (hmissing : row.missing arg = [])
      (hexact : row.accepts d .exact arg = false)
      (hcoercion : d.coercion = true)
      (hc : row.coerce? d arg = some c) :
      Passed d host row arg ⟨true, if c = arg then none else some c, some c, []⟩

theorem inspectArgument_passed
    (d : Dialect)
    (host : TypeHost)
    (row : DataType)
    (index : Nat)
    (arg : DataType)
    (hvalid : (inspectArgument d host row index arg).valid = true) :
    Passed d host row arg (inspectArgument d host row index arg) := by
  have hi := inspectArgument_inspected d host row index arg
  generalize inspectArgument d host row index arg = i at hi hvalid ⊢
  cases hi with
  | noRecord => exact absurd hvalid (by simp)
  | unknownFields => exact absurd hvalid (by simp)
  | taken hrecord hmissing htaken => exact .taken hrecord hmissing htaken
  | converted c hrecord hmissing hexact hcoercion hc =>
      exact .converted c hrecord hmissing hexact hcoercion hc
  | notConvertible => exact absurd hvalid (by simp)

/-- What an argument adds to the return type, wherever it stands. -/
def contribution? (d : Dialect) (host : TypeHost) (row arg : DataType) : Option DataType :=
  (inspectArgument d host row 0 arg).contribution?

theorem inspectArgument_contribution?
    (d : Dialect)
    (host : TypeHost)
    (row : DataType)
    (index : Nat)
    (arg : DataType) :
    (inspectArgument d host row index arg).contribution? = contribution? d host row arg := by
  rw [inspectArgument_index d host row index 0 arg]
  rfl

/-- Under coercion, what an argument adds is loosely accepted by the row type. -/
theorem accepts_of_contribution?
    (d : Dialect)
    (host : TypeHost)
    (row arg u : DataType)
    (hcoercion : d.coercion = true)
    (hu : contribution? d host row arg = some u) :
    row.accepts d .loose u = true := by
  unfold contribution? at hu
  have hi := inspectArgument_inspected d host row 0 arg
  generalize inspectArgument d host row 0 arg = i at hi hu
  cases hi with
  | noRecord => exact absurd hu (by simp)
  | unknownFields => exact absurd hu (by simp)
  | taken _ _ htaken =>
      cases Option.some.inj hu
      rcases htaken with hexact | hoff
      · exact DataType.accepts_loose_of_accepts d .exact arg row hexact
      · rw [hcoercion] at hoff
        exact absurd hoff (by simp)
  | converted c _ _ _ _ hc =>
      cases Option.some.inj hu
      exact DataType.accepts_of_coerce? d arg row u hc
  | notConvertible => exact absurd hu (by simp)

end RowPatch
