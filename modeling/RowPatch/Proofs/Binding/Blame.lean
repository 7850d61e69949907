import RowPatch.Proofs.Binding.Independence
import RowPatch.Proofs.Schema.Remnant

/-!
# Who is blamed for a conflict

Each argument is united with what the arguments before it made of the row type.  So without coercion
a misfit can spoil a column for a later argument that fits it.

**Results.**
* `conflicts_returnTypeAfter_iff`: a fitting argument conflicts with what some earlier argument
  spoiled, and with nothing else.
* `fitting_argument_blamed`: a fitting argument that is blamed for an earlier one.
* `fitting_argument_blamed_iff`: when this happens.
-/

namespace RowPatch

section

variable (d : Dialect) (host : TypeHost) (row arg : DataType)
  (hfit : row.accepts d .exact arg = true)
include hfit

theorem conflicts_uniteNext_iff
    (soFar other : DataType)
    (hsoFar : DataType.Remnant row soFar) :
    DataType.Remnant row (uniteNext d host row soFar other) ∧
      ((uniteNext d host row soFar other).conflicts d arg = [] ↔
        soFar.conflicts d arg = [] ∧ ∀ u, contribution? d host row other = some u →
          ∀ p ∈ row.conflicts d u, arg.at? p = none) := by
  unfold uniteNext
  cases hu : contribution? d host row other with
  | none => exact ⟨hsoFar, by simp⟩
  | some u =>
      refine ⟨hsoFar.unite d u, ?_⟩
      simpa using hsoFar.conflicts_unite_iff d arg u hfit

/-- A fitting argument conflicts with what some earlier argument spoiled, and with nothing else. -/
theorem conflicts_returnTypeAfter_iff
    (args : List DataType) :
    ∀ start : DataType, DataType.Remnant row start →
      ((returnTypeAfter d host row start args).conflicts d arg = [] ↔
        start.conflicts d arg = [] ∧
          ∀ other ∈ args, ∀ u, contribution? d host row other = some u →
            ∀ p ∈ row.conflicts d u, arg.at? p = none) := by
  induction args with
  | nil =>
      intro start _
      simp [returnTypeAfter]
  | cons other args ih =>
      intro start hstart
      obtain ⟨hnext, hstep⟩ := conflicts_uniteNext_iff d host row arg hfit start other hstart
      rw [returnTypeAfter_cons, ih _ hnext, hstep, List.forall_mem_cons, and_assoc]

end

/-- What an argument adds without being converted conflicts with the row type only if nothing is
ever converted. -/
theorem conflicting_contribution?_iff
    (d : Dialect)
    (host : TypeHost)
    (row other : DataType)
    (p : Path) :
    (∃ u, contribution? d host row other = some u ∧ p ∈ row.conflicts d u) ↔
      d.coercion = false ∧ host.isRecord other = true ∧ row.missing other = [] ∧
        p ∈ row.conflicts d other := by
  constructor
  · rintro ⟨u, hu, hp⟩
    have hoff : d.coercion = false := by
      cases hcoercion : d.coercion with
      | false => rfl
      | true =>
          have haccepts := accepts_of_contribution? d host row other u hcoercion hu
          rw [DataType.conflicts_eq_nil_of_accepts d u row haccepts] at hp
          exact absurd hp (by simp)
    unfold contribution? at hu
    have hi := inspectArgument_inspected d host row 0 other
    generalize inspectArgument d host row 0 other = i at hi hu
    cases hi with
    | noRecord => exact absurd hu (by simp)
    | unknownFields => exact absurd hu (by simp)
    | taken hrecord hmissing =>
        cases Option.some.inj hu
        exact ⟨hoff, hrecord, hmissing, hp⟩
    | converted _ _ _ _ hcoercion =>
        rw [hoff] at hcoercion
        exact absurd hcoercion (by simp)
    | notConvertible => exact absurd hu (by simp)
  · rintro ⟨hoff, hrecord, hmissing, hp⟩
    refine ⟨other, ?_, hp⟩
    rw [contribution?, inspectArgument_of_taken d host row 0 other hrecord hmissing (Or.inr hoff)]

/-- Without coercion a change that fits a column of numbers is blamed for a text in the base
record. -/
theorem fitting_argument_blamed :
    let d : Dialect := { coercion := false }
    let fields := Fields.ofList [("price", .scalar .number)]
    let text := DataType.record ∅ (.ofList [("price", .scalar .text)])
    let change := DataType.record ∅ fields
    d.acceptsArity 3 = true ∧
      change.isRecord = true ∧
      (DataType.record ∅ fields).accepts d .exact change = true ∧
      (checkTableCall d false ∅ fields [text, change]).foundAt 2 = [.columnConflict 2 "price"] := by
  decide +kernel

/-- An argument that fits is blamed exactly when there is no coercion and an earlier record of
columns conflicts with the row type at a position that the argument has. -/
theorem fitting_argument_blamed_iff
    (d : Dialect)
    (origins : SortedSet Origin)
    (fields : Fields none)
    (args : List DataType)
    (harity : d.acceptsArity (args.length + 1) = true)
    (i : Nat)
    (arg : DataType)
    (hi : args[i]? = some arg)
    (hrecord : arg.isRecord = true)
    (hfit : (DataType.record origins fields).accepts d .exact arg = true) :
    (checkTableCall d false origins fields args).foundAt (i + 1) ≠ [] ↔
      d.coercion = false ∧ ∃ j other, j < i ∧ args[j]? = some other ∧ other.isRecord = true ∧
        (DataType.record origins fields).missing other = [] ∧
        ∃ p ∈ (DataType.record origins fields).conflicts d other, (arg.at? p).isSome = true := by
  have hinspect := inspectArgument_of_taken d .structural _ (i + 1) arg hrecord
    (DataType.missing_eq_nil_of_accepts d .exact arg _ hfit) (Or.inl hfit)
  have hadds : contribution? d .structural (.record origins fields) arg = some arg := by
    rw [← inspectArgument_contribution? d .structural _ (i + 1) arg, hinspect]
  have hstart : (initialRow false origins fields).conflicts d arg = [] :=
    DataType.conflicts_eq_nil_of_accepts d arg (.record origins fields)
      (DataType.accepts_loose_of_accepts d .exact arg _ hfit)
  rw [foundAt_checkArguments d .structural false origins fields args harity rfl i arg hi,
    argumentFindings, hinspect, List.nil_append, conflictFindings, hadds, ne_eq,
    unionFindings_eq_nil_iff,
    conflicts_returnTypeAfter_iff d .structural _ arg hfit (args.take i)
      (initialRow false origins fields) (.refl _)]
  simp only [hstart, true_and, Classical.not_forall]
  constructor
  · rintro ⟨other, hother, u, hu, p, hp, hat⟩
    obtain ⟨j, hj, rfl⟩ := List.mem_take_iff_getElem.1 hother
    obtain ⟨hoff, hrecord, hmissing, hp⟩ :=
      (conflicting_contribution?_iff d .structural _ _ p).1 ⟨u, hu, hp⟩
    exact ⟨hoff, j, args[j], by omega, by simp, hrecord, hmissing, p, hp,
      Option.isSome_iff_ne_none.2 hat⟩
  · rintro ⟨hoff, j, other, hji, hj, hrecord, hmissing, p, hp, hat⟩
    obtain ⟨u, hu, hpu⟩ :=
      (conflicting_contribution?_iff d .structural _ other p).2 ⟨hoff, hrecord, hmissing, hp⟩
    have hother : other ∈ args.take i := by
      apply List.mem_of_getElem? (i := j)
      rw [List.getElem?_take_of_lt hji, hj]
    exact ⟨other, hother, u, hu, p, hpu, Option.isSome_iff_ne_none.1 hat⟩

/-- Without coercion a conflict about one column leaves an argument alone that does not name it. -/
theorem fitting_argument_spared :
    let d : Dialect := { coercion := false }
    let fields := Fields.ofList [("price", .scalar .number), ("title", .scalar .text)]
    let base := DataType.record ∅ (.ofList [("title", .scalar .number)])
    let change := DataType.record ∅ (.ofList [("price", .scalar .number)])
    (checkTableCall d false ∅ fields [base, change]).foundAt 1 = [.columnConflict 1 "title"] ∧
      (checkTableCall d false ∅ fields [base, change]).foundAt 2 = [] := by
  intro d fields base change
  refine ⟨by decide +kernel, ?_⟩
  have hblamed := fitting_argument_blamed_iff d ∅ fields [base, change] rfl 1 change rfl rfl
    (by decide +kernel)
  apply Classical.byContradiction
  intro h
  obtain ⟨-, j, other, hj, hother, -, -, p, hp, hat⟩ := hblamed.1 h
  obtain rfl : j = 0 := by omega
  cases Option.some.inj hother
  have hpath : (DataType.record ∅ fields).conflicts d base = [["title"]] := by decide +kernel
  rw [hpath] at hp
  cases List.mem_singleton.1 hp
  exact absurd hat (by decide +kernel)

end RowPatch
