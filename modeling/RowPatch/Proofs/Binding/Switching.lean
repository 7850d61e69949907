import RowPatch.Proofs.Binding.Contributions
import RowPatch.Proofs.Schema.Grouping

/-!
# Switching coercion on

Without coercion an argument has to unite with what the arguments before it made of the row type,
and is never held against the columns themselves.  Under coercion it has to fit the columns or be
converted to them.  The two differ where a union takes in more than the column accepts: at a `Blank`
or an `Error` in the row type, and everywhere in a failed table, whose columns take no part in the
union.

**Results.**
* `inspectArgument_valid_iff_of_coercion`: what passes its inspection under coercion.
* `conflicts_of_valid_without_coercion`: without coercion, no argument of a valid call conflicts with
  the row that the union starts from.
* `coercion_rejects_valid_calls`: calls that only coercion rejects.
* `coercion_keeps_valid_iff`: when a valid call stays valid.
-/

namespace RowPatch

/-- Under coercion an argument passes its inspection when it is a record that can be converted to the
row type. -/
theorem inspectArgument_valid_iff_of_coercion
    (d : Dialect)
    (host : TypeHost)
    (row : DataType)
    (index : Nat)
    (arg : DataType)
    (hcoercion : d.coercion = true) :
    (inspectArgument d host row index arg).valid = true ↔
      host.isRecord arg = true ∧ (row.coerce? d arg).isSome = true := by
  have hi := inspectArgument_inspected d host row index arg
  generalize inspectArgument d host row index arg = i at hi
  cases hi with
  | noRecord hrecord => simp [hrecord]
  | unknownFields hrecord hmissing =>
      have hnone : (row.coerce? d arg).isSome ≠ true := fun h =>
        hmissing ((DataType.coerce?_isSome_iff d arg row).1 h).1
      simp [hnone]
  | taken hrecord _ htaken =>
      have hexact : row.accepts d .exact arg = true := htaken.resolve_right (by simp [hcoercion])
      have hloose := DataType.accepts_loose_of_accepts d .exact arg row hexact
      simp [hrecord, DataType.coerce?_of_accepts d arg row hloose]
  | converted c hrecord _ _ _ hc => simp [hrecord, hc]
  | notConvertible hrecord _ _ _ hc => simp [hc]

/-- Without coercion an argument that passes its inspection adds itself. -/
theorem contribution?_without_coercion
    (d : Dialect)
    (host : TypeHost)
    (row : DataType)
    (index : Nat)
    (arg : DataType)
    (hoff : d.coercion = false)
    (hfound : (inspectArgument d host row index arg).found = []) :
    host.isRecord arg = true ∧ row.missing arg = [] ∧ contribution? d host row arg = some arg := by
  rw [← inspectArgument_contribution? d host row index arg]
  have hi := inspectArgument_passed d host row index arg ((inspectArgument_valid_iff ..).2 hfound)
  generalize inspectArgument d host row index arg = i at hi ⊢
  cases hi with
  | taken hrecord hmissing => exact ⟨hrecord, hmissing, rfl⟩
  | converted _ _ _ _ hcoercion =>
      rw [hoff] at hcoercion
      exact absurd hcoercion (by simp)

section

variable (d : Dialect) (host : TypeHost) (failed : Bool) (origins : SortedSet Origin)
  (fields : Fields none) (args : List DataType)
  (harity : d.acceptsArity (args.length + 1) = true)
  (htable : host.isTable (.table failed origins fields) = true)
  (hoff : d.coercion = false)
  (hvalid : (checkArguments d host (.table failed origins fields :: args)).valid = true)
include harity htable hoff hvalid

/-- Without coercion each argument of a valid call is a record of columns that unites with what the
arguments before it made of the row. -/
theorem argument_of_valid_without_coercion
    (j : Nat)
    (arg : DataType)
    (hj : args[j]? = some arg) :
    (host.isRecord arg = true ∧ (DataType.record origins fields).missing arg = [] ∧
        contribution? d host (.record origins fields) arg = some arg) ∧
      (returnTypeAfter d host (.record origins fields) (initialRow failed origins fields)
        (args.take j)).conflicts d arg = [] := by
  obtain ⟨hpass, hfree⟩ := (valid_checkArguments_iff_forall d host failed origins fields args harity
    htable).1 hvalid j arg hj
  have hadds := contribution?_without_coercion d host _ 0 arg hoff
    ((inspectArgument_valid_iff ..).1 hpass)
  exact ⟨hadds, hfree arg hadds.2.2⟩

theorem conflicts_returnTypeAfter_of_valid
    (c : DataType) :
    ∀ j : Nat, (returnTypeAfter d host (.record origins fields) (initialRow failed origins fields)
        (args.take j)).conflicts d c = [] →
      (initialRow failed origins fields).conflicts d c = [] := by
  intro j
  induction j with
  | zero => exact fun h => h
  | succ j ih =>
      intro h
      apply ih
      cases hj : args[j]? with
      | none => simpa [List.take_add_one, hj] using h
      | some arg =>
          obtain ⟨⟨-, -, hadds⟩, hfree⟩ := argument_of_valid_without_coercion d host failed origins
            fields args harity htable hoff hvalid j arg hj
          -- the union with this argument did not conflict, so it spoiled nothing
          refine ((DataType.conflicts_unite_iff d _ arg c hfree).1 ?_).1
          simpa [returnTypeAfter_take_add_one d host _ _ arg args j hj, uniteNext, hadds] using h

/-- Without coercion no argument of a valid call conflicts with the row that the union starts
from. -/
theorem conflicts_of_valid_without_coercion
    (arg : DataType)
    (harg : arg ∈ args) :
    (initialRow failed origins fields).conflicts d arg = [] := by
  obtain ⟨j, hj⟩ := List.mem_iff_getElem?.1 harg
  exact conflicts_returnTypeAfter_of_valid d host failed origins fields args harity htable hoff hvalid
    arg j (argument_of_valid_without_coercion d host failed origins fields args harity htable hoff
      hvalid j arg hj).2

end

/-- What suits depends on the dialect through its dates alone. -/
theorem DataType.suits_with_coercion
    (d : Dialect)
    (coercion : Bool)
    (t u : DataType) :
    t.suits { d with coercion := coercion } u = t.suits d u := by
  cases t <;> cases u <;> rfl

/-- Calls that are valid as long as nothing is converted.  Coercion rejects a text in a blank column,
a blank in a column of errors, and a text in a column of records if the table has failed. -/
theorem coercion_rejects_valid_calls :
    let call (failed : Bool) (column type : DataType) : List DataType :=
      [.table failed ∅ (.ofList [("note", column)]), .record ∅ .nil,
        .record ∅ (.ofList [("note", type)])]
    ∀ args ∈ [call false .blank (.scalar .text), call false .error .blank,
        call true (.record ∅ .nil) (.scalar .text)],
      (checkArguments { coercion := false } .structural args).valid = true ∧
        (checkArguments { coercion := true } .structural args).valid = false := by
  decide +kernel

/-- A call that is valid without coercion stays valid under coercion, unless some argument has a type
where the row type has an `Error`, or a type other than `Blank` where the row type has a `Blank`.  If
the table has failed, the call stays valid when each argument suits the row type at every position
that both have. -/
theorem coercion_keeps_valid_iff
    (d : Dialect)
    (args : List DataType)
    (hvalid : (checkArguments { d with coercion := false } .structural args).valid = true) :
    ∃ failed origins fields rest, args = .table failed origins fields :: rest ∧
      let row := DataType.record origins fields
      let v := checkArguments { d with coercion := true } .structural args
      (failed = false →
        (v.valid = true ↔ ∀ arg ∈ rest, ∀ p x y, row.at? p = some x → arg.at? p = some y →
          x ≠ .error ∧ (x = .blank → y = .blank))) ∧
      (failed = true →
        (v.valid = true ↔ ∀ arg ∈ rest, ∀ p x y, row.at? p = some x → arg.at? p = some y →
          x.suits d y = true)) := by
  obtain ⟨failed, origins, fields, rest, rfl, harity, htable⟩ :=
    exists_table_of_valid _ .structural args hvalid
  refine ⟨failed, origins, fields, rest, rfl, ?_⟩
  intro row v
  have hsuits : v.valid = true ↔
      ∀ arg ∈ rest, row.Everywhere (fun x y => x.suits d y = true) arg := by
    rw [valid_iff_of_coercion { d with coercion := true } .structural failed origins fields rfl rest
      harity htable]
    refine forall₂_congr ?_
    intro arg harg
    obtain ⟨j, hj⟩ := List.mem_iff_getElem?.1 harg
    obtain ⟨⟨hrecord, hmissing, -⟩, -⟩ := argument_of_valid_without_coercion _ .structural failed
      origins fields rest harity htable rfl hvalid j arg hj
    rw [inspectArgument_valid_iff_of_coercion _ _ _ _ _ rfl, DataType.coerce?_isSome_iff]
    simp only [hrecord, hmissing, DataType.suits_with_coercion, true_and]
    rfl
  refine ⟨?_, fun _ => hsuits⟩
  rintro rfl
  rw [hsuits]
  refine forall₂_congr ?_
  intro arg harg
  have hfree := conflicts_of_valid_without_coercion _ .structural false origins fields rest harity
    htable rfl hvalid arg harg
  apply DataType.everywhere_congr
  exact (DataType.everywhere_of_conflicts_eq_nil _ arg row hfree).mono fun x y hxy =>
    DataType.suits_with_coercion d false x y ▸ DataType.suits_iff_of_conflicts_eq_nil _ x y hxy

/-- A blank in a blank column and a decimal in a column of numbers stay valid under coercion. -/
theorem blank_and_decimal_stay_valid :
    let fields := Fields.ofList [("note", .blank), ("price", .scalar .number)]
    let base := DataType.record ∅ (.ofList [("note", .blank)])
    let change := DataType.record ∅ (.ofList [("price", .scalar .decimal)])
    let args := [.table false ∅ fields, base, change]
    (checkArguments { coercion := false } .structural args).valid = true ∧
      (checkArguments { coercion := true } .structural args).valid = true := by
  intro fields base change args
  have hvalid : (checkArguments { coercion := false } .structural args).valid = true := by
    decide +kernel
  refine ⟨hvalid, ?_⟩
  obtain ⟨failed, origins, fields', rest, hargs, hkept, -⟩ :=
    coercion_keeps_valid_iff .standard args hvalid
  change DataType.table false ∅ fields :: [base, change] = _ at hargs
  cases hargs
  -- an argument with one field shares two positions with the row
  have hfield : ∀ (n : String) (t : Scalar) (x : DataType), fields.find? n = some x →
      x ≠ .error ∧ (x = .blank → DataType.scalar t = .blank) →
      (DataType.record ∅ fields).Everywhere (fun x y => x ≠ .error ∧ (x = .blank → y = .blank))
        (.record ∅ (.cons n (above_none n) (.scalar t) .nil)) := by
    intro n t x hx h
    rw [DataType.everywhere_row_iff]
    refine ⟨by simp, ?_⟩
    intro m x' u hx' hu
    rw [Fields.find?_cons] at hu
    split at hu
    · rename_i hnm
      subst hnm
      cases Option.some.inj hu
      cases Option.some.inj (hx.symm.trans hx')
      exact (DataType.everywhere_scalar_right_iff x t).2 h
    · exact absurd hu (by simp)
  refine (hkept rfl).2 ?_
  simp only [List.forall_mem_cons]
  exact ⟨hfield "note" .blank .blank (by decide +kernel) (by simp),
    hfield "price" .decimal (.scalar .number) (by decide +kernel) (by simp), by simp⟩

end RowPatch
