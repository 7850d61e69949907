import Mathlib.Data.List.FinRange
import RowPatch.Proofs.Binding.Contributions

/-!
# Arguments are checked independently

Under coercion an argument is judged against the row type alone.  What is reported about it, and the
type it is converted to, do not depend on the other arguments or on their order.

**Results.**
* `arguments_checked_independently`: two calls on one table, and a call whose arguments are permuted.
-/

namespace RowPatch

/-- The check of a call on a table by the structural host. -/
abbrev checkTableCall (d : Dialect) (failed : Bool) (origins : SortedSet Origin)
    (fields : Fields none) (args : List DataType) : Verdict :=
  checkArguments d .structural (.table failed origins fields :: args)

section

variable (d : Dialect) (failed : Bool) (origins : SortedSet Origin) (fields : Fields none)

theorem foundAt_of_coercion
    (hcoercion : d.coercion = true)
    (args : List DataType)
    (harity : d.acceptsArity (args.length + 1) = true)
    (j : Nat)
    (arg : DataType)
    (h : args[j]? = some arg) :
    (checkTableCall d failed origins fields args).foundAt (j + 1) =
      (inspectArgument d .structural (.record origins fields) (j + 1) arg).found := by
  rw [foundAt_checkArguments d .structural failed origins fields args harity rfl j arg h,
    argumentFindings_of_coercion d .structural failed origins fields hcoercion]

theorem kind_ne_incompatibleRecord
    (hcoercion : d.coercion = true)
    (args : List DataType)
    (f : Diagnostic)
    (hf : f ∈ (checkArguments d .structural args).found) :
    f.kind ≠ .incompatibleRecord := by
  rcases checkArguments_rejected d .structural args with h | h | h
  · rw [h] at hf
    rw [List.mem_singleton.1 hf]
    simp [Diagnostic.wrongArity, Diagnostic.error]
  · rw [h] at hf
    rw [List.mem_singleton.1 hf]
    simp [Diagnostic.noTable, Diagnostic.error]
  · obtain ⟨failed, origins, fields, rest, rfl, harity, htable⟩ := h
    obtain ⟨j, arg, hj, -, hmem⟩ :=
      exists_argument_of_mem_found d .structural failed origins fields rest harity htable f hf
    rw [foundAt_of_coercion d failed origins fields hcoercion rest harity j arg hj] at hmem
    exact kind_of_mem_found d .structural _ (j + 1) arg f hmem

/-- Under coercion arguments are checked independently.  An argument that stands at the same place
in two calls on one table is judged alike in both; no conflict is ever reported; and permuting the
arguments permutes findings and conversions, keeps the verdict and, if the table has not failed, the
return type. -/
theorem arguments_checked_independently
    (hcoercion : d.coercion = true) :
    (∀ args args' : List DataType,
      d.acceptsArity (args.length + 1) = true → d.acceptsArity (args'.length + 1) = true →
      ∀ j arg, args[j]? = some arg → args'[j]? = some arg →
        (checkTableCall d failed origins fields args).foundAt (j + 1) =
          (checkTableCall d failed origins fields args').foundAt (j + 1) ∧
        (checkTableCall d failed origins fields args).coercionAt? (j + 1) =
          (checkTableCall d failed origins fields args').coercionAt? (j + 1)) ∧
    (∀ (args : List DataType) (f : Diagnostic), f ∈ (checkArguments d .structural args).found →
      f.kind ≠ .incompatibleRecord) ∧
    (∀ (n : Nat) (args : Fin n → DataType) (σ : Equiv.Perm (Fin n)),
      d.acceptsArity (n + 1) = true →
      let v := checkTableCall d failed origins fields (List.ofFn args)
      let w := checkTableCall d failed origins fields (List.ofFn (args ∘ σ))
      (∀ i : Fin n,
        w.foundAt (i + 1) = (v.foundAt (σ i + 1)).map (.about (i + 1)) ∧
        w.coercionAt? (i + 1) = v.coercionAt? (σ i + 1)) ∧
      (∀ i, i = 0 ∨ n < i →
        v.foundAt i = [] ∧ v.coercionAt? i = none ∧ w.foundAt i = [] ∧ w.coercionAt? i = none) ∧
      w.valid = v.valid ∧
      (failed = false → w.returnType = v.returnType)) := by
  refine ⟨?_, kind_ne_incompatibleRecord d hcoercion, ?_⟩
  · intro args args' harity harity' j arg h h'
    constructor
    · rw [foundAt_of_coercion d failed origins fields hcoercion args harity j arg h,
        foundAt_of_coercion d failed origins fields hcoercion args' harity' j arg h']
    · rw [coercionAt?_checkArguments d .structural failed origins fields args harity rfl j arg h,
        coercionAt?_checkArguments d .structural failed origins fields args' harity' rfl j arg h']
  · intro n args σ harity v w
    have hperm : (List.ofFn (args ∘ σ)).Perm (List.ofFn args) := σ.ofFn_comp_perm args
    have hv : d.acceptsArity ((List.ofFn args).length + 1) = true := by simpa using harity
    have hw : d.acceptsArity ((List.ofFn (args ∘ σ)).length + 1) = true := by simpa using harity
    refine ⟨?_, ?_, ?_, ?_⟩
    · intro i
      have hvi : (List.ofFn args)[(σ i : Nat)]? = some (args (σ i)) := by simp
      have hwi : (List.ofFn (args ∘ σ))[(i : Nat)]? = some (args (σ i)) := by simp
      constructor
      · rw [foundAt_of_coercion d failed origins fields hcoercion _ hv _ _ hvi,
          foundAt_of_coercion d failed origins fields hcoercion _ hw _ _ hwi,
          inspectArgument_index d .structural _ (i + 1) (σ i + 1)]
      · rw [coercionAt?_checkArguments d .structural failed origins fields _ hv rfl _ _ hvi,
          coercionAt?_checkArguments d .structural failed origins fields _ hw rfl _ _ hwi,
          inspectArgument_index d .structural _ (i + 1) (σ i + 1)]
    · intro i hi
      have hvi := checkArguments_outside d .structural failed origins fields _ hv rfl i
        (by simpa using hi)
      have hwi := checkArguments_outside d .structural failed origins fields _ hw rfl i
        (by simpa using hi)
      exact ⟨hvi.1, hvi.2, hwi.1, hwi.2⟩
    · rw [Bool.eq_iff_iff,
        valid_iff_of_coercion d .structural failed origins fields hcoercion _ hw rfl,
        valid_iff_of_coercion d .structural failed origins fields hcoercion _ hv rfl]
      constructor
      · intro h arg harg
        exact h arg (hperm.mem_iff.2 harg)
      · intro h arg harg
        exact h arg (hperm.mem_iff.1 harg)
    · rintro rfl
      have hsame := returnTypeAfter_perm d .structural (.record origins fields) hcoercion hperm
        (initialRow false origins fields) rfl
      rw [returnType_checkArguments d .structural false origins fields _ hw rfl,
        returnType_checkArguments d .structural false origins fields _ hv rfl, hsame]

end

/-- A text that is converted to a number and a time that is not keep their findings and conversions
when they change places. -/
theorem text_and_time_swapped :
    let fields := Fields.ofList [("price", .scalar .number)]
    let text := DataType.record ∅ (.ofList [("price", .scalar .text)])
    let time := DataType.record ∅ (.ofList [("price", .scalar .time)])
    let v := checkTableCall .standard false ∅ fields [text, time]
    let w := checkTableCall .standard false ∅ fields [time, text]
    v.coercionAt? 1 = some (.record ∅ fields) ∧
      v.foundAt 2 = [.notConvertible 2 time] ∧
      w.foundAt 1 = (v.foundAt 2).map (.about 1) ∧
      w.coercionAt? 2 = v.coercionAt? 1 ∧
      w.valid = v.valid ∧
      w.returnType = v.returnType := by
  intro fields text time v w
  obtain ⟨hplaces, -, hvalid, hreturn⟩ :=
    (arguments_checked_independently .standard false ∅ fields rfl).2.2 2 [text, time].get
      (Equiv.swap 0 1) rfl
  refine ⟨by decide +kernel, by decide +kernel, (hplaces 0).1, (hplaces 1).2, hvalid, hreturn rfl⟩

end RowPatch
