import RowPatch.Proofs.Binding.Independence
import RowPatch.Proofs.Binding.Soundness
import RowPatch.Proofs.Binding.Switching
import RowPatch.Proofs.Binding.Validity
import RowPatch.Proofs.Schema.Absorption
import RowPatch.Proofs.Schema.Dates

/-!
# Checking against the own return type

The return type of a valid call absorbs what each argument has added to it.  So a table with that
row type takes the same arguments, and they leave the row type as it is.

**Results.**
* `absorbs_returnTypeAfter`: along a valid call, what was added is absorbed.
* `inspectArgument_returnType`: an argument passes its inspection against the return type as it
  does against the row type.
* `valid_call_stable`: the verdict on a valid call is the verdict on the call with its return type.
-/

namespace RowPatch

/-- A return type that absorbs what is added stays as it is. -/
theorem returnTypeAfter_of_absorbs
    (d : Dialect)
    (host : TypeHost)
    (row t : DataType)
    (args : List DataType)
    (h : ∀ arg ∈ args, ∀ u, contribution? d host row arg = some u → DataType.Absorbs d t u) :
    returnTypeAfter d host row t args = t := by
  induction args with
  | nil => rfl
  | cons arg args ih =>
      rw [List.forall_mem_cons] at h
      have hnext : uniteNext d host row t arg = t := by
        unfold uniteNext
        cases hu : contribution? d host row arg with
        | none => rfl
        | some u => exact (h.1 u hu).unite_eq
      rw [returnTypeAfter_cons, hnext, ih h.2]

section

variable (d : Dialect) (host : TypeHost) (row start : DataType) (args : List DataType)
  (hfree : ∀ j arg, args[j]? = some arg → ∀ u, contribution? d host row arg = some u →
    (returnTypeAfter d host row start (args.take j)).conflicts d u = [])
include hfree

/-- What was added up to an argument is absorbed, if no union conflicted. -/
theorem absorbs_returnTypeAfter_take (j : Nat) :
    ∀ arg ∈ args.take j, ∀ u, contribution? d host row arg = some u →
      DataType.Absorbs d (returnTypeAfter d host row start (args.take j)) u := by
  induction j with
  | zero => simp
  | succ j ih =>
      cases hj : args[j]? with
      | none => simpa [List.take_add_one, hj] using ih
      | some arg =>
          intro other hother u hu
          rw [List.take_add_one, hj, List.mem_append] at hother
          rw [returnTypeAfter_take_add_one d host row start arg args j hj, uniteNext]
          rcases hother with hbefore | hlast
          · have habsorbs := ih other hbefore u hu
            cases hadds : contribution? d host row arg with
            | none => exact habsorbs
            | some w => exact DataType.Absorbs.unite d _ u w habsorbs (hfree j arg hj w hadds)
          · obtain rfl : other = arg := by simpa using hlast
            simp only [hu]
            exact DataType.absorbs_unite d _ u (hfree j other hj u hu)

/-- What was added is absorbed, if no union conflicted. -/
theorem absorbs_returnTypeAfter :
    ∀ arg ∈ args, ∀ u, contribution? d host row arg = some u →
      DataType.Absorbs d (returnTypeAfter d host row start args) u := by
  have hall := absorbs_returnTypeAfter_take d host row start args hfree args.length
  rwa [List.take_length] at hall

end

/-- An argument passes its inspection against the return type as it does against the row type. -/
theorem inspectArgument_returnType
    (d : Dialect)
    (host : TypeHost)
    (row : DataType)
    (args : List DataType)
    (arg : DataType)
    (habsorbs : ∀ u, contribution? d host row arg = some u →
      DataType.Absorbs d (returnTypeAfter d host row row args) u)
    (hvalid : (inspectArgument d host row 0 arg).valid = true)
    (index : Nat) :
    inspectArgument d host (returnTypeAfter d host row row args) index arg =
      inspectArgument d host row index arg := by
  have hbare : d.coercion = true → (returnTypeAfter d host row row args).bare = row.bare :=
    fun hcoercion => bare_returnTypeAfter d host row hcoercion args row rfl
  have hfound : (inspectArgument d host row index arg).found = [] := by
    rw [inspectArgument_index d host row index 0 arg, (inspectArgument_valid_iff ..).1 hvalid]
    rfl
  apply inspectArgument_eq_of_valid d d host row _ index arg rfl
  · intro hoff _
    have hadds := (contribution?_without_coercion d host row index arg hoff hfound).2.2
    exact (habsorbs arg hadds).missing_eq_nil d
  · intro hcoercion
    rw [Bool.eq_iff_iff]
    exact ⟨DataType.accepts_of_bare_eq d .exact arg _ _ (hbare hcoercion),
      DataType.accepts_of_bare_eq d .exact arg _ _ (hbare hcoercion).symm⟩
  · intro hcoercion c hc
    exact DataType.coerce?_congr rfl arg row _ c (hbare hcoercion).symm hc
  · exact (inspectArgument_valid_iff ..).2 hfound

theorem addOrigins_of_subset
    (origins more : SortedSet Origin)
    (fields : Fields none)
    (h : ∀ x, x ∈ more → x ∈ origins) :
    (DataType.record origins fields).addOrigins more = .record origins fields := by
  rw [DataType.addOrigins, (SortedSet.union_eq_self_iff origins more).2 h]

/-- A valid call on a table that has not failed gives what its arguments made of the row type, whose
origins it has already. -/
theorem checkTableCall_of_valid
    (d : Dialect)
    (origins : SortedSet Origin)
    (fields : Fields none)
    (args : List DataType)
    (harity : d.acceptsArity (args.length + 1) = true)
    (hvalid : (checkTableCall d false origins fields args).valid = true) :
    checkTableCall d false origins fields args =
      ⟨true, returnTypeAfter d .structural (.record origins fields) (.record origins fields) args,
        conversions d .structural (.record origins fields) 1 args, []⟩ := by
  have hpass := inspectArgument_valid_of_valid d .structural false origins fields args harity rfl
    hvalid
  obtain ⟨hrecord, -, horigins⟩ := returnTypeAfter_record d origins fields args
    (.record origins fields) rfl hpass
  obtain ⟨origins', fields', hreturn⟩ := DataType.exists_record_of_isRecord _ hrecord
  have hstart : initialRow false origins fields = .record origins fields := rfl
  rw [hreturn] at horigins
  rw [checkTableCall, checkArguments_of_valid d .structural false origins fields args harity rfl
    hvalid, hstart, hreturn]
  exact congrArg (Verdict.mk true · _ _) (addOrigins_of_subset origins' origins fields'
    fun x hx => (horigins x).2 (Or.inl hx))

/-- A call whose row type absorbs all that is added is valid and gives the row type. -/
theorem checkTableCall_of_absorbs
    (d : Dialect)
    (origins : SortedSet Origin)
    (fields : Fields none)
    (args : List DataType)
    (harity : d.acceptsArity (args.length + 1) = true)
    (hpass : ∀ arg ∈ args,
      (inspectArgument d .structural (.record origins fields) 0 arg).valid = true)
    (habsorbs : ∀ arg ∈ args, ∀ u,
      contribution? d .structural (.record origins fields) arg = some u →
        DataType.Absorbs d (.record origins fields) u) :
    checkTableCall d false origins fields args =
      ⟨true, .record origins fields, conversions d .structural (.record origins fields) 1 args,
        []⟩ := by
  have hsettled : ∀ before : List DataType, (∀ arg ∈ before, arg ∈ args) →
      returnTypeAfter d .structural (.record origins fields) (initialRow false origins fields)
        before = .record origins fields := fun before hbefore =>
    returnTypeAfter_of_absorbs d .structural _ (.record origins fields) before fun arg harg =>
      habsorbs arg (hbefore arg harg)
  have hvalid : (checkTableCall d false origins fields args).valid = true := by
    rw [valid_checkArguments_iff_forall d .structural false origins fields args harity rfl]
    intro j arg hj
    have harg := List.mem_of_getElem? hj
    refine ⟨hpass arg harg, fun u hu => ?_⟩
    rw [hsettled (args.take j) fun _ hmem => List.mem_of_mem_take hmem]
    exact (habsorbs arg harg u hu).conflicts_eq_nil
  have hend := hsettled args fun _ hmem => hmem
  rw [checkTableCall_of_valid d origins fields args harity hvalid]
  exact congrArg (Verdict.mk true · _ _) hend

/-- A valid call on a table that has not failed gives a record, and a table with that row type
takes the same arguments with the same verdict: the call is valid again, gives that very record,
and has the same conversions. -/
theorem valid_call_stable
    (d : Dialect)
    (origins : SortedSet Origin)
    (fields : Fields none)
    (args : List DataType)
    (hvalid : (checkTableCall d false origins fields args).valid = true) :
    ∃ origins' fields',
      (checkTableCall d false origins fields args).returnType = .record origins' fields' ∧
      checkTableCall d false origins' fields' args = checkTableCall d false origins fields args := by
  obtain ⟨_, _, _, _, hargs, harity, -⟩ := exists_table_of_valid d .structural _ hvalid
  cases hargs
  have hpass := inspectArgument_valid_of_valid d .structural false origins fields args harity rfl
    hvalid
  have hall := (valid_checkArguments_iff_forall d .structural false origins fields args harity
    rfl).1 hvalid
  have habsorbs := absorbs_returnTypeAfter d .structural (.record origins fields) _ args
    fun j arg hj => (hall j arg hj).2
  obtain ⟨origins', fields', hreturn⟩ := DataType.exists_record_of_isRecord _
    (returnTypeAfter_record d origins fields args (.record origins fields) rfl hpass).1
  have hinspect : ∀ arg ∈ args, ∀ index,
      inspectArgument d .structural (.record origins' fields') index arg =
        inspectArgument d .structural (.record origins fields) index arg := by
    intro arg harg index
    rw [← hreturn]
    exact inspectArgument_returnType d .structural _ args arg (habsorbs arg harg)
      (hpass arg harg) index
  rw [checkTableCall_of_valid d origins fields args harity hvalid, hreturn]
  refine ⟨origins', fields', rfl, ?_⟩
  rw [checkTableCall_of_absorbs d origins' fields' args harity,
    conversions_congr d .structural _ d _ args hinspect]
  · intro arg harg
    rw [hinspect arg harg 0]
    exact hpass arg harg
  · intro arg harg u hu
    rw [contribution?, hinspect arg harg 0] at hu
    rw [← hreturn]
    exact habsorbs arg harg u hu

/-- Without coercion a blank column takes the lines of two arguments, one of them a failed table
from a shop.  The table with those lines takes the same arguments and keeps its row type. -/
theorem lines_of_two_arguments_stable :
    let d : Dialect := { coercion := false }
    let lines (failed : Bool) (origins : SortedSet Origin) (l : List (String × DataType)) :=
      Fields.ofList [("lines", .table failed origins (.ofList l))]
    let shop : SortedSet Origin := .ofList [⟨"shop", ∅⟩]
    let counts := DataType.record ∅ (lines true shop [("count", .scalar .number)])
    let items := DataType.record shop (lines false ∅ [("item", .scalar .text)])
    let both := lines true shop [("count", .scalar .number), ("item", .scalar .text)]
    let v := checkTableCall d false ∅ (.ofList [("lines", .blank)]) [counts, items]
    v.valid = true ∧ v.returnType = .record shop both ∧
      checkTableCall d false shop both [counts, items] = v := by
  intro d lines shop counts items both v
  have hvalid : v.valid = true := by decide +kernel
  have hboth : v.returnType = .record shop both := by decide +kernel
  obtain ⟨origins, fields, hreturn, hstable⟩ := valid_call_stable d ∅ _ [counts, items] hvalid
  cases hboth.symm.trans hreturn
  exact ⟨hvalid, hboth, hstable⟩

end RowPatch
