import RowPatch.Proofs.Binding.Inspection

/-!
# Verdicts, argument by argument

The check of a call is a run over its arguments.  One step adds the findings about one argument, all
of which carry its position, and unites what the argument adds with the return type so far.

**Results.**
* `returnTypeAfter_invariant`: what one more argument keeps of the return type, a run keeps.
* `Verdict.absorbAll_split`, `Verdict.absorbAll_of_outside`: the step of a run at one argument, and
  what the other steps leave alone.
* `Verdict.returnType_absorbAll`, `Verdict.foundAt_absorbAll`, `Verdict.coercionAt?_absorbAll`,
  `Verdict.valid_absorbAll_iff`: a run, read off argument by argument.
* `checkArguments_table`: the check of a call on a table is such a run.
* `checkArguments_rejected`: every other call is rejected with one finding.
-/

namespace RowPatch

section Findings

variable (d : Dialect) (host : TypeHost) (row : DataType)

/-- The return type after one more argument. -/
def uniteNext (soFar arg : DataType) : DataType :=
  match contribution? d host row arg with
  | none => soFar
  | some u => soFar.unite d u

/-- The return type after a list of arguments. -/
def returnTypeAfter (start : DataType) (args : List DataType) : DataType :=
  args.foldl (uniteNext d host row) start

/-- What uniting an argument with the return type so far reports. -/
def conflictFindings (soFar : DataType) (index : Nat) (arg : DataType) : List Diagnostic :=
  match contribution? d host row arg with
  | none => []
  | some u => unionFindings d index soFar u

/-- All that is reported about an argument. -/
def argumentFindings (soFar : DataType) (index : Nat) (arg : DataType) : List Diagnostic :=
  (inspectArgument d host row index arg).found ++ conflictFindings d host row soFar index arg

theorem returnTypeAfter_cons
    (start arg : DataType)
    (args : List DataType) :
    returnTypeAfter d host row start (arg :: args) =
      returnTypeAfter d host row (uniteNext d host row start arg) args := rfl

theorem returnTypeAfter_take_add_one
    (start arg : DataType)
    (args : List DataType)
    (j : Nat)
    (hj : args[j]? = some arg) :
    returnTypeAfter d host row start (args.take (j + 1)) =
      uniteNext d host row (returnTypeAfter d host row start (args.take j)) arg := by
  simp [returnTypeAfter, List.take_add_one, hj]

/-- What every further argument keeps of the return type, a run keeps. -/
theorem returnTypeAfter_invariant
    (P : DataType → Prop)
    (hstep : ∀ soFar arg, P soFar → P (uniteNext d host row soFar arg))
    (args : List DataType) :
    ∀ start : DataType, P start → P (returnTypeAfter d host row start args) := by
  induction args with
  | nil =>
      intro start h
      exact h
  | cons arg args ih =>
      intro start h
      rw [returnTypeAfter_cons]
      exact ih _ (hstep start arg h)

theorem unionFindings_of_conflict
    (index : Nat)
    (soFar u : DataType)
    (h : soFar.conflicts d u ≠ []) :
    unionFindings d index soFar u =
      Diagnostic.ofConflict index u ⟨soFar.unite d u, soFar.conflicts d u⟩ := by
  unfold unionFindings DataType.union
  rw [if_neg h]

/-- A union reports something exactly when there is a conflict. -/
theorem unionFindings_eq_nil_iff
    (index : Nat)
    (soFar u : DataType) :
    unionFindings d index soFar u = [] ↔ soFar.conflicts d u = [] := by
  constructor
  · intro hfound
    by_cases h : soFar.conflicts d u = []
    · exact h
    · rw [unionFindings_of_conflict d index soFar u h] at hfound
      unfold Diagnostic.ofConflict at hfound
      split at hfound
      · exact absurd hfound (by simp)
      · rename_i hfields
        exact absurd (List.map_eq_nil_iff.1 hfound) hfields
  · intro h
    unfold unionFindings DataType.union
    rw [if_pos h]

/-- A union reports a conflict with the row type as a whole or with some of its columns. -/
theorem mem_unionFindings_cases
    (index : Nat)
    (soFar u : DataType)
    (f : Diagnostic)
    (hf : f ∈ unionFindings d index soFar u) :
    f = .rowConflict index u ∨ ∃ n, f = .columnConflict index n := by
  unfold unionFindings at hf
  split at hf
  · exact absurd hf (by simp)
  · unfold Diagnostic.ofConflict at hf
    split at hf
    · exact Or.inl (List.mem_singleton.1 hf)
    · obtain ⟨n, _, rfl⟩ := List.mem_map.1 hf
      exact Or.inr ⟨n, rfl⟩

theorem argument_of_mem_unionFindings
    (index : Nat)
    (soFar u : DataType)
    (f : Diagnostic)
    (hf : f ∈ unionFindings d index soFar u) :
    f.argument = index := by
  rcases mem_unionFindings_cases d index soFar u f hf with rfl | ⟨n, rfl⟩ <;> rfl

theorem argument_of_mem_argumentFindings
    (soFar : DataType)
    (index : Nat)
    (arg : DataType)
    (f : Diagnostic)
    (hf : f ∈ argumentFindings d host row soFar index arg) :
    f.argument = index := by
  rcases List.mem_append.1 hf with hf | hf
  · exact argument_of_mem_found d host row index arg f hf
  · unfold conflictFindings at hf
    split at hf
    · exact absurd hf (by simp)
    · exact argument_of_mem_unionFindings d index soFar _ f hf

end Findings

namespace Verdict

variable (d : Dialect) (host : TypeHost) (row : DataType)

/-- The verdict after further arguments, the first of which stands at `k`. -/
def absorbAll (v : Verdict) (k : Nat) (args : List DataType) : Verdict :=
  (args.zipIdx k).foldl (absorb d host row) v

theorem absorb_eq
    (v : Verdict)
    (arg : DataType)
    (k : Nat) :
    v.absorb d host row (arg, k) =
      { valid := v.valid && (inspectArgument d host row k arg).found.isEmpty &&
          (conflictFindings d host row v.returnType k arg).isEmpty
        returnType := uniteNext d host row v.returnType arg
        coercions := v.coercions ++
          ((inspectArgument d host row k arg).coercion?.map (fun c => (k, c))).toList
        found := v.found ++ argumentFindings d host row v.returnType k arg } := by
  have hvalid : (inspectArgument d host row k arg).valid =
      (inspectArgument d host row k arg).found.isEmpty := by
    rw [Bool.eq_iff_iff, inspectArgument_valid_iff, List.isEmpty_iff]
  unfold absorb argumentFindings conflictFindings uniteNext
  cases hu : contribution? d host row arg with
  | none => simp [inspectArgument_contribution?, hvalid, hu]
  | some u => simp [inspectArgument_contribution?, hvalid, hu]

theorem absorbAll_cons
    (v : Verdict)
    (k : Nat)
    (arg : DataType)
    (args : List DataType) :
    v.absorbAll d host row k (arg :: args) =
      (v.absorb d host row (arg, k)).absorbAll d host row (k + 1) args := rfl

theorem returnType_absorbAll
    (args : List DataType) :
    ∀ (v : Verdict) (k : Nat),
      (v.absorbAll d host row k args).returnType = returnTypeAfter d host row v.returnType args := by
  induction args with
  | nil =>
      intro v k
      rfl
  | cons arg args ih =>
      intro v k
      rw [absorbAll_cons, ih, returnTypeAfter_cons, absorb_eq]

theorem foundAt_absorb
    (v : Verdict)
    (arg : DataType)
    (k i : Nat) :
    (v.absorb d host row (arg, k)).foundAt i =
      v.foundAt i ++ if i = k then argumentFindings d host row v.returnType k arg else [] := by
  have harg := argument_of_mem_argumentFindings d host row v.returnType k arg
  rw [absorb_eq, foundAt, foundAt, List.filter_append]
  congr 1
  split
  · rename_i h
    rw [List.filter_eq_self]
    intro f hf
    simp [harg f hf, h]
  · rename_i h
    rw [List.filter_eq_nil_iff]
    intro f hf
    simp [harg f hf, Ne.symm h]

/-- The conversion of an argument is what its inspection gives. -/
theorem coercionAt?_absorb
    (v : Verdict)
    (arg : DataType)
    (k i : Nat) :
    (v.absorb d host row (arg, k)).coercionAt? i =
      (v.coercionAt? i).or
        (if i = k then (inspectArgument d host row k arg).coercion? else none) := by
  rw [absorb_eq, coercionAt?, coercionAt?, List.find?_append, Option.map_or]
  congr 1
  cases (inspectArgument d host row k arg).coercion? with
  | none => simp
  | some c =>
      by_cases h : i = k
      · simp [h]
      · simp [h, Ne.symm h]

/-- What steps at other positions leave alone, a run that stays away from a position leaves alone. -/
theorem absorbAll_of_outside
    {α : Type}
    (observe : Verdict → α)
    (i : Nat)
    (hstep : ∀ (v : Verdict) (arg : DataType) (k : Nat), i ≠ k →
      observe (v.absorb d host row (arg, k)) = observe v)
    (args : List DataType) :
    ∀ (v : Verdict) (k : Nat), i < k ∨ k + args.length ≤ i →
      observe (v.absorbAll d host row k args) = observe v := by
  induction args with
  | nil =>
      intro v k _
      rfl
  | cons arg args ih =>
      intro v k h
      rw [List.length_cons] at h
      rw [absorbAll_cons, ih _ (k + 1) (by omega), hstep v arg k (by omega)]

/-- A run over the arguments before one, then that one, then the others. -/
theorem absorbAll_split
    (args : List DataType)
    (v : Verdict)
    (k j : Nat)
    (arg : DataType)
    (h : args[j]? = some arg) :
    v.absorbAll d host row k args =
      ((v.absorbAll d host row k (args.take j)).absorb d host row (arg, k + j)).absorbAll d host row
        (k + j + 1) (args.drop (j + 1)) := by
  obtain ⟨hj, rfl⟩ := List.getElem?_eq_some_iff.1 h
  have hlength : (args.take j).length = j := by
    rw [List.length_take]
    omega
  have hargs : args.zipIdx k =
      (args.take j).zipIdx k ++ (args[j], k + j) :: (args.drop (j + 1)).zipIdx (k + j + 1) := by
    rw [← List.zipIdx_cons, ← List.drop_eq_getElem_cons hj]
    conv =>
      lhs
      rw [← List.take_append_drop j args, List.zipIdx_append, hlength]
  rw [absorbAll, hargs, List.foldl_append]
  rfl

theorem foundAt_absorbAll_of_outside
    (args : List DataType)
    (v : Verdict)
    (k i : Nat)
    (h : i < k ∨ k + args.length ≤ i) :
    (v.absorbAll d host row k args).foundAt i = v.foundAt i := by
  refine absorbAll_of_outside d host row (fun v => v.foundAt i) i ?_ args v k h
  intro v arg k hik
  rw [foundAt_absorb, if_neg hik, List.append_nil]

theorem coercionAt?_absorbAll_of_outside
    (args : List DataType)
    (v : Verdict)
    (k i : Nat)
    (h : i < k ∨ k + args.length ≤ i) :
    (v.absorbAll d host row k args).coercionAt? i = v.coercionAt? i := by
  refine absorbAll_of_outside d host row (fun v => v.coercionAt? i) i ?_ args v k h
  intro v arg k hik
  rw [coercionAt?_absorb, if_neg hik, Option.or_none]

/-- The findings about one argument depend on it and on what those before it add. -/
theorem foundAt_absorbAll
    (args : List DataType)
    (v : Verdict)
    (k j : Nat)
    (arg : DataType)
    (h : args[j]? = some arg) :
    (v.absorbAll d host row k args).foundAt (k + j) =
      v.foundAt (k + j) ++
        argumentFindings d host row
          (returnTypeAfter d host row v.returnType (args.take j)) (k + j) arg := by
  have hbefore := List.length_take_le j args
  rw [absorbAll_split d host row args v k j arg h,
    foundAt_absorbAll_of_outside d host row _ _ (k + j + 1) (k + j) (by omega), foundAt_absorb,
    if_pos rfl, foundAt_absorbAll_of_outside d host row _ v k (k + j) (by omega),
    returnType_absorbAll]

/-- The conversion of an argument depends on nothing but the argument. -/
theorem coercionAt?_absorbAll
    (args : List DataType)
    (v : Verdict)
    (k j : Nat)
    (arg : DataType)
    (h : args[j]? = some arg) :
    (v.absorbAll d host row k args).coercionAt? (k + j) =
      (v.coercionAt? (k + j)).or (inspectArgument d host row (k + j) arg).coercion? := by
  have hbefore := List.length_take_le j args
  rw [absorbAll_split d host row args v k j arg h,
    coercionAt?_absorbAll_of_outside d host row _ _ (k + j + 1) (k + j) (by omega),
    coercionAt?_absorb, if_pos rfl,
    coercionAt?_absorbAll_of_outside d host row _ v k (k + j) (by omega)]

/-- A verdict stays valid as long as nothing is reported. -/
theorem valid_absorbAll_iff
    (args : List DataType) :
    ∀ (v : Verdict) (k : Nat), (v.valid = true ↔ v.found = []) →
      ((v.absorbAll d host row k args).valid = true ↔
        (v.absorbAll d host row k args).found = []) := by
  induction args with
  | nil =>
      intro v k h
      exact h
  | cons arg args ih =>
      intro v k h
      rw [absorbAll_cons]
      apply ih
      rw [absorb_eq]
      simp [argumentFindings, h, and_assoc]

end Verdict

/-- The check of a call on a table runs over the arguments after the table. -/
theorem checkArguments_table
    (d : Dialect)
    (host : TypeHost)
    (failed : Bool)
    (origins : SortedSet Origin)
    (fields : Fields none)
    (args : List DataType)
    (harity : d.acceptsArity (args.length + 1) = true)
    (htable : host.isTable (.table failed origins fields) = true) :
    checkArguments d host (.table failed origins fields :: args) =
      (Verdict.absorbAll d host (.record origins fields)
        ⟨true, initialRow failed origins fields, [], []⟩ 1 args).addOrigins
          (host.origins (.table failed origins fields)) := by
  unfold checkArguments
  rw [List.length_cons, if_pos harity]
  simp only [htable, if_true]
  rfl

/-- A call that is not checked argument by argument is rejected with one finding. -/
theorem checkArguments_rejected
    (d : Dialect)
    (host : TypeHost)
    (args : List DataType) :
    checkArguments d host args = .rejected (.wrongArity d args.length) ∨
      checkArguments d host args = .rejected .noTable ∨
      ∃ failed origins fields rest,
        args = .table failed origins fields :: rest ∧
        d.acceptsArity (rest.length + 1) = true ∧
        host.isTable (.table failed origins fields) = true := by
  unfold checkArguments
  split
  · rename_i harity
    split
    · rename_i failed origins fields rest
      split
      · rename_i htable
        exact Or.inr (Or.inr ⟨failed, origins, fields, rest, rfl, harity, htable⟩)
      · exact Or.inr (Or.inl rfl)
    · exact Or.inr (Or.inl rfl)
  · exact Or.inl rfl

/-- A valid call is a call on a table. -/
theorem exists_table_of_valid
    (d : Dialect)
    (host : TypeHost)
    (args : List DataType)
    (hvalid : (checkArguments d host args).valid = true) :
    ∃ failed origins fields rest,
      args = .table failed origins fields :: rest ∧
      d.acceptsArity (rest.length + 1) = true ∧
      host.isTable (.table failed origins fields) = true := by
  rcases checkArguments_rejected d host args with h | h | h
  · rw [h] at hvalid
    exact absurd hvalid (by simp [Verdict.rejected])
  · rw [h] at hvalid
    exact absurd hvalid (by simp [Verdict.rejected])
  · exact h

/-- A call is valid exactly when nothing is reported. -/
theorem checkArguments_valid_iff
    (d : Dialect)
    (host : TypeHost)
    (args : List DataType) :
    (checkArguments d host args).valid = true ↔ (checkArguments d host args).found = [] := by
  rcases checkArguments_rejected d host args with h | h | ⟨failed, origins, fields, rest, rfl, h⟩
  · rw [h]
    simp [Verdict.rejected]
  · rw [h]
    simp [Verdict.rejected]
  · rw [checkArguments_table d host failed origins fields rest h.1 h.2]
    exact Verdict.valid_absorbAll_iff d host (.record origins fields) rest _ 1 (by simp)

section TableCall

variable (d : Dialect) (host : TypeHost) (failed : Bool) (origins : SortedSet Origin)
  (fields : Fields none) (args : List DataType)
  (harity : d.acceptsArity (args.length + 1) = true)
  (htable : host.isTable (.table failed origins fields) = true)
include harity htable

theorem returnType_checkArguments :
    (checkArguments d host (.table failed origins fields :: args)).returnType =
      (returnTypeAfter d host (.record origins fields) (initialRow failed origins fields)
        args).addOrigins (host.origins (.table failed origins fields)) := by
  rw [checkArguments_table d host failed origins fields args harity htable]
  show (Verdict.returnType _).addOrigins _ = _
  rw [Verdict.returnType_absorbAll]

theorem foundAt_checkArguments
    (j : Nat)
    (arg : DataType)
    (h : args[j]? = some arg) :
    (checkArguments d host (.table failed origins fields :: args)).foundAt (j + 1) =
      argumentFindings d host (.record origins fields)
        (returnTypeAfter d host (.record origins fields) (initialRow failed origins fields)
          (args.take j)) (j + 1) arg := by
  have hfound := Verdict.foundAt_absorbAll d host (.record origins fields) args
    ⟨true, initialRow failed origins fields, [], []⟩ 1 j arg h
  rw [checkArguments_table d host failed origins fields args harity htable, Nat.add_comm j 1]
  exact hfound

theorem coercionAt?_checkArguments
    (j : Nat)
    (arg : DataType)
    (h : args[j]? = some arg) :
    (checkArguments d host (.table failed origins fields :: args)).coercionAt? (j + 1) =
      (inspectArgument d host (.record origins fields) (j + 1) arg).coercion? := by
  have hcoercion := Verdict.coercionAt?_absorbAll d host (.record origins fields) args
    ⟨true, initialRow failed origins fields, [], []⟩ 1 j arg h
  rw [checkArguments_table d host failed origins fields args harity htable, Nat.add_comm j 1]
  exact hcoercion

/-- Findings and conversions are about the arguments after the table. -/
theorem checkArguments_outside
    (i : Nat)
    (h : i = 0 ∨ args.length < i) :
    (checkArguments d host (.table failed origins fields :: args)).foundAt i = [] ∧
      (checkArguments d host (.table failed origins fields :: args)).coercionAt? i = none := by
  have hi : i < 1 ∨ 1 + args.length ≤ i := by omega
  rw [checkArguments_table d host failed origins fields args harity htable]
  constructor
  · exact Verdict.foundAt_absorbAll_of_outside d host (.record origins fields) args _ 1 i hi
  · exact Verdict.coercionAt?_absorbAll_of_outside d host (.record origins fields) args _ 1 i hi

theorem exists_argument_of_mem_found
    (f : Diagnostic)
    (hf : f ∈ (checkArguments d host (.table failed origins fields :: args)).found) :
    ∃ j arg, args[j]? = some arg ∧ f.argument = j + 1 ∧
      f ∈ (checkArguments d host (.table failed origins fields :: args)).foundAt (j + 1) := by
  have hmem : f ∈ (checkArguments d host (.table failed origins fields :: args)).foundAt
      f.argument := List.mem_filter.2 ⟨hf, by simp⟩
  by_cases h : f.argument = 0 ∨ args.length < f.argument
  · rw [(checkArguments_outside d host failed origins fields args harity htable _ h).1] at hmem
    exact absurd hmem (by simp)
  · have hlt : f.argument - 1 < args.length := by omega
    have hindex : f.argument = f.argument - 1 + 1 := by omega
    exact ⟨f.argument - 1, args[f.argument - 1], by simp [hlt], hindex, hindex ▸ hmem⟩

theorem valid_checkArguments_iff :
    (checkArguments d host (.table failed origins fields :: args)).valid = true ↔
      ∀ j arg, args[j]? = some arg →
        (checkArguments d host (.table failed origins fields :: args)).foundAt (j + 1) = [] := by
  rw [checkArguments_valid_iff]
  constructor
  · intro h j arg _
    rw [Verdict.foundAt, h]
    rfl
  · intro h
    apply List.eq_nil_iff_forall_not_mem.2
    intro f hf
    obtain ⟨j, arg, hj, -, hmem⟩ :=
      exists_argument_of_mem_found d host failed origins fields args harity htable f hf
    rw [h j arg hj] at hmem
    exact absurd hmem (by simp)

end TableCall

end RowPatch
