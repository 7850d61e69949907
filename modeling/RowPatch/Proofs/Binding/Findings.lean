import RowPatch.Proofs.Binding.Contributions

/-!
# What is reported about a call

A call that is checked argument by argument is valid when nothing is reported about it.  The findings
come in the order of the arguments, those about one argument are all of one kind, and an argument
that has to be converted has none.  Any other call is rejected with one finding.

**Results.**
* `argumentReport_argumentFindings`: what may be reported about one argument, and when.
* `argumentFindings_of_coercion?`: nothing is reported about an argument that has to be converted.
* `Verdict.InOrder.absorbAll`: findings come in the order of the arguments.
* `findings_agree_with_verdict`: verdict, findings and conversions of a call, whatever the host
  answers.
-/

namespace RowPatch

/-- What may be reported about one argument, and when. -/
inductive ArgumentReport (d : Dialect) (host : TypeHost) (row : DataType) (index : Nat)
    (arg : DataType) : List Diagnostic → Prop
  | nothing
      (hrecord : host.isRecord arg = true)
      (hmissing : row.missing arg = [])
      (hfits : d.coercion = true →
        row.accepts d .exact arg = true ∨ (row.coerce? d arg).isSome = true) :
      ArgumentReport d host row index arg []
  | noRecord
      (hrecord : host.isRecord arg = false) :
      ArgumentReport d host row index arg [.noRecord index arg]
  /-- One finding for each field that is no column. -/
  | unknownFields
      (hrecord : host.isRecord arg = true)
      (hmissing : arg.missingNames row ≠ []) :
      ArgumentReport d host row index arg ((arg.missingNames row).map (.noColumn index))
  | notConvertible
      (hrecord : host.isRecord arg = true)
      (hmissing : row.missing arg = [])
      (hcoercion : d.coercion = true)
      (hexact : row.accepts d .exact arg = false)
      (hc : row.coerce? d arg = none) :
      ArgumentReport d host row index arg [.notConvertible index arg]
  | conflicts
      {found : List Diagnostic}
      (hrecord : host.isRecord arg = true)
      (hmissing : row.missing arg = [])
      (hcoercion : d.coercion = false)
      (hsome : found ≠ [])
      (hkind : ∀ f ∈ found, f.kind = .incompatibleRecord) :
      ArgumentReport d host row index arg found

theorem kind_of_mem_unionFindings
    (d : Dialect)
    (index : Nat)
    (soFar u : DataType)
    (f : Diagnostic)
    (hf : f ∈ unionFindings d index soFar u) :
    f.kind = .incompatibleRecord := by
  rcases mem_unionFindings_cases d index soFar u f hf with rfl | ⟨n, rfl⟩ <;> rfl

/-- An argument that has to be converted passes its inspection, under coercion. -/
theorem inspectArgument_of_coercion?
    (d : Dialect)
    (host : TypeHost)
    (row : DataType)
    (index : Nat)
    (arg c : DataType)
    (hc : (inspectArgument d host row index arg).coercion? = some c) :
    d.coercion = true ∧ (inspectArgument d host row index arg).found = [] := by
  have hi := inspectArgument_inspected d host row index arg
  generalize inspectArgument d host row index arg = i at hi hc ⊢
  cases hi with
  | noRecord => exact absurd hc (by simp)
  | unknownFields => exact absurd hc (by simp)
  | taken => exact absurd hc (by simp)
  | converted _ _ _ _ hcoercion => exact ⟨hcoercion, rfl⟩
  | notConvertible => exact absurd hc (by simp)

section

variable (d : Dialect) (host : TypeHost) (failed : Bool) (origins : SortedSet Origin)
  (fields : Fields none) (args : List DataType) (index : Nat) (arg : DataType)

/-- What is reported about an argument after the arguments before it. -/
theorem argumentReport_argumentFindings :
    ArgumentReport d host (.record origins fields) index arg
      (argumentFindings d host (.record origins fields)
        (returnTypeAfter d host (.record origins fields) (initialRow failed origins fields) args)
        index arg) := by
  have hadds := inspectArgument_contribution? d host (.record origins fields) index arg
  have hi := inspectArgument_inspected d host (.record origins fields) index arg
  have hcoerced : d.coercion = true → conflictFindings d host (.record origins fields)
      (returnTypeAfter d host (.record origins fields) (initialRow failed origins fields) args)
      index arg = [] := fun hcoercion =>
    List.append_right_eq_self.1
      (argumentFindings_of_coercion d host failed origins fields hcoercion args index arg)
  unfold argumentFindings
  unfold conflictFindings at hcoerced ⊢
  rw [← hadds] at hcoerced ⊢
  generalize inspectArgument d host (.record origins fields) index arg = i at hi hcoerced ⊢
  cases hi with
  | noRecord hrecord => exact .noRecord hrecord
  | unknownFields hrecord hmissing =>
      rw [List.append_nil]
      exact .unknownFields hrecord (mt (DataType.missingNames_eq_nil_iff _ _).1 hmissing)
  | taken hrecord hmissing htaken =>
      rw [List.nil_append]
      by_cases hsome : unionFindings d index
          (returnTypeAfter d host (.record origins fields) (initialRow failed origins fields) args)
          arg = []
      · have hfits := fun hcoercion : d.coercion = true =>
          htaken.resolve_right (by simp [hcoercion])
        simpa only [hsome] using .nothing hrecord hmissing fun hcoercion => Or.inl (hfits hcoercion)
      · exact .conflicts hrecord hmissing (Bool.eq_false_iff.2 (mt hcoerced hsome)) hsome
          (kind_of_mem_unionFindings d index _ arg)
  | converted c hrecord hmissing _ hcoercion hc =>
      rw [hcoerced hcoercion]
      exact .nothing hrecord hmissing fun _ => Or.inr (by simp [hc])
  | notConvertible hrecord hmissing hexact hcoercion hc =>
      exact .notConvertible hrecord hmissing hcoercion hexact hc

/-- Nothing is reported about an argument that has to be converted. -/
theorem argumentFindings_of_coercion?
    (c : DataType)
    (hc : (inspectArgument d host (.record origins fields) index arg).coercion? = some c) :
    argumentFindings d host (.record origins fields)
      (returnTypeAfter d host (.record origins fields) (initialRow failed origins fields) args)
      index arg = [] := by
  obtain ⟨hcoercion, hfound⟩ := inspectArgument_of_coercion? d host _ index arg c hc
  rw [argumentFindings_of_coercion d host failed origins fields hcoercion, hfound]

end

namespace Verdict

/-- The findings come in the order of the arguments, all of which stand before `k`. -/
structure InOrder (v : Verdict) (k : Nat) : Prop where
  ordered : (v.found.map Diagnostic.argument).Pairwise (· ≤ ·)
  before : ∀ f ∈ v.found, f.argument < k

theorem InOrder.absorb
    {v : Verdict}
    {k : Nat}
    (h : v.InOrder k)
    (d : Dialect)
    (host : TypeHost)
    (row arg : DataType) :
    (v.absorb d host row (arg, k)).InOrder (k + 1) := by
  have hnew := argument_of_mem_argumentFindings d host row v.returnType k arg
  rw [absorb_eq]
  constructor
  · rw [List.map_append, List.pairwise_append]
    refine ⟨h.ordered, ?_, ?_⟩
    · rw [List.pairwise_map]
      refine List.pairwise_of_forall_mem_list ?_
      intro f hf g hg
      exact Nat.le_of_eq ((hnew f hf).trans (hnew g hg).symm)
    · simp only [List.forall_mem_map]
      intro f hf g hg
      rw [hnew g hg]
      exact Nat.le_of_lt (h.before f hf)
  · intro f hf
    rcases List.mem_append.1 hf with hf | hf
    · exact Nat.lt_succ_of_lt (h.before f hf)
    · rw [hnew f hf]
      exact k.lt_succ_self

theorem InOrder.absorbAll
    (d : Dialect)
    (host : TypeHost)
    (row : DataType)
    (args : List DataType) :
    ∀ {v : Verdict} {k : Nat}, v.InOrder k →
      (v.absorbAll d host row k args).InOrder (k + args.length) := by
  induction args with
  | nil => exact fun h => h
  | cons arg args ih =>
      intro v k h
      rw [absorbAll_cons, List.length_cons, Nat.add_comm args.length 1, ← Nat.add_assoc]
      exact ih (h.absorb d host row arg)

end Verdict

section TableCall

variable (d : Dialect) (host : TypeHost) (failed : Bool) (origins : SortedSet Origin)
  (fields : Fields none) (args : List DataType)
  (harity : d.acceptsArity (args.length + 1) = true)
  (htable : host.isTable (.table failed origins fields) = true)
include harity htable

theorem argumentReport_checkArguments
    (j : Nat)
    (arg : DataType)
    (hj : args[j]? = some arg) :
    ArgumentReport d host (.record origins fields) (j + 1) arg
      ((checkArguments d host (.table failed origins fields :: args)).foundAt (j + 1)) := by
  rw [foundAt_checkArguments d host failed origins fields args harity htable j arg hj]
  exact argumentReport_argumentFindings d host failed origins fields _ _ arg

theorem checkArguments_inOrder :
    (checkArguments d host (.table failed origins fields :: args)).InOrder (args.length + 1) := by
  have horder := Verdict.InOrder.absorbAll d host (.record origins fields) args
    (v := ⟨true, initialRow failed origins fields, [], []⟩) (k := 1) ⟨.nil, by simp⟩
  rw [checkArguments_table d host failed origins fields args harity htable, Nat.add_comm]
  exact ⟨horder.ordered, horder.before⟩

theorem foundAt_of_mem_coercions
    (c : Nat × DataType)
    (hc : c ∈ (checkArguments d host (.table failed origins fields :: args)).coercions) :
    (checkArguments d host (.table failed origins fields :: args)).foundAt c.1 = [] := by
  cases hat : (checkArguments d host (.table failed origins fields :: args)).coercionAt? c.1 with
  | none =>
      rw [Verdict.coercionAt?, Option.map_eq_none_iff, List.find?_eq_none] at hat
      exact absurd (hat c hc) (by simp)
  | some t =>
      by_cases hout : c.1 = 0 ∨ args.length < c.1
      · exact (checkArguments_outside d host failed origins fields args harity htable _ hout).1
      · obtain ⟨j, hindex⟩ : ∃ j, c.1 = j + 1 := ⟨c.1 - 1, by omega⟩
        obtain ⟨arg, hj⟩ : ∃ arg, args[j]? = some arg :=
          ⟨_, List.getElem?_eq_getElem (by omega)⟩
        rw [hindex] at hat ⊢
        rw [coercionAt?_checkArguments d host failed origins fields args harity htable j arg hj] at hat
        rw [foundAt_checkArguments d host failed origins fields args harity htable j arg hj]
        exact argumentFindings_of_coercion? d host failed origins fields _ _ arg t hat

theorem argument_of_mem_found_checkArguments
    (f : Diagnostic)
    (hf : f ∈ (checkArguments d host (.table failed origins fields :: args)).found) :
    1 ≤ f.argument ∧ f.argument ≤ args.length := by
  obtain ⟨j, arg, hj, hindex, -⟩ :=
    exists_argument_of_mem_found d host failed origins fields args harity htable f hf
  have hlt := (List.getElem?_eq_some_iff.1 hj).1
  omega

end TableCall

/-- A call on something that is no table for the host is rejected, whatever else is passed. -/
theorem checkArguments_noTable
    (d : Dialect)
    (host : TypeHost)
    (args : List DataType)
    (harity : d.acceptsArity args.length = true)
    (htable : ∀ t, args.head? = some t → t.isTable = true → host.isTable t = false) :
    checkArguments d host args = .rejected .noTable := by
  unfold checkArguments
  rw [if_pos harity]
  split
  · rename_i failed origins fields rest
    rw [if_neg (by simp [htable _ rfl rfl])]
  · rfl

/-- What is reported about a call, for every host.  The call is valid exactly when nothing is
reported, the findings come in the order of the arguments, and an argument that has to be converted
has none.  With a table and a number of arguments that the dialect allows, all findings are about the
arguments after the table, and those about one argument are of one kind.  Otherwise there is one
finding, whatever the other arguments are. -/
theorem findings_agree_with_verdict
    (d : Dialect)
    (host : TypeHost)
    (args : List DataType) :
    let v := checkArguments d host args
    (v.valid = true ↔ v.found = []) ∧
      (v.found.map Diagnostic.argument).Pairwise (· ≤ ·) ∧
      (∀ c ∈ v.coercions, v.foundAt c.1 = []) ∧
      (d.acceptsArity args.length = false → v.found = [.wrongArity d args.length]) ∧
      (d.acceptsArity args.length = true →
        (∀ t, args.head? = some t → t.isTable = true → host.isTable t = false) →
          v.found = [.noTable]) ∧
      (d.acceptsArity args.length = true →
        ∀ failed origins fields rest, args = .table failed origins fields :: rest →
          host.isTable (.table failed origins fields) = true →
            (∀ f ∈ v.found, 1 ≤ f.argument ∧ f.argument ≤ rest.length) ∧
              ∀ j arg, rest[j]? = some arg →
                ArgumentReport d host (.record origins fields) (j + 1) arg (v.foundAt (j + 1))) := by
  intro v
  refine ⟨checkArguments_valid_iff d host args, ?ordered, ?converted, ?arity, ?table, ?reports⟩
  case ordered =>
    rcases checkArguments_rejected d host args with h | h | ⟨_, _, _, _, rfl, harity, htable⟩
    · simp [v, h, Verdict.rejected]
    · simp [v, h, Verdict.rejected]
    · exact (checkArguments_inOrder d host _ _ _ _ harity htable).ordered
  case converted =>
    rcases checkArguments_rejected d host args with h | h | ⟨_, _, _, _, rfl, harity, htable⟩
    · simp [v, h, Verdict.rejected]
    · simp [v, h, Verdict.rejected]
    · exact foundAt_of_mem_coercions d host _ _ _ _ harity htable
  case arity =>
    intro harity
    simp [v, checkArguments, harity, Verdict.rejected]
  case table =>
    intro harity htable
    simp [v, checkArguments_noTable d host args harity htable, Verdict.rejected]
  case reports =>
    rintro harity failed origins fields rest rfl htable
    exact ⟨argument_of_mem_found_checkArguments d host failed origins fields rest harity htable,
      argumentReport_checkArguments d host failed origins fields rest harity htable⟩

/-- For a host that takes every type for a record, a text and a record with an unknown field are both
reported, in their order. -/
theorem text_and_unknown_field_reported :
    let host := TypeHost.fixed none (some true) none
    let row := Fields.ofList [("price", .scalar .number)]
    let stray := DataType.record ∅ (.ofList [("prize", .scalar .number)])
    let args := [.table false ∅ row, stray, .scalar .text]
    let v := checkArguments { coercion := true } host args
    v.valid = false ∧ v.found = [.noColumn 1 "prize", .notConvertible 2 (.scalar .text)] ∧
      (v.found.map Diagnostic.argument).Pairwise (· ≤ ·) := by
  intro host row stray args v
  obtain ⟨hvalid, hordered, -⟩ := findings_agree_with_verdict { coercion := true } host args
  have hfound : v.found = [.noColumn 1 "prize", .notConvertible 2 (.scalar .text)] := by
    decide +kernel
  refine ⟨?_, hfound, hordered⟩
  rw [Bool.eq_false_iff, Ne, hvalid]
  exact hfound ▸ List.cons_ne_nil _ _

end RowPatch
