import RowPatch.Proofs.Binding.Contributions
import RowPatch.Proofs.Schema.Names

/-!
# What a valid call promises

Under coercion a valid call has arguments that fit the row type once they are converted, and a return
type that is determined by the row type, or by the arguments if the table has failed.

**Results.**
* `contribution?_of_valid`: what an argument that passes its inspection adds.
* `returnTypeAfter_record`: names and origins of the return type, along a run.
* `valid_call_sound`: the promise.
-/

namespace RowPatch

section

variable (d : Dialect) (origins : SortedSet Origin) (fields : Fields none)

/-- An argument that passes its inspection adds the record that it is converted to. -/
theorem contribution?_of_valid
    (arg : DataType)
    (hvalid : (inspectArgument d .structural (.record origins fields) 0 arg).valid = true) :
    ∃ u, contribution? d .structural (.record origins fields) arg = some u ∧
      (inspectArgument d .structural (.record origins fields) 0 arg).coercion?.getD arg = u ∧
      u.isRecord = true ∧ (∀ n, n ∈ u.fieldNames ↔ n ∈ arg.fieldNames) ∧
      u.origins = arg.origins := by
  unfold contribution?
  have hi := inspectArgument_passed d .structural (.record origins fields) 0 arg hvalid
  generalize inspectArgument d .structural (.record origins fields) 0 arg = i at hi ⊢
  cases hi with
  | taken hrecord => exact ⟨arg, rfl, rfl, hrecord, fun _ => Iff.rfl, rfl⟩
  | converted c hrecord _ _ _ hc =>
      obtain ⟨o, us, rfl⟩ := DataType.exists_record_of_isRecord arg hrecord
      obtain ⟨cs, -, hcs, rfl⟩ :=
        DataType.coerce?_row_eq_some d .record .record origins o fields us c hc
      refine ⟨_, rfl, ?_, rfl, ?_, rfl⟩
      · by_cases h : DataType.row Shape.record.plain o cs = .record o us
        · simp [h]
        · simp [h]
      · intro n
        change n ∈ cs.names ↔ n ∈ us.names
        rw [Fields.names_of_coerceAll? d fields us cs hcs]

theorem uniteNext_record
    (soFar arg : DataType)
    (hsoFar : soFar.isRecord = true)
    (hvalid : (inspectArgument d .structural (.record origins fields) 0 arg).valid = true) :
    (uniteNext d .structural (.record origins fields) soFar arg).isRecord = true ∧
      (∀ n, n ∈ (uniteNext d .structural (.record origins fields) soFar arg).fieldNames ↔
        n ∈ soFar.fieldNames ∨ n ∈ arg.fieldNames) ∧
      (∀ x, x ∈ (uniteNext d .structural (.record origins fields) soFar arg).origins ↔
        x ∈ soFar.origins ∨ x ∈ arg.origins) := by
  obtain ⟨u, hu, -, hrecord, hnames, horigins⟩ :=
    contribution?_of_valid d origins fields arg hvalid
  have hunite := DataType.unite_record_record d soFar u hsoFar hrecord
  simp only [uniteNext, hu]
  refine ⟨hunite.1, ?_, ?_⟩
  · intro n
    rw [hunite.2.1 n, hnames n]
  · intro x
    rw [hunite.2.2 x, horigins]

/-- Names and origins of the return type are those of the start and of all arguments. -/
theorem returnTypeAfter_record
    (args : List DataType) :
    ∀ start : DataType, start.isRecord = true →
      (∀ arg ∈ args,
        (inspectArgument d .structural (.record origins fields) 0 arg).valid = true) →
      (returnTypeAfter d .structural (.record origins fields) start args).isRecord = true ∧
        (∀ n, n ∈ (returnTypeAfter d .structural (.record origins fields) start args).fieldNames ↔
          n ∈ start.fieldNames ∨ ∃ arg ∈ args, n ∈ arg.fieldNames) ∧
        (∀ x, x ∈ (returnTypeAfter d .structural (.record origins fields) start args).origins ↔
          x ∈ start.origins ∨ ∃ arg ∈ args, x ∈ arg.origins) := by
  induction args with
  | nil =>
      intro start hstart _
      exact ⟨hstart, by simp [returnTypeAfter], by simp [returnTypeAfter]⟩
  | cons arg args ih =>
      intro start hstart hvalid
      have hnext := uniteNext_record d origins fields start arg hstart
        (hvalid arg List.mem_cons_self)
      have hrest := ih _ hnext.1 (fun a ha => hvalid a (List.mem_cons_of_mem arg ha))
      rw [returnTypeAfter_cons]
      refine ⟨hrest.1, ?_, ?_⟩
      · intro n
        rw [hrest.2.1 n, hnext.2.1 n]
        simp only [List.mem_cons, or_and_right, exists_or, exists_eq_left, or_assoc]
      · intro x
        rw [hrest.2.2 x, hnext.2.2 x]
        simp only [List.mem_cons, or_and_right, exists_or, exists_eq_left, or_assoc]

theorem isRecord_initialRow (failed : Bool) :
    (initialRow failed origins fields).isRecord = true := by
  cases failed <;> rfl

theorem mem_of_mem_origins_initialRow
    (failed : Bool)
    (x : Origin)
    (h : x ∈ (initialRow failed origins fields).origins) :
    x ∈ origins := by
  cases failed with
  | false => exact h
  | true => exact absurd h (SortedSet.not_mem_empty x)

end

/-- What a valid call promises under coercion.  Each argument fits the row type once it is converted.
The return type is a record: the row type but for origins and marks or, if the table has failed, a
record of the names in the arguments that the row type accepts.  Its origins are those of the table
and of all arguments. -/
theorem valid_call_sound
    (d : Dialect)
    (hcoercion : d.coercion = true)
    (args : List DataType)
    (hvalid : (checkArguments d .structural args).valid = true) :
    ∃ failed origins fields rest, args = .table failed origins fields :: rest ∧
      let row := DataType.record origins fields
      let v := checkArguments d .structural args
      (∀ j arg, rest[j]? = some arg →
        row.accepts d .loose ((v.coercionAt? (j + 1)).getD arg) = true) ∧
      v.returnType.isRecord = true ∧
      (failed = false → v.returnType.bare = row.bare) ∧
      (failed = true →
        (∀ n, n ∈ v.returnType.fieldNames ↔ ∃ arg ∈ rest, n ∈ arg.fieldNames) ∧
        row.accepts d .loose v.returnType = true) ∧
      (∀ x, x ∈ v.returnType.origins ↔ x ∈ origins ∨ ∃ arg ∈ rest, x ∈ arg.origins) := by
  obtain ⟨failed, origins, fields, rest, rfl, harity, htable⟩ :=
    exists_table_of_valid d .structural args hvalid
  refine ⟨failed, origins, fields, rest, rfl, ?_⟩
  intro row v
  have hall := (valid_iff_of_coercion d .structural failed origins fields hcoercion rest harity
    htable).1 hvalid
  have hreturn : v.returnType =
      (returnTypeAfter d .structural row (initialRow failed origins fields) rest).addOrigins
        origins := returnType_checkArguments d .structural failed origins fields rest harity htable
  have hrun := returnTypeAfter_record d origins fields rest _
    (isRecord_initialRow origins fields failed) hall
  have hadd := DataType.addOrigins_record d _ origins hrun.1
  rw [hreturn]
  refine ⟨?_, hadd.1, ?_, ?_, ?_⟩
  · intro j arg hj
    obtain ⟨u, hu, hget, -⟩ := contribution?_of_valid d origins fields arg
      (hall arg (List.mem_of_getElem? hj))
    have haccepts := accepts_of_contribution? d .structural row arg u hcoercion hu
    rw [coercionAt?_checkArguments d .structural failed origins fields rest harity htable j arg hj,
      inspectArgument_index d .structural _ (j + 1) 0 arg]
    exact hget ▸ haccepts
  · rintro rfl
    rw [hadd.2.1]
    exact bare_returnTypeAfter d .structural row hcoercion rest _ rfl
  · rintro rfl
    refine ⟨?_, ?_⟩
    · intro n
      rw [hadd.2.2.1, hrun.2.1 n]
      simp [initialRow, DataType.fieldNames, DataType.fields?, Fields.names, Fields.toList]
    · rw [hadd.2.2.2.2]
      exact accepts_returnTypeAfter d .structural row hcoercion rest _
        (DataType.accepts_record_nil d .loose origins ∅ fields)
  · intro x
    rw [hadd.2.2.2.1 x, hrun.2.2 x]
    constructor
    · rintro ((h | h) | h)
      · exact Or.inl (mem_of_mem_origins_initialRow origins fields failed x h)
      · exact Or.inr h
      · exact Or.inl h
    · rintro (h | h)
      · exact Or.inr h
      · exact Or.inl (Or.inr h)

/-- A change of texts to a table of numbers is converted, and the call gives the row type. -/
theorem valid_call_sound_text :
    let fields := Fields.ofList [("price", .scalar .number), ("title", .scalar .text)]
    let row := DataType.record ∅ fields
    let base := DataType.record ∅ (.ofList [("title", .scalar .text)])
    let change := DataType.record ∅ (.ofList [("price", .scalar .text)])
    let v := checkArguments .standard .structural [.table false ∅ fields, base, change]
    v.valid = true ∧
      v.coercionAt? 2 = some (.record ∅ (.ofList [("price", .scalar .number)])) ∧
      row.accepts .standard .loose ((v.coercionAt? 2).getD change) = true ∧
      v.returnType.bare = row.bare := by
  intro fields row base change v
  have hvalid : v.valid = true := by decide +kernel
  obtain ⟨failed, origins, fields', rest, hargs, hfit, -, hbare, -⟩ :=
    valid_call_sound .standard rfl _ hvalid
  cases hargs
  exact ⟨hvalid, by decide +kernel, hfit 1 change rfl, hbare rfl⟩

end RowPatch
