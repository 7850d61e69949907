import RowPatch.Binding.Basic
import RowPatch.Proofs.Binding.ReadOnlyColumns
import RowPatch.Proofs.Binding.Verdict

/-!
# The names in a bound call

In a call that is bound without a finding the change records name nothing but columns of the table,
and no column that a data source of the table refuses to write.

**Results.**
* `fieldNames_of_found_eq_nil`: the names in an argument that passes its inspection are columns.
* `bound_call_names`: in a bound call they are columns that may be written.
-/

namespace RowPatch

theorem fieldNames_of_found_eq_nil
    (d : Dialect)
    (origins : SortedSet Origin)
    (fields : Fields none)
    (index : Nat)
    (arg : DataType)
    (hfound : (inspectArgument d .structural (.record origins fields) index arg).found = []) :
    arg.isRecord = true ∧ ∀ n ∈ arg.fieldNames, n ∈ fields.names := by
  have hpassed : arg.isRecord = true ∧ (DataType.record origins fields).missing arg = [] := by
    have hi := inspectArgument_passed d .structural _ index arg
      ((inspectArgument_valid_iff ..).2 hfound)
    generalize inspectArgument d .structural (.record origins fields) index arg = i at hi
    cases hi with
    | taken hrecord hmissing => exact ⟨hrecord, hmissing⟩
    | converted _ hrecord hmissing => exact ⟨hrecord, hmissing⟩
  refine ⟨hpassed.1, ?_⟩
  obtain ⟨o, us, rfl⟩ := DataType.exists_record_of_isRecord arg hpassed.1
  intro n hn
  obtain ⟨u, hu⟩ := (DataType.mem_fieldNames_row_iff .record o us n).1 hn
  have hmissing := hpassed.2
  rw [DataType.missing_row_row, Fields.missing_eq_nil_iff] at hmissing
  obtain ⟨t, ht, -⟩ := hmissing n u hu
  exact (Fields.mem_names_iff fields).2 ⟨t, ht⟩

/-- Each change of a bound call names nothing but columns that all data sources let it write. -/
theorem bound_call_names
    (d : Dialect)
    (target : Target)
    (args : List DataType)
    (hbound : (bindCall d .structural target args).found = []) :
    ∃ failed origins fields rest, args = .table failed origins fields :: rest ∧
      ∀ (k : Nat) (change : DataType), rest[k + 1]? = some change →
        ∀ n ∈ change.fieldNames, n ∈ fields.names ∧ ∀ o ∈ origins, n ∉ o.readOnly := by
  obtain ⟨hfound, hwrites⟩ := List.append_eq_nil_iff.1 hbound
  obtain ⟨failed, origins, fields, rest, rfl, harity, htable⟩ :=
    exists_table_of_valid d .structural args
      ((checkArguments_valid_iff d .structural args).2 hfound)
  refine ⟨failed, origins, fields, rest, rfl, ?_⟩
  intro k change hk
  have hinspect : (inspectArgument d .structural (.record origins fields) (k + 1 + 1)
      change).found = [] := by
    have hat := foundAt_checkArguments d .structural failed origins fields rest harity htable
      (k + 1) change hk
    rw [Verdict.foundAt, hfound] at hat
    exact (List.append_eq_nil_iff.1 hat.symm).1
  obtain ⟨hrecord, hcolumns⟩ := fieldNames_of_found_eq_nil d origins fields _ change hinspect
  refine fun n hn => ⟨hcolumns n hn, fun o ho hreadOnly => ?_⟩
  exact not_namesReadOnly_of_checkWrites_eq_nil .structural target _ hwrites (k + 2) n
    ⟨.table failed origins fields, change, rfl, htable, by omega, hk, hrecord, hn, o, ho, hreadOnly⟩

end RowPatch
