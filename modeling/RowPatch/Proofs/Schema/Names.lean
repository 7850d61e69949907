import RowPatch.Proofs.Schema.Union

/-!
# Names and origins of rows

The field names and the origins at the top of a type, and what union and the addition of origins do
to them.

**Results.**
* `DataType.unite_record_record`: the union of two records is a record with the names and the
  origins of both.
* `DataType.addOrigins_record`: added origins show in the origins of a record and nowhere else.
-/

namespace RowPatch

namespace DataType

/-- The names of the fields at the top of a type; a scalar has none. -/
def fieldNames (t : DataType) : List String :=
  match t.fields? with
  | none => []
  | some fields => fields.names

theorem mem_fieldNames_row_iff
    (s : Shape)
    (o : SortedSet Origin)
    (fs : Fields none)
    (n : String) :
    n ∈ (row s o fs).fieldNames ↔ ∃ t, fs.find? n = some t :=
  Fields.mem_names_iff fs

theorem exists_record_of_isRecord
    (t : DataType)
    (h : t.isRecord = true) :
    ∃ o fs, t = record o fs := by
  cases t with
  | scalar k => exact absurd h (by simp [isRecord])
  | row s o fs =>
      cases s with
      | record => exact ⟨o, fs, rfl⟩
      | table failed => exact absurd h (by simp [isRecord])

/-- The union of two records is a record with the names and the origins of both. -/
theorem unite_record_record
    (d : Dialect)
    (a b : DataType)
    (ha : a.isRecord = true)
    (hb : b.isRecord = true) :
    (a.unite d b).isRecord = true ∧
      (∀ n, n ∈ (a.unite d b).fieldNames ↔ n ∈ a.fieldNames ∨ n ∈ b.fieldNames) ∧
      (∀ x, x ∈ (a.unite d b).origins ↔ x ∈ a.origins ∨ x ∈ b.origins) := by
  obtain ⟨o, fs, rfl⟩ := exists_record_of_isRecord a ha
  obtain ⟨o', gs, rfl⟩ := exists_record_of_isRecord b hb
  rw [unite_row_row d .record .record o o' fs gs rfl]
  refine ⟨rfl, ?_, ?_⟩
  · intro n
    rw [mem_fieldNames_row_iff, mem_fieldNames_row_iff, mem_fieldNames_row_iff, Fields.find?_unite]
    cases fs.find? n <;> cases gs.find? n <;> simp
  · intro x
    exact SortedSet.mem_union x o o'

/-- Added origins show in the origins of a record and nowhere else. -/
theorem addOrigins_record
    (d : Dialect)
    (t : DataType)
    (more : SortedSet Origin)
    (ht : t.isRecord = true) :
    (t.addOrigins more).isRecord = true ∧
      (t.addOrigins more).bare = t.bare ∧
      (t.addOrigins more).fieldNames = t.fieldNames ∧
      (∀ x, x ∈ (t.addOrigins more).origins ↔ x ∈ t.origins ∨ x ∈ more) ∧
      (∀ (fit : Fit) (r : DataType), r.accepts d fit (t.addOrigins more) = r.accepts d fit t) := by
  obtain ⟨o, fs, rfl⟩ := exists_record_of_isRecord t ht
  refine ⟨rfl, rfl, rfl, ?_, ?_⟩
  · intro x
    exact SortedSet.mem_union x o more
  · intro fit r
    cases r with
    | scalar k => simp [addOrigins]
    | row s o' ts =>
        rw [addOrigins, Bool.eq_iff_iff, accepts_row_iff, accepts_row_iff]

end DataType

end RowPatch
