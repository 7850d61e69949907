import RowPatch.Proofs.Schema.Acceptance

/-!
# Types without errors

A type that failed to be found is `Error`, at the top or under a field name.  Such a type fits
nowhere, not even where it is expected itself; every other type fits itself, exactly and loosely.

**Results.**
* `Fields.containsError_eq_false_iff`: a field list is free of errors when each of its types is.
* `DataType.accepts_self_iff`: the types that fit themselves are those without errors.
-/

namespace RowPatch

mutual

/-- Whether the type is `Error` or holds an `Error` at any depth.  The mark of a failed table is no
`Error`. -/
def DataType.containsError : DataType → Bool
  | .scalar kind => decide (kind = .error)
  | .row _ _ fields => Fields.containsError fields

/-- Whether the type of some field is or holds an `Error`. -/
def Fields.containsError : {lo : Option String} → Fields lo → Bool
  | _, .nil => false
  | _, .cons _ _ t rest => DataType.containsError t || Fields.containsError rest

end

namespace Fields

/-- A field list is free of errors when each of its types is. -/
theorem containsError_eq_false_iff :
    {lo : Option String} → (fs : Fields lo) →
      (fs.containsError = false ↔ ∀ n t, fs.find? n = some t → t.containsError = false)
  | _, .nil => by simp [containsError]
  | _, .cons m hm s rest => by
      have ih := containsError_eq_false_iff rest
      rw [containsError, Bool.or_eq_false_iff, ih, forall_find?_cons]

end Fields

namespace Scalar

theorem accepts_self_iff
    (d : Dialect)
    (fit : Fit)
    (k : Scalar) :
    k.accepts d fit k = true ↔ k ≠ error := by
  cases fit with
  | loose => simp [accepts_loose_iff]
  | exact =>
      rw [accepts_exact_iff]
      constructor
      · rintro (hdates | ⟨hk, -⟩)
        · exact (rep_eq_of_sameDates d k k hdates).1
        · exact hk
      · intro hk
        exact Or.inr ⟨hk, rfl⟩

end Scalar

namespace DataType

theorem containsError_scalar_eq_false_iff (k : Scalar) :
    (scalar k).containsError = false ↔ k ≠ .error := by
  simp [containsError]

theorem containsError_row_eq_false_iff
    (s : Shape)
    (o : SortedSet Origin)
    (fs : Fields none) :
    (row s o fs).containsError = false ↔
      ∀ n t, fs.find? n = some t → t.containsError = false := by
  rw [containsError, Fields.containsError_eq_false_iff]

/-- The types that fit themselves are those without errors. -/
theorem accepts_self_iff
    (d : Dialect)
    (fit : Fit)
    (t : DataType) :
    t.accepts d fit t = true ↔ t.containsError = false := by
  induction t using DataType.induction with
  | scalar k =>
      rw [accepts_scalar_scalar, containsError_scalar_eq_false_iff, Scalar.accepts_self_iff]
  | row s o fs ih =>
      rw [accepts_row_iff, containsError_row_eq_false_iff]
      constructor
      · rintro ⟨-, hfields⟩ n t ht
        obtain ⟨t', ht', h⟩ := hfields n t ht
        cases Option.some.inj (ht.symm.trans ht')
        exact (ih n t ht).1 h
      · intro hfields
        exact ⟨rfl, fun n t ht => ⟨t, ht, (ih n t ht).2 (hfields n t ht)⟩⟩

end DataType

end RowPatch
