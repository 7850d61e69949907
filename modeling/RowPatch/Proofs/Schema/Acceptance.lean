import RowPatch.Schema.Coercion
import RowPatch.Schema.MissingFields

/-!
# Laws of acceptance

Acceptance of rows is stated through look-up, so that every later proof goes name by name and never
along a field list.

**Results.**
* `DataType.accepts_row_iff`: a row accepts the rows of its kind whose fields it accepts.
* `Scalar.accepts_loose_iff`: what a scalar type accepts loosely.
* `DataType.accepts_loose_of_accepts`: what is accepted exactly is accepted loosely.
* `DataType.missing_eq_nil_of_accepts`: a type that is accepted has no missing field.
-/

namespace RowPatch

namespace Shape

theorem sameKind_iff (s t : Shape) : s.sameKind t = true ↔ s.plain = t.plain := by
  cases s <;> cases t <;> simp [sameKind, plain]

@[simp] theorem plain_plain (s : Shape) : s.plain.plain = s.plain := by
  cases s <;> rfl

end Shape

namespace Scalar

/-- The type that stands for all types which the dialect does not tell apart from it. -/
def rep (d : Dialect) : Scalar → Scalar
  | decimal => number
  | dateTime => if d.legacyDates then date else dateTime
  | s => s

@[simp] theorem rep_eq_blank_iff
    (d : Dialect)
    (s : Scalar) :
    s.rep d = blank ↔ s = blank := by
  cases h : d.legacyDates <;> cases s <;> simp [rep, h]

@[simp] theorem rep_eq_error_iff
    (d : Dialect)
    (s : Scalar) :
    s.rep d = error ↔ s = error := by
  cases h : d.legacyDates <;> cases s <;> simp [rep, h]

theorem accepts_exact_iff
    (d : Dialect)
    (t s : Scalar) :
    t.accepts d .exact s = true ↔ t.sameDates d s = true ∨ (t ≠ error ∧ t = s) := by
  unfold accepts
  by_cases hdates : t.sameDates d s = true
  · simp [hdates]
  · by_cases herror : t = error ∨ s = error
    · rcases herror with rfl | rfl
      · simp [hdates]
      · by_cases h : t = error <;> simp [hdates, h]
    · obtain ⟨ht, hs⟩ := not_or.1 herror
      by_cases h : t = s <;> simp [hdates, ht, hs, h]

/-- A scalar type other than `Error` loosely accepts `Blank` and what is not told apart from it. -/
theorem accepts_loose_iff
    (d : Dialect)
    (t s : Scalar) :
    t.accepts d .loose s = true ↔ t ≠ error ∧ (s = blank ∨ t.rep d = s.rep d) := by
  cases h : d.legacyDates <;> cases t <;> cases s <;>
    simp [accepts, sameDates, isDated, isNumeric, rep, h]

theorem rep_eq_of_sameDates
    (d : Dialect)
    (t s : Scalar)
    (h : t.sameDates d s = true) :
    t ≠ error ∧ t.rep d = s.rep d := by
  cases hl : d.legacyDates <;> cases t <;> cases s <;>
    simp [sameDates, isDated, hl] at h <;> simp [rep, hl]

theorem accepts_loose_of_accepts
    (d : Dialect)
    (fit : Fit)
    (t s : Scalar)
    (h : t.accepts d fit s = true) :
    t.accepts d .loose s = true := by
  cases fit with
  | loose => exact h
  | exact =>
      rw [accepts_exact_iff] at h
      rw [accepts_loose_iff]
      rcases h with h | ⟨ht, rfl⟩
      · obtain ⟨ht, hrep⟩ := rep_eq_of_sameDates d t s h
        exact ⟨ht, Or.inr hrep⟩
      · exact ⟨ht, Or.inr rfl⟩

end Scalar

namespace DataType

@[simp] theorem accepts_scalar_scalar
    (d : Dialect)
    (fit : Fit)
    (k k' : Scalar) :
    (scalar k).accepts d fit (scalar k') = k.accepts d fit k' := by
  rw [accepts]

@[simp] theorem accepts_scalar_row
    (d : Dialect)
    (fit : Fit)
    (k : Scalar)
    (s : Shape)
    (o : SortedSet Origin)
    (fs : Fields none) :
    (scalar k).accepts d fit (row s o fs) = false := by
  rw [accepts]

theorem accepts_row_scalar_iff
    (d : Dialect)
    (fit : Fit)
    (k : Scalar)
    (s : Shape)
    (o : SortedSet Origin)
    (fs : Fields none) :
    (row s o fs).accepts d fit (scalar k) = true ↔ fit = .loose ∧ k = .blank := by
  rw [accepts, Bool.and_eq_true, decide_eq_true_iff, decide_eq_true_iff]

/-- Rows accept rows of their kind, field by field. -/
theorem accepts_row_iff
    (d : Dialect)
    (fit : Fit)
    (s s' : Shape)
    (o o' : SortedSet Origin)
    (ts us : Fields none) :
    (row s o ts).accepts d fit (row s' o' us) = true ↔
      s.plain = s'.plain ∧
        ∀ n u, us.find? n = some u →
          ∃ t, ts.find? n = some t ∧ t.accepts d fit u = true := by
  rw [accepts, Bool.and_eq_true, Shape.sameKind_iff, Fields.acceptsAll_iff]

theorem accepts_of_found
    {d : Dialect}
    {fit : Fit}
    {ts us : Fields none}
    (h : ∀ n u, us.find? n = some u → ∃ t, ts.find? n = some t ∧ t.accepts d fit u = true)
    {n : String}
    {t u : DataType}
    (ht : ts.find? n = some t)
    (hu : us.find? n = some u) :
    t.accepts d fit u = true := by
  obtain ⟨t', ht', htu⟩ := h n u hu
  cases Option.some.inj (ht.symm.trans ht')
  exact htu

theorem accepts_record_nil
    (d : Dialect)
    (fit : Fit)
    (o o' : SortedSet Origin)
    (ts : Fields none) :
    (record o ts).accepts d fit (record o' .nil) = true := by
  rw [accepts_row_iff]
  exact ⟨rfl, by simp⟩

/-- What is accepted exactly is accepted loosely. -/
theorem accepts_loose_of_accepts
    (d : Dialect)
    (fit : Fit)
    (u : DataType) :
    ∀ t : DataType, t.accepts d fit u = true → t.accepts d .loose u = true := by
  induction u using DataType.induction with
  | scalar k =>
      intro t h
      cases t with
      | scalar j =>
          rw [accepts_scalar_scalar] at h ⊢
          exact Scalar.accepts_loose_of_accepts d fit j k h
      | row s o fs =>
          rw [accepts_row_scalar_iff] at h ⊢
          exact ⟨rfl, h.2⟩
  | row s o us ih =>
      intro t h
      cases t with
      | scalar j => simp at h
      | row s' o' ts =>
          rw [accepts_row_iff] at h ⊢
          refine ⟨h.1, ?_⟩
          intro n u hu
          obtain ⟨t, ht, htu⟩ := h.2 n u hu
          exact ⟨t, ht, ih n u hu t htu⟩

end DataType

namespace Fields

/-- No field is missing when each one is found and has no missing field itself. -/
theorem missing_eq_nil_iff
    (ts : Fields none) :
    {lo : Option String} → (us : Fields lo) →
      (ts.missing us = [] ↔
        ∀ n u, us.find? n = some u → ∃ t, ts.find? n = some t ∧ t.missing u = [])
  | _, .nil => by simp [missing]
  | _, .cons m hm s rest => by
      have ih := missing_eq_nil_iff ts rest
      rw [missing, List.append_eq_nil_iff, ih, forall_find?_cons]
      refine and_congr_left fun _ => ?_
      cases ts.find? m <;> simp

end Fields

namespace DataType

@[simp] theorem missing_scalar
    (t : DataType)
    (k : Scalar) :
    t.missing (scalar k) = [] := by
  rw [missing]

theorem missing_row_row
    (s s' : Shape)
    (o o' : SortedSet Origin)
    (ts us : Fields none) :
    (row s o ts).missing (row s' o' us) = ts.missing us := by
  rw [missing]

theorem missing_eq_nil_of_accepts
    (d : Dialect)
    (fit : Fit)
    (u : DataType) :
    ∀ t : DataType, t.accepts d fit u = true → t.missing u = [] := by
  induction u using DataType.induction with
  | scalar k =>
      intro t _
      exact missing_scalar t k
  | row s o us ih =>
      intro t h
      cases t with
      | scalar j => simp at h
      | row s' o' ts =>
          rw [accepts_row_iff] at h
          rw [missing_row_row, Fields.missing_eq_nil_iff]
          intro n u hu
          obtain ⟨t, ht, htu⟩ := h.2 n u hu
          exact ⟨t, ht, ih n u hu t htu⟩

theorem missingNames_eq_nil_iff
    (source target : DataType) :
    source.missingNames target = [] ↔ target.missing source = [] := by
  rw [missingNames, List.map_eq_nil_iff]

end DataType

end RowPatch
