import RowPatch.Proofs.Schema.Bare
import RowPatch.Proofs.Schema.ErrorFree

/-!
# Acceptance as a preorder

What a fitting type accepts fits itself.  Together with the types that fit themselves this makes
acceptance a preorder, exact and loose, on the types without errors.  As long as dates are told apart
from timestamps, exact acceptance both ways leaves no more open than origins and marks.

**Results.**
* `Scalar.accepts_trans`, `DataType.accepts_trans`: acceptance is transitive.
* `DataType.bare_eq_of_accepts_of_accepts`: types that accept each other exactly are equal when bare.
* `acceptance_is_preorder`: transitivity, the types that fit themselves, and the types that accept each
  other.
-/

namespace RowPatch

namespace Scalar

variable (d : Dialect)

theorem sameDates_iff (t s : Scalar) :
    t.sameDates d s = true ↔ d.legacyDates = true ∧ t.isDated = true ∧ s.isDated = true := by
  simp [sameDates, and_assoc]

theorem accepts_exact_iff_eq
    (hdates : d.legacyDates = false)
    (t s : Scalar) :
    t.accepts d .exact s = true ↔ t ≠ error ∧ t = s := by
  simp [accepts_exact_iff, sameDates_iff, hdates]

/-- `Blank` accepts nothing else. -/
theorem eq_blank_of_blank_accepts
    (fit : Fit)
    (s : Scalar)
    (h : blank.accepts d fit s = true) :
    s = blank := by
  obtain ⟨-, hs | hrep⟩ := (accepts_loose_iff d blank s).1 (accepts_loose_of_accepts d fit blank s h)
  · exact hs
  · exact (rep_eq_blank_iff d s).1 hrep.symm

theorem accepts_trans
    (fit : Fit)
    (r s t : Scalar)
    (hrs : r.accepts d fit s = true)
    (hst : s.accepts d fit t = true) :
    r.accepts d fit t = true := by
  cases fit with
  | exact =>
      rw [accepts_exact_iff] at hrs hst ⊢
      rcases hrs with hrs | ⟨hr, rfl⟩
      · rcases hst with hst | ⟨-, rfl⟩
        · rw [sameDates_iff] at hrs hst ⊢
          exact Or.inl ⟨hrs.1, hrs.2.1, hst.2.2⟩
        · exact Or.inl hrs
      · exact hst
  | loose =>
      rw [accepts_loose_iff] at hrs hst ⊢
      obtain ⟨hr, hrs⟩ := hrs
      obtain ⟨-, ht | hst⟩ := hst
      · exact ⟨hr, Or.inl ht⟩
      · refine ⟨hr, ?_⟩
        rcases hrs with rfl | hrs
        · exact Or.inl ((rep_eq_blank_iff d t).1 hst.symm)
        · exact Or.inr (hrs.trans hst)

end Scalar

namespace DataType

variable (d : Dialect)

/-- What a fitting type accepts fits too. -/
theorem accepts_trans
    (fit : Fit)
    (c : DataType) :
    ∀ a b : DataType, a.accepts d fit b = true → b.accepts d fit c = true →
      a.accepts d fit c = true := by
  induction c using DataType.induction with
  | scalar k =>
      intro a b hab hbc
      cases b with
      | scalar j =>
          rw [accepts_scalar_scalar] at hbc
          cases a with
          | scalar i =>
              rw [accepts_scalar_scalar] at hab ⊢
              exact Scalar.accepts_trans d fit i j k hab hbc
          | row s o fs =>
              rw [accepts_row_scalar_iff] at hab ⊢
              obtain ⟨hfit, rfl⟩ := hab
              exact ⟨hfit, Scalar.eq_blank_of_blank_accepts d fit k hbc⟩
      | row s o gs =>
          cases a with
          | scalar i => simp at hab
          | row s' o' fs =>
              rw [accepts_row_scalar_iff] at hbc ⊢
              exact hbc
  | row s o us ih =>
      intro a b hab hbc
      cases b with
      | scalar j => simp at hbc
      | row s' o' gs =>
          cases a with
          | scalar i => simp at hab
          | row s'' o'' fs =>
              rw [accepts_row_iff] at hab hbc ⊢
              refine ⟨hab.1.trans hbc.1, ?_⟩
              intro n u hu
              obtain ⟨t, ht, htu⟩ := hbc.2 n u hu
              obtain ⟨r, hr, hrt⟩ := hab.2 n t ht
              exact ⟨r, hr, ih n u hu r t hrt htu⟩

/-- Types that accept each other exactly are equal when bare, if dates are told apart. -/
theorem bare_eq_of_accepts_of_accepts
    (hdates : d.legacyDates = false)
    (a : DataType) :
    ∀ b : DataType, a.accepts d .exact b = true → b.accepts d .exact a = true →
      a.bare = b.bare := by
  induction a using DataType.induction with
  | scalar k =>
      intro b hab hba
      cases b with
      | scalar j =>
          rw [accepts_scalar_scalar, Scalar.accepts_exact_iff_eq d hdates] at hab
          rw [hab.2]
      | row s o gs => simp at hab
  | row s o fs ih =>
      intro b hab hba
      cases b with
      | scalar j => simp at hba
      | row s' o' gs =>
          rw [accepts_row_iff] at hab hba
          rw [bare_row_eq_iff]
          refine ⟨hab.1, ?_⟩
          intro n
          cases ht : fs.find? n with
          | none =>
              cases hu : gs.find? n with
              | none => rfl
              | some u =>
                  obtain ⟨t, ht', -⟩ := hab.2 n u hu
                  simp [ht] at ht'
          | some t =>
              obtain ⟨u, hu, hut⟩ := hba.2 n t ht
              have htu := accepts_of_found hab.2 ht hu
              rw [hu, Option.map_some, Option.map_some, ih n t ht u htu hut]

end DataType

/-- Acceptance is transitive, exact and loose, and the types that fit themselves are those that hold no
error at any depth.  While dates are told apart from timestamps, the types that accept each other
exactly are those without errors that are equal when origins and marks are dropped at every depth. -/
theorem acceptance_is_preorder (d : Dialect) :
    (∀ (fit : Fit) (a b c : DataType),
        a.accepts d fit b = true → b.accepts d fit c = true → a.accepts d fit c = true) ∧
      (∀ (fit : Fit) (t : DataType), t.accepts d fit t = true ↔ t.containsError = false) ∧
      (d.legacyDates = false → ∀ a b : DataType,
        (a.accepts d .exact b = true ∧ b.accepts d .exact a = true) ↔
          a.containsError = false ∧ b.containsError = false ∧ a.bare = b.bare) := by
  refine ⟨fun fit a b c => DataType.accepts_trans d fit c a b, DataType.accepts_self_iff d, ?_⟩
  intro hdates a b
  constructor
  · rintro ⟨hab, hba⟩
    -- by transitivity both types fit themselves
    refine ⟨(DataType.accepts_self_iff d .exact a).1 ?_, (DataType.accepts_self_iff d .exact b).1 ?_,
      DataType.bare_eq_of_accepts_of_accepts d hdates a b hab hba⟩
    · exact DataType.accepts_trans d .exact a a b hab hba
    · exact DataType.accepts_trans d .exact b b a hba hab
  · rintro ⟨ha, hb, hbare⟩
    exact ⟨DataType.accepts_of_bare_eq d .exact b b a hbare.symm
        ((DataType.accepts_self_iff d .exact b).2 hb),
      DataType.accepts_of_bare_eq d .exact a a b hbare ((DataType.accepts_self_iff d .exact a).2 ha)⟩

/-- A blank count fits into the lines of a partial order and so into those of the full one.  The full
order and its copy from a source, whose lines failed to be found, accept each other exactly. -/
theorem order_accepts_count_of_part :
    let order (origins : SortedSet Origin) (failed : Bool) (day count : Scalar) : DataType :=
      .record origins (.ofList
        [("day", .scalar day), ("lines", .table failed origins (.ofList [("count", .scalar count)]))])
    let lines (count : Scalar) : DataType :=
      .record ∅ (.ofList [("lines", .table true ∅ (.ofList [("count", .scalar count)]))])
    let full := order ∅ false .dateTime .number
    let copy := order (.ofList [⟨"orders", ∅⟩]) true .dateTime .number
    let part := order ∅ true .date .decimal
    full.accepts { legacyDates := true } .loose part = true ∧
      part.accepts { legacyDates := true } .loose (lines .blank) = true ∧
      full.accepts { legacyDates := true } .loose (lines .blank) = true ∧
      full.bare = copy.bare ∧ full ≠ copy ∧
      full.accepts .standard .exact copy = true ∧ copy.accepts .standard .exact full = true := by
  intro order lines full copy part
  obtain ⟨htrans, -, -⟩ := acceptance_is_preorder { legacyDates := true }
  obtain ⟨-, -, hiff⟩ := acceptance_is_preorder .standard
  have hfull : full.accepts { legacyDates := true } .loose part = true := by decide +kernel
  have hpart : part.accepts { legacyDates := true } .loose (lines .blank) = true := by
    decide +kernel
  have hbare : full.bare = copy.bare := by decide +kernel
  have hmutual := (hiff rfl full copy).2 ⟨by decide +kernel, by decide +kernel, hbare⟩
  exact ⟨hfull, hpart, htrans .loose full part (lines .blank) hfull hpart, hbare, by decide +kernel,
    hmutual⟩

end RowPatch
