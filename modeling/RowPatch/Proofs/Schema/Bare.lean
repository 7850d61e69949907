import RowPatch.Proofs.Schema.Acceptance

/-!
# Bare types

What is left of a type when the origins of its rows and the marks of its tables are dropped at every
depth.  Of the type that is expected, acceptance sees no more than this.

**Results.**
* `DataType.bare_row_eq_iff`: two rows are equal when bare if they are of one kind and hold, name by
  name, types that are equal when bare.
* `DataType.accepts_of_bare_eq`: types that are equal when bare accept the same types.
-/

namespace RowPatch

mutual

/-- The type without the origins of its rows and the marks of its tables, at every depth. -/
def DataType.bare : DataType → DataType
  | .scalar kind => .scalar kind
  | .row shape _ fields => .row shape.plain ∅ (Fields.bare fields)

/-- The field list with the bare type under each name. -/
def Fields.bare : {lo : Option String} → Fields lo → Fields lo
  | _, .nil => .nil
  | _, .cons n h t rest => .cons n h (DataType.bare t) (Fields.bare rest)

end

namespace Fields

@[simp] theorem find?_bare
    (n : String) :
    {lo : Option String} → (fs : Fields lo) →
      fs.bare.find? n = (fs.find? n).map DataType.bare
  | _, .nil => rfl
  | _, .cons m hm t rest => by
      have ih := find?_bare n rest
      rw [bare, find?_cons, find?_cons, ih]
      by_cases e : m = n
      · simp [e]
      · simp [e]

theorem bare_eq_iff
    (fs gs : Fields none) :
    fs.bare = gs.bare ↔
      ∀ n, (fs.find? n).map DataType.bare = (gs.find? n).map DataType.bare := by
  constructor
  · intro h n
    rw [← find?_bare, ← find?_bare, h]
  · intro h
    apply ext_find?
    intro n
    rw [find?_bare, find?_bare, h n]

end Fields

namespace DataType

@[simp] theorem bare_scalar (k : Scalar) : (scalar k).bare = scalar k := rfl

theorem bare_eq_scalar_iff
    (t : DataType)
    (k : Scalar) :
    t.bare = scalar k ↔ t = scalar k := by
  cases t <;> simp [bare]

/-- Rows are equal when bare if they are of one kind and their fields are, name by name. -/
theorem bare_row_eq_iff
    (s s' : Shape)
    (o o' : SortedSet Origin)
    (fs gs : Fields none) :
    (row s o fs).bare = (row s' o' gs).bare ↔
      s.plain = s'.plain ∧
        ∀ n, (fs.find? n).map bare = (gs.find? n).map bare := by
  rw [bare, bare, row.injEq, Fields.bare_eq_iff]
  simp

/-- Of the expected type, acceptance sees neither origins nor marks. -/
theorem accepts_of_bare_eq
    (d : Dialect)
    (fit : Fit)
    (u : DataType) :
    ∀ a b : DataType, a.bare = b.bare → a.accepts d fit u = true → b.accepts d fit u = true := by
  induction u using DataType.induction with
  | scalar k =>
      intro a b hab ha
      cases a with
      | scalar j =>
          obtain rfl := (bare_eq_scalar_iff b j).1 hab.symm
          exact ha
      | row s o fs =>
          cases b with
          | scalar j => simp [bare] at hab
          | row s' o' gs =>
              rw [accepts_row_scalar_iff] at ha ⊢
              exact ha
  | row s o us ih =>
      intro a b hab ha
      cases a with
      | scalar j => simp at ha
      | row s₁ o₁ fs =>
          cases b with
          | scalar j => simp [bare] at hab
          | row s₂ o₂ gs =>
              rw [bare_row_eq_iff] at hab
              rw [accepts_row_iff] at ha ⊢
              obtain ⟨hs, hfields⟩ := hab
              refine ⟨hs ▸ ha.1, ?_⟩
              intro n u hu
              obtain ⟨t, ht, htu⟩ := ha.2 n u hu
              have hn := hfields n
              rw [ht, Option.map_some] at hn
              obtain ⟨t', ht', hbare⟩ := Option.map_eq_some_iff.1 hn.symm
              exact ⟨t', ht', ih n u hu t t' hbare.symm htu⟩

end DataType

end RowPatch
