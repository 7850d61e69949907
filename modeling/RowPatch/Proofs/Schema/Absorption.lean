import RowPatch.Proofs.Schema.Remnant
import RowPatch.Proofs.Schema.Supremum

/-!
# Absorption

A type absorbs another when a union with it neither conflicts nor changes anything: not the types,
and neither origins nor marks.  A union without conflict absorbs its second side, and goes on doing
so through further unions without conflict.

**Results.**
* `DataType.absorbs_row_row_iff`: which rows a row absorbs.
* `DataType.absorbs_unite`: a union without conflict absorbs its second side.
* `DataType.Absorbs.unite`: what a type absorbs, its unions without conflict absorb.
* `DataType.Absorbs.missing_eq_nil`: a type that is absorbed has no missing field.
-/

namespace RowPatch

namespace Shape

theorem join_self (s : Shape) : s.join s = s := by
  cases s <;> simp [join]

theorem join_join_self (s t : Shape) : (s.join t).join t = s.join t := by
  cases s <;> cases t <;> simp [join]

end Shape

namespace SortedSet

variable {α : Type} [Keyed α]

theorem union_eq_self_iff (s t : SortedSet α) : s ∪ t = s ↔ ∀ x, x ∈ t → x ∈ s := by
  constructor
  · intro h x hx
    rw [← h]
    exact (mem_union x s t).2 (Or.inr hx)
  · intro h
    apply ext_mem
    intro x
    rw [mem_union]
    exact or_iff_left_of_imp (h x)

end SortedSet

namespace Scalar

theorem unite?_self (d : Dialect) (s : Scalar) : s.unite? d s = some s := by
  rw [unite?_eq, if_pos rfl]

/-- The common type of two scalar types stays as it is when it is united with the second. -/
theorem unite?_of_unite?
    (d : Dialect)
    (s t u : Scalar)
    (h : s.unite? d t = some u) :
    u.unite? d t = some u := by
  rw [unite?_eq] at h
  split at h
  · rename_i hrep
    cases Option.some.inj h
    rw [unite?_eq, if_pos hrep]
  · split at h
    · cases Option.some.inj h
      exact unite?_self d t
    · split at h
      · rename_i hrep hs ht
        cases Option.some.inj h
        rw [unite?_eq, if_neg hrep, if_neg hs, if_pos ht]
      · exact absurd h (by simp)

end Scalar

namespace DataType

/-- A union of `a` with `b` neither conflicts nor changes `a`. -/
structure Absorbs (d : Dialect) (a b : DataType) : Prop where
  conflicts_eq_nil : a.conflicts d b = []
  unite_eq : a.unite d b = a

variable (d : Dialect)

theorem absorbs_scalar_scalar_iff
    (s t : Scalar) :
    Absorbs d (scalar s) (scalar t) ↔ s.unite? d t = some s := by
  constructor
  · intro h
    have hconflicts := h.conflicts_eq_nil
    have hunite := h.unite_eq
    cases hst : s.unite? d t with
    | none => simp [hst] at hconflicts
    | some u => simpa [hst] using hunite
  · intro h
    constructor <;> simp [h]

theorem absorbs_blank (a : DataType) : Absorbs d a blank :=
  ⟨conflicts_blank d a, unite_blank d a⟩

theorem eq_blank_of_blank_absorbs
    (b : DataType)
    (h : Absorbs d blank b) :
    b = blank := by
  have hunite := h.unite_eq
  cases b with
  | scalar k =>
      rw [unite_scalar_scalar, Scalar.unite?_eq] at hunite
      by_cases hrep : Scalar.blank.rep d = k.rep d
      · rw [(Scalar.rep_eq_blank_iff d k).1 hrep.symm]
      · simpa [hrep] using hunite
  | row s o gs => simp at hunite

theorem not_absorbs_scalar_row
    (k : Scalar)
    (s : Shape)
    (o : SortedSet Origin)
    (gs : Fields none) :
    ¬ Absorbs d (scalar k) (row s o gs) := by
  intro h
  obtain rfl : k = .blank := by simpa using h.conflicts_eq_nil
  exact absurd h.unite_eq (by simp)

theorem eq_blank_of_row_absorbs
    (s : Shape)
    (o : SortedSet Origin)
    (fs : Fields none)
    (k : Scalar)
    (h : Absorbs d (row s o fs) (scalar k)) :
    k = .blank := by
  simpa using h.conflicts_eq_nil

/-- A row absorbs the rows of its kind that bring no mark, no origin and no name, and no type that
its own type of that name does not absorb. -/
theorem absorbs_row_row_iff
    (s s' : Shape)
    (o o' : SortedSet Origin)
    (fs gs : Fields none) :
    Absorbs d (row s o fs) (row s' o' gs) ↔
      s.plain = s'.plain ∧ s.join s' = s ∧ o ∪ o' = o ∧
        ∀ n y, gs.find? n = some y → ∃ x, fs.find? n = some x ∧ Absorbs d x y := by
  constructor
  · intro h
    obtain ⟨hkind, hfree⟩ := (conflicts_row_row_eq_nil_iff d s s' o o' fs gs).1 h.conflicts_eq_nil
    have hunite := h.unite_eq
    rw [unite_row_row d s s' o o' fs gs hkind, row.injEq] at hunite
    obtain ⟨hshape, horigins, hfields⟩ := hunite
    refine ⟨hkind, hshape, horigins, ?_⟩
    intro n y hy
    have hn := Fields.find?_unite d fs n gs
    rw [hfields, hy] at hn
    cases hx : fs.find? n with
    | none => simp [hx] at hn
    | some x =>
        simp only [hx, Option.some.injEq] at hn
        exact ⟨x, rfl, hfree n x y hx hy, hn.symm⟩
  · rintro ⟨hkind, hshape, horigins, hfields⟩
    constructor
    · rw [conflicts_row_row_eq_nil_iff]
      refine ⟨hkind, ?_⟩
      intro n x y hx hy
      obtain ⟨x', hx', habsorbs⟩ := hfields n y hy
      cases Option.some.inj (hx.symm.trans hx')
      exact habsorbs.conflicts_eq_nil
    · rw [unite_row_row d s s' o o' fs gs hkind, hshape, horigins, row.injEq]
      refine ⟨rfl, rfl, ?_⟩
      apply Fields.ext_find?
      intro n
      rw [Fields.find?_unite]
      cases hy : gs.find? n with
      | none => cases fs.find? n <;> rfl
      | some y =>
          obtain ⟨x, hx, habsorbs⟩ := hfields n y hy
          simp only [hx, habsorbs.unite_eq]

theorem Absorbs.refl (a : DataType) : Absorbs d a a := by
  induction a using DataType.induction with
  | scalar k => exact (absorbs_scalar_scalar_iff d k k).2 (Scalar.unite?_self d k)
  | row s o fs ih =>
      rw [absorbs_row_row_iff]
      refine ⟨rfl, Shape.join_self s, (SortedSet.union_eq_self_iff o o).2 fun _ h => h, ?_⟩
      intro n x hx
      exact ⟨x, hx, ih n x hx⟩

/-- A union without conflict absorbs its second side. -/
theorem absorbs_unite (a : DataType) :
    ∀ b : DataType, a.conflicts d b = [] → Absorbs d (a.unite d b) b := by
  induction a using DataType.induction with
  | scalar i =>
      intro b h
      cases b with
      | scalar j =>
          obtain ⟨k, hk⟩ := (conflicts_scalar_scalar_eq_nil_iff d i j).1 h
          rw [unite_scalar_scalar, hk, Option.getD_some, absorbs_scalar_scalar_iff]
          exact Scalar.unite?_of_unite? d i j k hk
      | row s o gs =>
          obtain rfl : i = .blank := by simpa using h
          rw [unite_scalar_row, if_pos rfl]
          exact .refl d _
  | row s o fs ih =>
      intro b h
      cases b with
      | scalar j =>
          obtain rfl : j = .blank := by simpa using h
          exact absorbs_blank d _
      | row s' o' gs =>
          obtain ⟨hkind, hfree⟩ := (conflicts_row_row_eq_nil_iff d s s' o o' fs gs).1 h
          rw [unite_row_row d s s' o o' fs gs hkind, absorbs_row_row_iff]
          refine ⟨by rw [Shape.plain_join, hkind], Shape.join_join_self s s', ?_, ?_⟩
          · rw [SortedSet.union_eq_self_iff]
            intro x hx
            exact (SortedSet.mem_union x o o').2 (Or.inr hx)
          · intro n y hy
            rw [Fields.find?_unite, hy]
            cases hx : fs.find? n with
            | none => exact ⟨y, rfl, .refl d y⟩
            | some x => exact ⟨x.unite d y, rfl, ih n x hx y (hfree n x y hx hy)⟩

/-- What a type absorbs, its unions without conflict absorb. -/
theorem Absorbs.unite (a : DataType) :
    ∀ b c : DataType, Absorbs d a b → a.conflicts d c = [] → Absorbs d (a.unite d c) b := by
  induction a using DataType.induction with
  | scalar k =>
      intro b c hb hc
      by_cases hk : k = .blank
      · subst hk
        rw [eq_blank_of_blank_absorbs d b hb]
        exact absorbs_blank d _
      · rcases scalar_absorbs_or_spoils d k hk c with ⟨-, hunite⟩ | ⟨hconflict, -⟩
        · rw [hunite]
          exact hb
        · rw [hconflict] at hc
          exact absurd hc (by simp)
  | row s o fs ih =>
      intro b c hb hc
      cases b with
      | scalar k =>
          rw [eq_blank_of_row_absorbs d s o fs k hb]
          exact absorbs_blank d _
      | row s' o' gs =>
          obtain ⟨hkind, hshape, horigins, hfields⟩ :=
            (absorbs_row_row_iff d s s' o o' fs gs).1 hb
          rcases row_absorbs_or_spoils d s c with rfl | ⟨s₁, o₁, hs, rfl, hs₁⟩ | hspoils
          · rw [unite_row_scalar, if_pos rfl]
            exact hb
          · rw [conflicts_row_row d s s₁ o o₁ fs hs hs₁, Fields.conflicts_eq_nil_iff] at hc
            rw [unite_row_row d s s₁ o o₁ fs hs hs₁, absorbs_row_row_iff]
            refine ⟨by rw [Shape.plain_join, hkind], by rw [Shape.join_right_comm, hshape],
              by rw [SortedSet.union_right_comm, horigins], ?_⟩
            intro n y hy
            obtain ⟨x, hx, habsorbs⟩ := hfields n y hy
            rw [Fields.find?_unite, hx]
            cases hz : hs.find? n with
            | none => exact ⟨x, rfl, habsorbs⟩
            | some z => exact ⟨x.unite d z, rfl, ih n x hx y z habsorbs (hc n x z hx hz)⟩
          · rw [(hspoils s o fs rfl).1] at hc
            exact absurd hc (by simp)

/-- A type that is absorbed has no missing field. -/
theorem Absorbs.missing_eq_nil (b : DataType) :
    ∀ a : DataType, Absorbs d a b → a.missing b = [] := by
  induction b using DataType.induction with
  | scalar k =>
      intro a _
      exact missing_scalar a k
  | row s' o' gs ih =>
      intro a h
      cases a with
      | scalar k => exact absurd h (not_absorbs_scalar_row d k s' o' gs)
      | row s o fs =>
          rw [absorbs_row_row_iff] at h
          rw [missing_row_row, Fields.missing_eq_nil_iff]
          intro n y hy
          obtain ⟨x, hx, habsorbs⟩ := h.2.2.2 n y hy
          exact ⟨x, hx, ih n y hy x habsorbs⟩

end DataType

end RowPatch
