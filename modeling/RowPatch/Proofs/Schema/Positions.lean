import RowPatch.Proofs.Schema.Coercion
import RowPatch.Proofs.Schema.Remnant
import RowPatch.Proofs.Schema.Supremum

/-!
# Comparing types position by position

Acceptance, conversion and union compare two types at the positions that both of them have.  What
they ask there of the rows of one kind is left to the positions below; only where the comparison
ends is there anything to ask.

**Results.**
* `DataType.coerce?_isSome_iff`: a type can be converted when it has no missing field and suits the
  expected type at every common position.
* `DataType.suits_iff_of_conflicts_eq_nil`: of two types that do not conflict the second suits the
  first, unless the first is `Error`, or is `Blank` and the second is not.
-/

namespace RowPatch

namespace Scalar

theorem coerce?_isSome_iff
    (d : Dialect)
    (t s : Scalar) :
    (t.coerce? d s).isSome = true ↔ t.accepts d .loose s = true ∨ s.convertsTo t = true := by
  unfold coerce?
  split
  · simp [*]
  · split <;> simp [*]

theorem ne_of_convertsTo
    (s t : Scalar)
    (h : s.convertsTo t = true) :
    t ≠ error ∧ t ≠ blank := by
  cases s <;> cases t <;> simp [convertsTo] at h ⊢

/-- Of two scalar types that unite the second can stand for the first, unless the first is `Error`,
or is `Blank` and the second is not. -/
theorem coerce?_isSome_iff_of_unite?
    (d : Dialect)
    (t s : Scalar)
    (h : (t.unite? d s).isSome = true) :
    (t.coerce? d s).isSome = true ↔ t ≠ error ∧ (t = blank → s = blank) := by
  rw [coerce?_isSome_iff, accepts_loose_iff]
  constructor
  · rintro (⟨herror, hfits⟩ | hconverts)
    · refine ⟨herror, ?_⟩
      rintro rfl
      rcases hfits with hs | hrep
      · exact hs
      · exact (rep_eq_blank_iff d s).1 hrep.symm
    · obtain ⟨herror, hblank⟩ := ne_of_convertsTo s t hconverts
      exact ⟨herror, fun ht => absurd ht hblank⟩
  · rintro ⟨herror, hblank⟩
    refine Or.inl ⟨herror, ?_⟩
    rw [unite?_eq] at h
    by_cases hrep : t.rep d = s.rep d
    · exact Or.inr hrep
    · by_cases ht : t = blank
      · exact Or.inl (hblank ht)
      · by_cases hs : s = blank
        · exact Or.inl hs
        · simp [hrep, ht, hs] at h

end Scalar

namespace DataType

/-- What holds of two types at every position that both of them have. -/
def Everywhere (P : DataType → DataType → Prop) (t u : DataType) : Prop :=
  ∀ p x y, t.at? p = some x → u.at? p = some y → P x y

/-- Whether a type fits or can be converted, the fields of rows apart. -/
def suits (d : Dialect) (target : DataType) : DataType → Bool
  | .scalar s =>
      match target with
      | .scalar t => (t.coerce? d s).isSome
      | .row .. => decide (s = .blank)
  | .row shape _ _ =>
      match target with
      | .scalar _ => false
      | .row shape' _ _ => shape'.sameKind shape

section Everywhere

variable {P Q : DataType → DataType → Prop}

theorem Everywhere.mono
    {t u : DataType}
    (h : t.Everywhere P u)
    (hPQ : ∀ x y, P x y → Q x y) :
    t.Everywhere Q u :=
  fun p x y hx hy => hPQ x y (h p x y hx hy)

theorem everywhere_congr
    {t u : DataType}
    (h : t.Everywhere (fun x y => P x y ↔ Q x y) u) :
    t.Everywhere P u ↔ t.Everywhere Q u :=
  ⟨fun hP p x y hx hy => (h p x y hx hy).1 (hP p x y hx hy),
    fun hQ p x y hx hy => (h p x y hx hy).2 (hQ p x y hx hy)⟩

theorem at?_scalar_eq_some_iff
    (k : Scalar)
    (p : Path)
    (x : DataType) :
    (scalar k).at? p = some x ↔ p = [] ∧ scalar k = x := by
  cases p <;> simp [at?, fields?]

theorem at?_row_cons_eq_some_iff
    (s : Shape)
    (o : SortedSet Origin)
    (fs : Fields none)
    (n : String)
    (p : Path)
    (x : DataType) :
    (row s o fs).at? (n :: p) = some x ↔ ∃ t, fs.find? n = some t ∧ t.at? p = some x := by
  simp only [at?, fields?, Option.bind_some]
  cases fs.find? n <;> simp

theorem at?_singleton
    (s : Shape)
    (o : SortedSet Origin)
    (fs : Fields none)
    (n : String) :
    (row s o fs).at? [n] = fs.find? n := by
  rw [at?]
  cases h : fs.find? n <;> simp [fields?, h]

/-- The type at a path in two parts lies at the second part of the type at the first. -/
theorem at?_append (p q : Path) :
    ∀ t : DataType, t.at? (p ++ q) = (t.at? p).bind fun u => u.at? q := by
  induction p with
  | nil => exact fun t => rfl
  | cons n p ih =>
      intro t
      rw [List.cons_append, at?, at?]
      cases t.fields?.bind (Fields.find? n) with
      | none => rfl
      | some u => exact ih u

/-- A scalar has one position. -/
theorem everywhere_scalar_right_iff
    (t : DataType)
    (j : Scalar) :
    t.Everywhere P (scalar j) ↔ P t (scalar j) := by
  constructor
  · intro h
    exact h [] t (scalar j) rfl rfl
  · intro h p x y hx hy
    obtain ⟨rfl, rfl⟩ := (at?_scalar_eq_some_iff j p y).1 hy
    cases Option.some.inj hx
    exact h

theorem everywhere_scalar_left_iff
    (k : Scalar)
    (u : DataType) :
    (scalar k).Everywhere P u ↔ P (scalar k) u := by
  constructor
  · intro h
    exact h [] (scalar k) u rfl rfl
  · intro h p x y hx hy
    obtain ⟨rfl, rfl⟩ := (at?_scalar_eq_some_iff k p x).1 hx
    cases Option.some.inj hy
    exact h

/-- The positions of two rows are the rows themselves and the positions under a common name. -/
theorem everywhere_row_iff
    (s s' : Shape)
    (o o' : SortedSet Origin)
    (ts us : Fields none) :
    (row s o ts).Everywhere P (row s' o' us) ↔
      P (row s o ts) (row s' o' us) ∧
        ∀ n t u, ts.find? n = some t → us.find? n = some u → t.Everywhere P u := by
  constructor
  · intro h
    refine ⟨h [] _ _ rfl rfl, ?_⟩
    intro n t u ht hu p x y hx hy
    exact h (n :: p) x y ((at?_row_cons_eq_some_iff s o ts n p x).2 ⟨t, ht, hx⟩)
      ((at?_row_cons_eq_some_iff s' o' us n p y).2 ⟨u, hu, hy⟩)
  · rintro ⟨hrow, hfields⟩ p x y hx hy
    cases p with
    | nil =>
        cases Option.some.inj hx
        cases Option.some.inj hy
        exact hrow
    | cons n p =>
        obtain ⟨t, ht, hx⟩ := (at?_row_cons_eq_some_iff s o ts n p x).1 hx
        obtain ⟨u, hu, hy⟩ := (at?_row_cons_eq_some_iff s' o' us n p y).1 hy
        exact hfields n t u ht hu p x y hx hy

end Everywhere

variable (d : Dialect)

/-- A type can be converted when it has no missing field and suits at every common position. -/
theorem coerce?_isSome_iff (u : DataType) :
    ∀ t : DataType, (t.coerce? d u).isSome = true ↔
      t.missing u = [] ∧ t.Everywhere (fun x y => x.suits d y = true) u := by
  induction u using DataType.induction with
  | scalar j =>
      intro t
      rw [everywhere_scalar_right_iff]
      cases t with
      | scalar k => simp [coerce?_scalar_scalar, suits]
      | row s o ts => by_cases h : j = .blank <;> simp [coerce?_row_scalar, suits, h]
  | row s' o' us ih =>
      intro t
      cases t with
      | scalar k => simp [coerce?_scalar_row, everywhere_scalar_left_iff, suits]
      | row s o ts =>
          rw [missing_row_row, Fields.missing_eq_nil_iff, everywhere_row_iff, coerce?]
          by_cases hkind : s.sameKind s' = true
          · rw [if_pos hkind, Option.isSome_map, Fields.coerceAll?_isSome_iff]
            simp only [suits, hkind, true_and]
            constructor
            · intro h
              refine ⟨?_, ?_⟩
              · intro n u hu
                obtain ⟨t, ht, htu⟩ := h n u hu
                exact ⟨t, ht, ((ih n u hu t).1 htu).1⟩
              · intro n t u ht hu
                obtain ⟨t', ht', htu⟩ := h n u hu
                cases Option.some.inj (ht.symm.trans ht')
                exact ((ih n u hu t).1 htu).2
            · rintro ⟨hmissing, hsuits⟩ n u hu
              obtain ⟨t, ht, htu⟩ := hmissing n u hu
              exact ⟨t, ht, (ih n u hu t).2 ⟨htu, hsuits n t u ht hu⟩⟩
          · simp [suits, hkind]

/-- Types that do not conflict do so at no common position. -/
theorem everywhere_of_conflicts_eq_nil (u : DataType) :
    ∀ t : DataType, t.conflicts d u = [] → t.Everywhere (fun x y => x.conflicts d y = []) u := by
  induction u using DataType.induction with
  | scalar j => exact fun t h => (everywhere_scalar_right_iff t j).2 h
  | row s' o' us ih =>
      intro t h
      cases t with
      | scalar k => exact (everywhere_scalar_left_iff k _).2 h
      | row s o ts =>
          rw [everywhere_row_iff]
          refine ⟨h, ?_⟩
          rw [conflicts_row_row_eq_nil_iff] at h
          exact fun n t u ht hu => ih n u hu t (h.2 n t u ht hu)

/-- Of two types that do not conflict the second suits the first, unless the first is `Error`, or is
`Blank` and the second is not. -/
theorem suits_iff_of_conflicts_eq_nil
    (t u : DataType)
    (h : t.conflicts d u = []) :
    t.suits d u = true ↔ t ≠ error ∧ (t = blank → u = blank) := by
  cases t with
  | scalar k =>
      cases u with
      | scalar j =>
          have hunite : (k.unite? d j).isSome = true :=
            Option.isSome_iff_exists.2 ((conflicts_scalar_scalar_eq_nil_iff d k j).1 h)
          simpa [suits] using Scalar.coerce?_isSome_iff_of_unite? d k j hunite
      | row s' o' us =>
          obtain rfl : k = .blank := by simpa using h
          simp [suits]
  | row s o ts =>
      cases u with
      | scalar j =>
          obtain rfl : j = .blank := by simpa using h
          simp [suits]
      | row s' o' us =>
          rw [conflicts_row_row_eq_nil_iff] at h
          simpa [suits] using (Shape.sameKind_iff s s').2 h.1

end DataType

end RowPatch
