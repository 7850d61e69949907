import RowPatch.Proofs.Schema.Acceptance

/-!
# Laws of coercion

A conversion keeps the names and the origins of what is converted, and its result fits loosely.

**Results.**
* `DataType.accepts_of_coerce?`: the type to convert to is accepted loosely.
* `DataType.missing_eq_nil_of_coerce?`: a type that can be converted has no missing field.
* `DataType.coerce?_row_eq_some`: what the conversion of a row looks like.
-/

namespace RowPatch

namespace Scalar

theorem accepts_self_of_convertsTo
    (d : Dialect)
    (s t : Scalar)
    (h : s.convertsTo t = true) :
    t.accepts d .loose t = true := by
  rw [accepts_loose_iff]
  refine ⟨?_, Or.inr rfl⟩
  rintro rfl
  cases s <;> simp [convertsTo] at h

theorem accepts_of_coerce?
    (d : Dialect)
    (t s c : Scalar)
    (h : t.coerce? d s = some c) :
    t.accepts d .loose c = true := by
  unfold coerce? at h
  split at h
  · rename_i haccepts
    exact Option.some.inj h ▸ haccepts
  · split at h
    · rename_i hconverts
      exact Option.some.inj h ▸ accepts_self_of_convertsTo d s t hconverts
    · exact absurd h (by simp)

end Scalar

namespace Fields

/-- Each field of a converted list is the conversion of the field of that name. -/
theorem find?_coerceAll?
    (d : Dialect)
    (ts : Fields none) :
    {lo : Option String} → (us cs : Fields lo) → ts.coerceAll? d us = some cs →
      ∀ n,
        (us.find? n = none ∧ cs.find? n = none) ∨
          ∃ u t c, us.find? n = some u ∧ ts.find? n = some t ∧ t.coerce? d u = some c ∧
            cs.find? n = some c
  | _, .nil, cs, h, n => by
      rw [coerceAll?] at h
      cases Option.some.inj h
      exact Or.inl ⟨rfl, rfl⟩
  | _, .cons m hm u rest, cs, h, n => by
      rw [coerceAll?] at h
      split at h
      · exact absurd h (by simp)
      · rename_i t ht
        split at h
        · rename_i c rest' hc hrest
          cases Option.some.inj h
          have ih := find?_coerceAll? d ts rest rest' hrest n
          rw [find?_cons, find?_cons]
          by_cases e : m = n
          · subst e
            exact Or.inr ⟨u, t, c, by simp, ht, hc, by simp⟩
          · rw [if_neg e, if_neg e]
            exact ih
        · exact absurd h (by simp)

/-- A field list can be converted when each field is a field of `ts` and can be converted there. -/
theorem coerceAll?_isSome_iff (d : Dialect) (ts : Fields none) :
    {lo : Option String} → (us : Fields lo) →
      ((ts.coerceAll? d us).isSome = true ↔
        ∀ n u, us.find? n = some u → ∃ t, ts.find? n = some t ∧ (t.coerce? d u).isSome = true)
  | _, .nil => by simp [coerceAll?]
  | _, .cons m hm u rest => by
      have ih := coerceAll?_isSome_iff d ts rest
      rw [coerceAll?, forall_find?_cons, ← ih]
      cases ts.find? m with
      | none => simp
      | some t =>
          cases hc : t.coerce? d u <;> cases ts.coerceAll? d rest <;> simp [hc]

/-- A converted list is determined by what look-up finds in it. -/
theorem coerceAll?_eq_some_iff
    (d : Dialect)
    (ts us cs : Fields none) :
    ts.coerceAll? d us = some cs ↔
      ∀ n,
        (us.find? n = none ∧ cs.find? n = none) ∨
          ∃ u t c, us.find? n = some u ∧ ts.find? n = some t ∧ t.coerce? d u = some c ∧
            cs.find? n = some c := by
  constructor
  · exact find?_coerceAll? d ts us cs
  · intro h
    have hsome : (ts.coerceAll? d us).isSome = true := by
      rw [coerceAll?_isSome_iff]
      intro n u hu
      rcases h n with ⟨hnone, -⟩ | ⟨u', t, c, hu', ht, hc, -⟩
      · simp [hnone] at hu
      · cases Option.some.inj (hu'.symm.trans hu)
        exact ⟨t, ht, by simp [hc]⟩
    obtain ⟨cs', hcs'⟩ := Option.isSome_iff_exists.1 hsome
    have hsame : cs' = cs := by
      apply ext_find?
      intro n
      rcases find?_coerceAll? d ts us cs' hcs' n with ⟨hu, hn⟩ | ⟨u, t, c, hu, ht, hc, hn⟩
      · rcases h n with ⟨-, hn'⟩ | ⟨u', -, -, hu', -⟩
        · rw [hn, hn']
        · simp [hu] at hu'
      · rcases h n with ⟨hu', -⟩ | ⟨u', t', c', hu', ht', hc', hn'⟩
        · simp [hu'] at hu
        · cases Option.some.inj (hu'.symm.trans hu)
          cases Option.some.inj (ht'.symm.trans ht)
          rw [hn, hn', ← hc, ← hc']
    rw [hcs', hsame]

/-- A converted list has the names of the list that is converted, in the same order. -/
theorem names_of_coerceAll?
    (d : Dialect)
    (ts : Fields none) :
    {lo : Option String} → (us cs : Fields lo) → ts.coerceAll? d us = some cs →
      cs.names = us.names
  | _, .nil, cs, h => by
      rw [coerceAll?] at h
      cases Option.some.inj h
      rfl
  | _, .cons m hm u rest, cs, h => by
      rw [coerceAll?] at h
      split at h
      · exact absurd h (by simp)
      · split at h
        · rename_i c rest' hc hrest
          cases Option.some.inj h
          have ih := names_of_coerceAll? d ts rest rest' hrest
          simpa [names, toList] using ih
        · exact absurd h (by simp)

end Fields

namespace DataType

theorem coerce?_scalar_scalar
    (d : Dialect)
    (k j : Scalar) :
    (scalar k).coerce? d (scalar j) = (k.coerce? d j).map scalar := by
  rw [coerce?]

theorem coerce?_scalar_row
    (d : Dialect)
    (k : Scalar)
    (s : Shape)
    (o : SortedSet Origin)
    (us : Fields none) :
    (scalar k).coerce? d (row s o us) = none := by
  rw [coerce?]

theorem coerce?_row_scalar
    (d : Dialect)
    (s : Shape)
    (o : SortedSet Origin)
    (ts : Fields none)
    (j : Scalar) :
    (row s o ts).coerce? d (scalar j) = if j = .blank then some blank else none := by
  rw [coerce?]

/-- A converted row has the kind and the origins of the row that is converted. -/
theorem coerce?_row_eq_some
    (d : Dialect)
    (s s' : Shape)
    (o o' : SortedSet Origin)
    (ts us : Fields none)
    (c : DataType)
    (h : (row s o ts).coerce? d (row s' o' us) = some c) :
    ∃ cs, s.plain = s'.plain ∧ ts.coerceAll? d us = some cs ∧ c = row s'.plain o' cs := by
  rw [coerce?] at h
  split at h
  · rename_i hkind
    obtain ⟨cs, hcs, rfl⟩ := Option.map_eq_some_iff.1 h
    exact ⟨cs, (Shape.sameKind_iff s s').1 hkind, hcs, rfl⟩
  · exact absurd h (by simp)

/-- Rows of one kind are converted field by field. -/
theorem coerce?_row_row
    (d : Dialect)
    (s s' : Shape)
    (o o' : SortedSet Origin)
    (ts us : Fields none)
    (h : s.plain = s'.plain) :
    (row s o ts).coerce? d (row s' o' us) = (ts.coerceAll? d us).map (row s'.plain o') := by
  rw [coerce?, if_pos ((Shape.sameKind_iff s s').2 h)]

/-- The type to convert to is accepted loosely. -/
theorem accepts_of_coerce?
    (d : Dialect)
    (u : DataType) :
    ∀ t c : DataType, t.coerce? d u = some c → t.accepts d .loose c = true := by
  induction u using DataType.induction with
  | scalar j =>
      intro t c h
      cases t with
      | scalar k =>
          rw [coerce?_scalar_scalar] at h
          obtain ⟨i, hi, rfl⟩ := Option.map_eq_some_iff.1 h
          exact Scalar.accepts_of_coerce? d k j i hi
      | row s o ts =>
          rw [coerce?_row_scalar] at h
          split at h
          · cases Option.some.inj h
            rw [accepts_row_scalar_iff]
            exact ⟨rfl, rfl⟩
          · exact absurd h (by simp)
  | row s' o' us ih =>
      intro t c h
      cases t with
      | scalar k => simp [coerce?_scalar_row] at h
      | row s o ts =>
          obtain ⟨cs, hkind, hcs, rfl⟩ := coerce?_row_eq_some d s s' o o' ts us c h
          rw [accepts_row_iff]
          refine ⟨by simp [hkind], ?_⟩
          intro n c hc
          rcases Fields.find?_coerceAll? d ts us cs hcs n with
            ⟨_, hnone⟩ | ⟨u, t, c', hu, ht, hcoerce, hc'⟩
          · simp [hnone] at hc
          · cases Option.some.inj (hc'.symm.trans hc)
            exact ⟨t, ht, ih n u hu t c hcoerce⟩

/-- A type that can be converted has no missing field. -/
theorem missing_eq_nil_of_coerce?
    (d : Dialect)
    (u : DataType) :
    ∀ t c : DataType, t.coerce? d u = some c → t.missing u = [] := by
  induction u using DataType.induction with
  | scalar j =>
      intro t c _
      exact missing_scalar t j
  | row s' o' us ih =>
      intro t c h
      cases t with
      | scalar k => simp [coerce?_scalar_row] at h
      | row s o ts =>
          obtain ⟨cs, _, hcs, _⟩ := coerce?_row_eq_some d s s' o o' ts us c h
          rw [missing_row_row, Fields.missing_eq_nil_iff]
          intro n u hu
          rcases Fields.find?_coerceAll? d ts us cs hcs n with
            ⟨hnone, _⟩ | ⟨u', t, c', hu', ht, hcoerce, _⟩
          · simp [hnone] at hu
          · cases Option.some.inj (hu'.symm.trans hu)
            exact ⟨t, ht, ih n u hu' t c' hcoerce⟩

end DataType

end RowPatch
