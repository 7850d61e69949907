import RowPatch.Proofs.Schema.Positions

/-!
# What the treatment of dates changes

Of the switches, types are compared by that for dates alone.  A dialect that takes more dates for
one type accepts and converts what a stricter one does, and unites in the same way what does not
conflict under the stricter one.

**Results.**
* `DataType.accepts_of_laxer`, `DataType.coerce?_isSome_of_laxer`: what fits or can be converted
  does so under a laxer dialect.
* `DataType.unite_of_laxer`: a union without conflict is the same under a laxer dialect.
* `DataType.coerce?_congr`: a conversion sees of the dialect its dates, and of the expected type
  what is left when it is bare.
-/

namespace RowPatch

section Laxer

variable {d d' : Dialect} (hdates : d.legacyDates = true → d'.legacyDates = true)
include hdates

namespace Scalar

theorem sameDates_of_laxer
    (t s : Scalar)
    (h : t.sameDates d s = true) :
    t.sameDates d' s = true := by
  simp only [sameDates, Bool.and_eq_true] at h ⊢
  exact ⟨⟨hdates h.1.1, h.1.2⟩, h.2⟩

theorem rep_eq_of_laxer
    (t s : Scalar)
    (h : t.rep d = s.rep d) :
    t.rep d' = s.rep d' := by
  cases hl : d.legacyDates with
  | true =>
      have hl' := hdates hl
      simp only [rep, hl, hl'] at h ⊢
      exact h
  | false =>
      cases t <;> cases s <;> simp [rep, hl] at h ⊢

theorem accepts_of_laxer
    (fit : Fit)
    (t s : Scalar)
    (h : t.accepts d fit s = true) :
    t.accepts d' fit s = true := by
  cases fit with
  | exact =>
      rw [accepts_exact_iff] at h ⊢
      exact h.imp_left (sameDates_of_laxer hdates t s)
  | loose =>
      rw [accepts_loose_iff] at h ⊢
      exact ⟨h.1, h.2.imp_right (rep_eq_of_laxer hdates t s)⟩

/-- The common type of two scalar types is the same under a laxer dialect. -/
theorem unite?_of_laxer
    (s t u : Scalar)
    (h : s.unite? d t = some u) :
    s.unite? d' t = some u := by
  rw [unite?_eq] at h
  split at h
  · rename_i hrep
    rw [unite?_eq, if_pos (rep_eq_of_laxer hdates s t hrep)]
    exact h
  · split at h
    · -- only `Blank` is taken for `Blank`
      rename_i hrep hs
      subst hs
      have hrep' : blank.rep d' ≠ t.rep d' := by
        intro h'
        rw [(rep_eq_blank_iff d' t).1 h'.symm] at hrep
        exact hrep rfl
      rw [unite?_eq, if_neg hrep', if_pos rfl]
      exact h
    · split at h
      · rename_i hrep hs ht
        subst ht
        have hrep' : s.rep d' ≠ blank.rep d' := fun h' => hs ((rep_eq_blank_iff d' s).1 h')
        rw [unite?_eq, if_neg hrep', if_neg hs, if_pos rfl]
        exact h
      · exact absurd h (by simp)

end Scalar

namespace DataType

/-- What fits does so under a laxer dialect. -/
theorem accepts_of_laxer
    (fit : Fit)
    (u : DataType) :
    ∀ t : DataType, t.accepts d fit u = true → t.accepts d' fit u = true := by
  induction u using DataType.induction with
  | scalar j =>
      intro t h
      cases t with
      | scalar k =>
          rw [accepts_scalar_scalar] at h ⊢
          exact Scalar.accepts_of_laxer hdates fit k j h
      | row s o ts =>
          rw [accepts_row_scalar_iff] at h ⊢
          exact h
  | row s' o' us ih =>
      intro t h
      cases t with
      | scalar k => simp at h
      | row s o ts =>
          rw [accepts_row_iff] at h ⊢
          refine ⟨h.1, ?_⟩
          intro n u hu
          obtain ⟨t, ht, htu⟩ := h.2 n u hu
          exact ⟨t, ht, ih n u hu t htu⟩

theorem suits_of_laxer
    (t u : DataType)
    (h : t.suits d u = true) :
    t.suits d' u = true := by
  cases u with
  | scalar j =>
      cases t with
      | scalar k =>
          simp only [suits, Scalar.coerce?_isSome_iff] at h ⊢
          exact h.imp_left (Scalar.accepts_of_laxer hdates .loose k j)
      | row s o ts => exact h
  | row s' o' us =>
      cases t with
      | scalar k => exact h
      | row s o ts => exact h

/-- What can be converted can be converted under a laxer dialect. -/
theorem coerce?_isSome_of_laxer
    (t u : DataType)
    (h : (t.coerce? d u).isSome = true) :
    (t.coerce? d' u).isSome = true := by
  rw [coerce?_isSome_iff] at h ⊢
  exact ⟨h.1, h.2.mono (suits_of_laxer hdates)⟩

/-- Under a laxer dialect a union without conflict is the same, and is one without conflict. -/
theorem unite_of_laxer (a : DataType) :
    ∀ b : DataType, a.conflicts d b = [] →
      a.conflicts d' b = [] ∧ a.unite d' b = a.unite d b := by
  induction a using DataType.induction with
  | scalar i =>
      intro b h
      cases b with
      | scalar j =>
          obtain ⟨k, hk⟩ := (conflicts_scalar_scalar_eq_nil_iff d i j).1 h
          simp [hk, Scalar.unite?_of_laxer hdates i j k hk]
      | row s o gs =>
          rw [conflicts_scalar_row] at h ⊢
          exact ⟨h, by rw [unite_scalar_row, unite_scalar_row]⟩
  | row s o fs ih =>
      intro b h
      cases b with
      | scalar j =>
          rw [conflicts_row_scalar] at h ⊢
          exact ⟨h, by rw [unite_row_scalar, unite_row_scalar]⟩
      | row s' o' gs =>
          obtain ⟨hkind, hfree⟩ := (conflicts_row_row_eq_nil_iff d s s' o o' fs gs).1 h
          rw [conflicts_row_row_eq_nil_iff, unite_row_row d s s' o o' fs gs hkind,
            unite_row_row d' s s' o o' fs gs hkind]
          refine ⟨⟨hkind, fun n x y hx hy => (ih n x hx y (hfree n x y hx hy)).1⟩, ?_⟩
          congr 1
          apply Fields.ext_find?
          intro n
          rw [Fields.find?_unite, Fields.find?_unite]
          cases hx : fs.find? n with
          | none => rfl
          | some x =>
              cases hy : gs.find? n with
              | none => rfl
              | some y => simp only [(ih n x hx y (hfree n x y hx hy)).2]

end DataType

end Laxer

theorem Scalar.coerce?_congr
    {d d' : Dialect}
    (hdates : d.legacyDates = d'.legacyDates)
    (t s : Scalar) :
    t.coerce? d s = t.coerce? d' s := by
  simp only [coerce?, accepts, sameDates, hdates]

namespace DataType

theorem accepts_congr
    {d d' : Dialect}
    (hdates : d.legacyDates = d'.legacyDates)
    (fit : Fit)
    (t u : DataType) :
    t.accepts d fit u = t.accepts d' fit u := by
  rw [Bool.eq_iff_iff]
  exact ⟨accepts_of_laxer (fun h => hdates ▸ h) fit u t,
    accepts_of_laxer (fun h => hdates ▸ h) fit u t⟩

/-- A conversion sees of the dialect its dates, and of the expected type what is left when it is
bare. -/
theorem coerce?_congr
    {d d' : Dialect}
    (hdates : d.legacyDates = d'.legacyDates)
    (u : DataType) :
    ∀ a b c : DataType, a.bare = b.bare → a.coerce? d u = some c → b.coerce? d' u = some c := by
  induction u using DataType.induction with
  | scalar j =>
      intro a b c hab h
      cases a with
      | scalar k =>
          obtain rfl := (bare_eq_scalar_iff b k).1 hab.symm
          rw [coerce?_scalar_scalar, ← Scalar.coerce?_congr hdates, ← coerce?_scalar_scalar]
          exact h
      | row s o fs =>
          cases b with
          | scalar k => simp [bare] at hab
          | row s' o' gs =>
              rw [coerce?_row_scalar] at h ⊢
              exact h
  | row s₀ o₀ us ih =>
      intro a b c hab h
      cases a with
      | scalar k => simp [coerce?_scalar_row] at h
      | row s o fs =>
          cases b with
          | scalar k => simp [bare] at hab
          | row s' o' gs =>
              obtain ⟨hshape, hfields⟩ := (bare_row_eq_iff s s' o o' fs gs).1 hab
              obtain ⟨cs, hkind, hcs, rfl⟩ := coerce?_row_eq_some d s s₀ o o₀ fs us c h
              have hcs' : gs.coerceAll? d' us = some cs := by
                rw [Fields.coerceAll?_eq_some_iff] at hcs ⊢
                intro n
                refine (hcs n).imp_right ?_
                rintro ⟨u, t, c, hu, ht, hc, hcn⟩
                have hn := hfields n
                rw [ht, Option.map_some] at hn
                obtain ⟨t', ht', hbare⟩ := Option.map_eq_some_iff.1 hn.symm
                exact ⟨u, t', c, hu, ht', ih n u hu t t' c hbare.symm hc, hcn⟩
              rw [coerce?_row_row d' s' s₀ o' o₀ gs us (hshape ▸ hkind), hcs', Option.map_some]

end DataType

end RowPatch
