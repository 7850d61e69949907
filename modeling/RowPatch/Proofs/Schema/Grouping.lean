import RowPatch.Proofs.Schema.Symmetry

/-!
# Grouping unions

A union of three types does not depend on which two are united first, neither in its result nor in
whether something conflicts on the way.  `Blank` adds nothing to a union, and `Error` leaves nothing
of the other side.

**Results.**
* `DataType.unite_assoc`: the result does not depend on the grouping.
* `DataType.conflicts_unite_iff`: a union without conflict agrees with what both of its sides agree
  with.
* `union_is_associative`: both for unions and for the best effort of conflicts.
-/

namespace RowPatch

theorem Scalar.exists_unite?_iff
    (d : Dialect)
    (s t : Scalar) :
    (∃ k, s.unite? d t = some k) ↔ s.rep d = t.rep d ∨ s = blank ∨ t = blank := by
  rw [← Option.isSome_iff_exists, unite?_eq]
  split
  · simp [*]
  · split
    · simp [*]
    · split
      · simp [*]
      · simp [*]

namespace Fields

variable (d : Dialect) (fs gs hs : Fields none)

/-- The grouping does not matter for field lists if it does not for the types of the first. -/
theorem unite_assoc
    (hfields : ∀ n x, fs.find? n = some x →
      ∀ y z, (x.unite d y).unite d z = x.unite d (y.unite d z)) :
    (fs.unite d gs).unite d hs = fs.unite d (gs.unite d hs) := by
  apply ext_find?
  intro n
  rw [find?_unite, find?_unite, find?_unite, find?_unite]
  cases hx : fs.find? n with
  | none => cases gs.find? n <;> cases hs.find? n <;> rfl
  | some x =>
      cases gs.find? n with
      | none => cases hs.find? n <;> rfl
      | some y =>
          cases hs.find? n with
          | none => rfl
          | some z => simp only [hfields n x hx y z]

/-- A union of field lists without conflict agrees with what both lists agree with if that holds for
the types of the first. -/
theorem conflicts_unite_iff
    (hfields : ∀ n x, fs.find? n = some x → ∀ y z, x.conflicts d y = [] →
      ((x.unite d y).conflicts d z = [] ↔ x.conflicts d z = [] ∧ y.conflicts d z = []))
    (hfree : fs.conflicts d gs = []) :
    (fs.unite d gs).conflicts d hs = [] ↔ fs.conflicts d hs = [] ∧ gs.conflicts d hs = [] := by
  rw [conflicts_eq_nil_iff] at hfree
  rw [conflicts_eq_nil_iff, conflicts_eq_nil_iff, conflicts_eq_nil_iff]
  constructor
  · intro hunion
    constructor
    · intro n x z hx hz
      cases hy : gs.find? n with
      | none => exact hunion n x z (by rw [find?_unite, hx, hy]) hz
      | some y =>
          have hxy := hunion n (x.unite d y) z (by rw [find?_unite, hx, hy]) hz
          exact ((hfields n x hx y z (hfree n x y hx hy)).1 hxy).1
    · intro n y z hy hz
      cases hx : fs.find? n with
      | none => exact hunion n y z (by rw [find?_unite, hx, hy]) hz
      | some x =>
          have hxy := hunion n (x.unite d y) z (by rw [find?_unite, hx, hy]) hz
          exact ((hfields n x hx y z (hfree n x y hx hy)).1 hxy).2
  · rintro ⟨hfirst, hsecond⟩ n w z hw hz
    rw [find?_unite] at hw
    cases hx : fs.find? n with
    | none =>
        simp only [hx] at hw
        exact hsecond n w z hw hz
    | some x =>
        cases hy : gs.find? n with
        | none =>
            simp only [hx, hy, Option.some.injEq] at hw
            exact hw ▸ hfirst n x z hx hz
        | some y =>
            simp only [hx, hy, Option.some.injEq] at hw
            exact hw ▸ (hfields n x hx y z (hfree n x y hx hy)).2
              ⟨hfirst n x z hx hz, hsecond n y z hy hz⟩

end Fields

namespace DataType

variable (d : Dialect)

theorem unite_assoc_scalar
    (i j k : Scalar)
    (hi : i ≠ .blank)
    (hj : j ≠ .blank)
    (hk : k ≠ .blank) :
    ((scalar i).unite d (scalar j)).unite d (scalar k) =
      (scalar i).unite d ((scalar j).unite d (scalar k)) := by
  rw [unite_scalar_of_ne_blank d i j hi hj, unite_scalar_of_ne_blank d j k hj hk]
  by_cases hij : i.rep d = j.rep d
  · by_cases hjk : j.rep d = k.rep d
    · rw [if_pos hij, if_pos hjk, unite_scalar_of_ne_blank d i k hi hk,
        unite_scalar_of_ne_blank d i j hi hj, if_pos (hij.trans hjk), if_pos hij]
    · rw [if_pos hij, if_neg hjk, unite_scalar_of_ne_blank d i k hi hk, unite_error, if_neg]
      exact fun hik => hjk (hij.symm.trans hik)
  · rw [if_neg hij, error_unite]
    by_cases hjk : j.rep d = k.rep d
    · rw [if_pos hjk, unite_scalar_of_ne_blank d i j hi hj, if_neg hij]
    · rw [if_neg hjk, unite_error]

/-- A row goes on as a row of its kind, or becomes `Error`. -/
theorem row_unite_cases
    (s : Shape)
    (o : SortedSet Origin)
    (fs : Fields none)
    (t : DataType) :
    (∃ s' o' gs, (row s o fs).unite d t = row s' o' gs ∧ s'.plain = s.plain) ∨
      (row s o fs).unite d t = error := by
  rcases row_absorbs_or_spoils d s t with rfl | ⟨s₁, o₁, gs, rfl, hs₁⟩ | hspoils
  · exact Or.inl ⟨s, o, fs, unite_blank d _, rfl⟩
  · exact Or.inl ⟨_, _, _, unite_row_row d s s₁ o o₁ fs gs hs₁, Shape.plain_join s s₁⟩
  · exact Or.inr (hspoils s o fs rfl).2

/-- The result of a union does not depend on the grouping. -/
theorem unite_assoc (a : DataType) :
    ∀ b c : DataType, (a.unite d b).unite d c = a.unite d (b.unite d c) := by
  induction a using DataType.induction with
  | scalar i =>
      intro b c
      by_cases hi : i = .blank
      · rw [hi, blank_unite, blank_unite]
      · cases b with
        | scalar j =>
            by_cases hj : j = .blank
            · rw [hj, unite_blank, blank_unite]
            · cases c with
              | scalar k =>
                  by_cases hk : k = .blank
                  · rw [hk, unite_blank, unite_blank]
                  · exact unite_assoc_scalar d i j k hi hj hk
              | row s o hs =>
                  rw [unite_scalar_row, if_neg hj, unite_error]
                  rcases scalar_absorbs_or_spoils d i hi (scalar j) with ⟨-, h⟩ | ⟨-, h⟩
                  · rw [h, unite_scalar_row, if_neg hi]
                  · rw [h, error_unite]
        | row s o gs =>
            rw [unite_scalar_row, if_neg hi, error_unite]
            rcases row_unite_cases d s o gs c with ⟨s', o', hs, h, -⟩ | h
            · rw [h, unite_scalar_row, if_neg hi]
            · rw [h, unite_error]
  | row s o fs ih =>
      intro b c
      cases b with
      | scalar j =>
          by_cases hj : j = .blank
          · rw [hj, unite_blank, blank_unite]
          · rw [unite_row_scalar, if_neg hj, error_unite]
            rcases scalar_absorbs_or_spoils d j hj c with ⟨-, h⟩ | ⟨-, h⟩
            · rw [h, unite_row_scalar, if_neg hj]
            · rw [h, unite_error]
      | row s' o' gs =>
          by_cases hkind : s.plain = s'.plain
          · rcases row_absorbs_or_spoils d s' c with rfl | ⟨s₁, o₁, hs, rfl, hs₁⟩ | hspoils
            · rw [unite_blank, unite_blank]
            · rw [unite_row_row d s s' o o' fs gs hkind, unite_row_row d s' s₁ o' o₁ gs hs hs₁,
                unite_row_row d _ s₁ _ o₁ _ hs (by rw [Shape.plain_join, hkind, hs₁]),
                unite_row_row d s _ o _ fs _ (by rw [Shape.plain_join, hkind]),
                Shape.join_assoc s s' s₁ hkind, SortedSet.union_assoc,
                Fields.unite_assoc d fs gs hs ih]
            · rw [unite_row_row d s s' o o' fs gs hkind, (hspoils s' o' gs rfl).2, unite_error,
                (hspoils _ _ _ (by rw [Shape.plain_join, hkind])).2]
          · rw [(spoils_row_of_ne d s s' o o' fs gs hkind).2, error_unite]
            rcases row_unite_cases d s' o' gs c with ⟨s₁, o₁, hs, h, hs₁⟩ | h
            · rw [h, (spoils_row_of_ne d s s₁ o o₁ fs hs (by rw [hs₁]; exact hkind)).2]
            · rw [h, unite_error]

/-- What a scalar type other than `Blank` agrees with agrees with each other. -/
theorem conflicts_eq_nil_of_scalar
    (i : Scalar)
    (hi : i ≠ .blank)
    (b c : DataType)
    (hb : (scalar i).conflicts d b = [])
    (hc : (scalar i).conflicts d c = []) :
    b.conflicts d c = [] := by
  cases b with
  | row s o gs => simp [hi] at hb
  | scalar j =>
      cases c with
      | row s o hs => simp [hi] at hc
      | scalar k =>
          rw [conflicts_scalar_scalar_eq_nil_iff, Scalar.exists_unite?_iff] at hb hc ⊢
          rcases hb with hij | hblank | hj
          · rcases hc with hik | hblank | hk
            · exact Or.inl (hij.symm.trans hik)
            · exact absurd hblank hi
            · exact Or.inr (Or.inr hk)
          · exact absurd hblank hi
          · exact Or.inr (Or.inl hj)

/-- A union without conflict agrees with what both of its sides agree with. -/
theorem conflicts_unite_iff (a : DataType) :
    ∀ b c : DataType, a.conflicts d b = [] →
      ((a.unite d b).conflicts d c = [] ↔ a.conflicts d c = [] ∧ b.conflicts d c = []) := by
  induction a using DataType.induction with
  | scalar i =>
      intro b c hb
      by_cases hi : i = .blank
      · rw [hi, blank_unite]
        simp
      · rcases scalar_absorbs_or_spoils d i hi b with ⟨-, h⟩ | ⟨h, -⟩
        · rw [h]
          exact (and_iff_left_of_imp (conflicts_eq_nil_of_scalar d i hi b c hb)).symm
        · exact absurd (h.symm.trans hb) (by simp)
  | row s o fs ih =>
      intro b c hb
      rcases row_absorbs_or_spoils d s b with rfl | ⟨s₁, o₁, gs, rfl, hs₁⟩ | hspoils
      · rw [unite_blank]
        simp
      · rw [unite_row_row d s s₁ o o₁ fs gs hs₁]
        rcases row_absorbs_or_spoils d s c with rfl | ⟨s₂, o₂, hs, rfl, hs₂⟩ | hspoils
        · simp
        · rw [conflicts_row_row d s s₁ o o₁ fs gs hs₁] at hb
          rw [conflicts_row_row d _ s₂ _ o₂ _ hs (by rw [Shape.plain_join, hs₂]),
            conflicts_row_row d s s₂ o o₂ fs hs hs₂,
            conflicts_row_row d s₁ s₂ o₁ o₂ gs hs (hs₁.symm.trans hs₂)]
          exact Fields.conflicts_unite_iff d fs gs hs ih hb
        · rw [(hspoils _ _ _ (Shape.plain_join s s₁)).1, (hspoils s o fs rfl).1]
          simp
      · exact absurd ((hspoils s o fs rfl).1.symm.trans hb) (by simp)

/-- Three types are united without conflict when no two of them conflict. -/
theorem free_iff_pairwise_free (a b c : DataType) :
    a.conflicts d b = [] ∧ (a.unite d b).conflicts d c = [] ↔
      a.conflicts d b = [] ∧ a.conflicts d c = [] ∧ b.conflicts d c = [] :=
  and_congr_right fun hab => conflicts_unite_iff d a b c hab

/-- Whether something conflicts on the way does not depend on the grouping. -/
theorem free_assoc (a b c : DataType) :
    a.conflicts d b = [] ∧ (a.unite d b).conflicts d c = [] ↔
      b.conflicts d c = [] ∧ a.conflicts d (b.unite d c) = [] := by
  rw [free_iff_pairwise_free, conflicts_comm d a (b.unite d c), free_iff_pairwise_free,
    conflicts_comm d b a, conflicts_comm d c a]
  constructor
  · rintro ⟨hab, hac, hbc⟩
    exact ⟨hbc, hab, hac⟩
  · rintro ⟨hbc, hab, hac⟩
    exact ⟨hab, hac, hbc⟩

end DataType

/-- Unions, with the best effort of a conflict going on in place of the union, do not depend on
their grouping: the result is the same, origins and marks included, and if one grouping meets no
conflict neither does the other.  `Blank` adds nothing on either side, and `Error` leaves nothing of
the other side. -/
theorem union_is_associative
    (d : Dialect)
    (a b c : DataType) :
    (a.bestUnion d b).bestUnion d c = a.bestUnion d (b.bestUnion d c) ∧
      (DataType.blank.bestUnion d a = a ∧ a.bestUnion d .blank = a) ∧
      (DataType.error.bestUnion d a = .error ∧ a.bestUnion d .error = .error) ∧
      ((∃ u, a.union d b = .ok u) ∧ (∃ u, (a.bestUnion d b).union d c = .ok u) ↔
        (∃ u, b.union d c = .ok u) ∧ ∃ u, a.union d (b.bestUnion d c) = .ok u) := by
  simp only [DataType.bestUnion_eq_unite]
  refine ⟨DataType.unite_assoc d a b c, ⟨DataType.blank_unite d a, DataType.unite_blank d a⟩,
    ⟨DataType.error_unite d a, DataType.unite_error d a⟩, ?_⟩
  simp only [DataType.exists_union_iff]
  exact DataType.free_assoc d a b c

end RowPatch
