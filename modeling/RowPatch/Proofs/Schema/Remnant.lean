import RowPatch.Proofs.Schema.Paths

/-!
# What conflicts leave behind

After a conflict a union has `Error` where the two sides did not agree.  A type that goes on to
absorb others is then a remnant of the type that it was at first: an `Error` in it stays and
conflicts with all that would have fitted there.

**Results.**
* `DataType.scalar_absorbs_or_spoils`, `DataType.row_absorbs_or_spoils`: a type other than `Blank`
  goes on as what it is, or becomes `Error`.
* `DataType.Remnant.unite`: what absorbs one more type is still a remnant.
* `DataType.Remnant.conflicts_unite_iff`: absorbing a type spoils what fits exactly when the type
  conflicts at a position that what fits has.
-/

namespace RowPatch

namespace Fields

/-- The positions in conflict lie under the common names. -/
theorem mem_conflicts_iff
    (d : Dialect)
    (fs : Fields none)
    (p : Path)
    {lo : Option String}
    (gs : Fields lo) :
    p ∈ fs.conflicts d gs ↔
      ∃ n s t q, fs.find? n = some s ∧ gs.find? n = some t ∧ q ∈ s.conflicts d t ∧ p = n :: q := by
  rw [conflicts_eq_pathsUnder, mem_pathsUnder_iff]
  constructor
  · rintro ⟨n, t, q, ht, hq, rfl⟩
    cases hs : fs.find? n with
    | none => simp [hs] at hq
    | some s =>
        rw [hs] at hq
        exact ⟨n, s, t, q, hs, ht, hq, rfl⟩
  · rintro ⟨n, s, t, q, hs, ht, hq, rfl⟩
    exact ⟨n, t, q, ht, by rw [hs]; exact hq, rfl⟩

end Fields

namespace DataType

/-- The type at a position inside a type. -/
def at? : DataType → Path → Option DataType
  | t, [] => some t
  | t, n :: p =>
      match t.fields?.bind (Fields.find? n) with
      | none => none
      | some u => u.at? p

@[simp] theorem at?_nil (t : DataType) : t.at? [] = some t := rfl

theorem at?_row_cons_eq_none_iff
    (s : Shape)
    (o : SortedSet Origin)
    (fs : Fields none)
    (n : String)
    (p : Path) :
    (row s o fs).at? (n :: p) = none ↔ ∀ t, fs.find? n = some t → t.at? p = none := by
  simp only [at?, fields?, Option.bind_some]
  cases fs.find? n <;> simp

variable (d : Dialect)

@[simp] theorem conflicts_blank (t : DataType) : t.conflicts d blank = [] := by
  cases t with
  | scalar k =>
      rw [conflicts_scalar_scalar, Scalar.unite?_eq]
      by_cases h : k = .blank <;> simp [h]
  | row s o fs => simp

@[simp] theorem blank_conflicts (t : DataType) : blank.conflicts d t = [] := by
  cases t with
  | scalar k =>
      rw [conflicts_scalar_scalar, Scalar.unite?_eq]
      by_cases h : Scalar.blank.rep d = k.rep d <;> simp [h]
  | row s o fs => simp

@[simp] theorem unite_blank (t : DataType) : t.unite d blank = t := by
  cases t with
  | scalar k =>
      rw [unite_scalar_scalar, Scalar.unite?_eq]
      by_cases hk : k = .blank <;> simp [hk]
  | row s o fs => simp

@[simp] theorem blank_unite (t : DataType) : blank.unite d t = t := by
  cases t with
  | scalar k =>
      rw [unite_scalar_scalar, Scalar.unite?_eq]
      by_cases h : Scalar.blank.rep d = k.rep d
      · rw [(Scalar.rep_eq_blank_iff d k).1 h.symm]
        simp
      · simp [h]
  | row s o fs => simp

@[simp] theorem error_unite (t : DataType) : error.unite d t = error := by
  cases t with
  | scalar k =>
      rw [unite_scalar_scalar, Scalar.unite?_eq]
      by_cases hk : k = .blank
      · simp [hk]
      · by_cases h : Scalar.error.rep d = k.rep d <;> simp [h, hk]
  | row s o fs => simp

/-- Scalar types other than `Blank` unite when the dialect does not tell them apart. -/
theorem unite_scalar_of_ne_blank
    (i j : Scalar)
    (hi : i ≠ .blank)
    (hj : j ≠ .blank) :
    (scalar i).unite d (scalar j) = if i.rep d = j.rep d then scalar i else error := by
  rw [unite_scalar_scalar, Scalar.unite?_eq]
  by_cases h : i.rep d = j.rep d <;> simp [h, hi, hj]

@[simp] theorem unite_error (t : DataType) : t.unite d error = error := by
  cases t with
  | scalar k =>
      by_cases hk : k = .blank
      · rw [hk, blank_unite]
      · rw [unite_scalar_of_ne_blank d k .error hk (by simp)]
        by_cases h : k.rep d = Scalar.error.rep d
        · rw [if_pos h, (Scalar.rep_eq_error_iff d k).1 h]
        · rw [if_neg h]
  | row s o fs => simp

/-- A scalar type other than `Blank` stays as it is or becomes `Error`. -/
theorem scalar_absorbs_or_spoils
    (k : Scalar)
    (hk : k ≠ .blank)
    (t : DataType) :
    ((scalar k).conflicts d t = [] ∧ (scalar k).unite d t = scalar k) ∨
      ((scalar k).conflicts d t = [[]] ∧ (scalar k).unite d t = error) := by
  cases t with
  | row s o fs => simp [hk]
  | scalar j =>
      rw [conflicts_scalar_scalar, unite_scalar_scalar, Scalar.unite?_eq]
      by_cases hrep : k.rep d = j.rep d
      · simp [hrep]
      · by_cases hj : j = .blank
        · simp [hj, hk]
        · simp [hrep, hj, hk]

/-- Rows of two kinds conflict as wholes. -/
theorem spoils_row_of_ne
    (s s' : Shape)
    (o o' : SortedSet Origin)
    (fs gs : Fields none)
    (h : s.plain ≠ s'.plain) :
    (row s o fs).conflicts d (row s' o' gs) = [[]] ∧
      (row s o fs).unite d (row s' o' gs) = error := by
  have hnone : s.unite? s' = none := by
    cases s <;> cases s' <;> simp [Shape.plain] at h <;> rfl
  rw [conflicts, unite, hnone, if_neg (by rw [Shape.sameKind_iff]; exact h)]
  exact ⟨rfl, rfl⟩

/-- A row absorbs `Blank` and the rows of its kind; anything else makes it an `Error`. -/
theorem row_absorbs_or_spoils
    (s : Shape)
    (t : DataType) :
    t = blank ∨ (∃ s' o' gs, t = row s' o' gs ∧ s.plain = s'.plain) ∨
      ∀ s₁ o₁ fs, s₁.plain = s.plain →
        (row s₁ o₁ fs).conflicts d t = [[]] ∧ (row s₁ o₁ fs).unite d t = error := by
  cases t with
  | scalar k =>
      by_cases hk : k = .blank
      · exact Or.inl (by rw [hk])
      · exact Or.inr (Or.inr (fun s₁ o₁ fs _ => by simp [hk]))
  | row s' o' gs =>
      by_cases hkind : s.plain = s'.plain
      · exact Or.inr (Or.inl ⟨s', o', gs, rfl, hkind⟩)
      · refine Or.inr (Or.inr ?_)
        intro s₁ o₁ fs h
        exact spoils_row_of_ne d s₁ s' o₁ o' fs gs (h ▸ hkind)

/-- `Error` conflicts with all that some type other than `Blank` accepts exactly. -/
theorem error_conflicts_ne_nil
    (r a : DataType)
    (hr : r ≠ blank)
    (ha : r.accepts d .exact a = true) :
    error.conflicts d a ≠ [] := by
  cases a with
  | row s o fs => simp
  | scalar j =>
      cases r with
      | row s o fs => exact absurd ((accepts_row_scalar_iff d .exact j s o fs).1 ha).1 (by simp)
      | scalar k =>
          rw [accepts_scalar_scalar] at ha
          have hk : k ≠ .blank := fun h => hr (by rw [h])
          obtain ⟨herror, hfits⟩ :=
            (Scalar.accepts_loose_iff d k j).1 (Scalar.accepts_loose_of_accepts d .exact k j ha)
          have hrep : k.rep d = j.rep d := by
            rcases (Scalar.accepts_exact_iff d k j).1 ha with h | ⟨-, rfl⟩
            · exact (Scalar.rep_eq_of_sameDates d k j h).2
            · rfl
          have hj : j ≠ .blank := by
            rintro rfl
            exact hk ((Scalar.rep_eq_blank_iff d k).1 hrep)
          have hne : Scalar.error.rep d ≠ j.rep d := by
            rw [← hrep]
            exact fun h => herror ((Scalar.rep_eq_error_iff d k).1 h.symm)
          rw [conflicts_scalar_scalar, Scalar.unite?_eq]
          simp [hne, hj]

/-- What is left of the first type after unions with any types. -/
inductive Remnant : DataType → DataType → Prop
  | blank (s : DataType) : Remnant .blank s
  | spoiled {r : DataType} (hr : r ≠ .blank) : Remnant r .error
  | scalar {k : Scalar} (hk : k ≠ .blank) : Remnant (.scalar k) (.scalar k)
  | row {s s' : Shape} {o o' : SortedSet Origin} {rs ss : Fields none}
      (hkind : s'.plain = s.plain)
      (hfound : ∀ n r, rs.find? n = some r → ∃ t, ss.find? n = some t)
      (hfields : ∀ n r t, rs.find? n = some r → ss.find? n = some t → Remnant r t) :
      Remnant (.row s o rs) (.row s' o' ss)

/-- The union of field lists spoils fitting fields when it does so under one of their names. -/
theorem fields_conflicts_unite_iff
    (s : Shape)
    (o : SortedSet Origin)
    (rs ss ts as : Fields none)
    (hnames : ∀ n y, as.find? n = some y → ∃ r x, rs.find? n = some r ∧ ss.find? n = some x ∧
      ∀ u, (x.unite d u).conflicts d y = [] ↔
        x.conflicts d y = [] ∧ ∀ q ∈ r.conflicts d u, y.at? q = none) :
    (ss.unite d ts).conflicts d as = [] ↔
      ss.conflicts d as = [] ∧ ∀ p ∈ rs.conflicts d ts, (row s o as).at? p = none := by
  rw [Fields.conflicts_eq_nil_iff, Fields.conflicts_eq_nil_iff]
  constructor
  · intro hall
    constructor
    · intro n x y hx hy
      obtain ⟨r, x', hr, hx', hstep⟩ := hnames n y hy
      cases Option.some.inj (hx.symm.trans hx')
      cases hu : ts.find? n with
      | none => exact hall n x y (by rw [Fields.find?_unite, hx, hu]) hy
      | some u => exact ((hstep u).1 (hall n _ y (by rw [Fields.find?_unite, hx, hu]) hy)).1
    · intro p hp
      obtain ⟨n, r, u, q, hr, hu, hq, rfl⟩ := (Fields.mem_conflicts_iff d rs p ts).1 hp
      rw [at?_row_cons_eq_none_iff]
      intro y hy
      obtain ⟨r', x, hr', hx, hstep⟩ := hnames n y hy
      cases Option.some.inj (hr.symm.trans hr')
      exact ((hstep u).1 (hall n _ y (by rw [Fields.find?_unite, hx, hu]) hy)).2 q hq
  · rintro ⟨hbefore, hclean⟩ n z y hz hy
    obtain ⟨r, x, hr, hx, hstep⟩ := hnames n y hy
    rw [Fields.find?_unite, hx] at hz
    cases hu : ts.find? n with
    | none =>
        simp only [hu, Option.some.injEq] at hz
        exact hz ▸ hbefore n x y hx hy
    | some u =>
        simp only [hu, Option.some.injEq] at hz
        rw [← hz, hstep u]
        refine ⟨hbefore n x y hx hy, ?_⟩
        intro q hq
        have hp : n :: q ∈ rs.conflicts d ts :=
          (Fields.mem_conflicts_iff d rs _ ts).2 ⟨n, r, u, q, hr, hu, hq, rfl⟩
        exact (at?_row_cons_eq_none_iff s o as n q).1 (hclean _ hp) y hy

namespace Remnant

theorem refl (r : DataType) : Remnant r r := by
  induction r using DataType.induction with
  | scalar k =>
      by_cases hk : k = .blank
      · rw [hk]
        exact .blank _
      · exact .scalar hk
  | row s o rs ih =>
      refine .row rfl (fun n r hr => ⟨r, hr⟩) ?_
      intro n r t hr ht
      cases Option.some.inj (hr.symm.trans ht)
      exact ih n r hr

/-- What absorbs one more type is still a remnant. -/
theorem unite
    {r s : DataType}
    (h : Remnant r s) :
    ∀ t : DataType, Remnant r (s.unite d t) := by
  induction h with
  | blank s => exact fun t => .blank _
  | spoiled hr =>
      intro t
      rw [error_unite]
      exact .spoiled hr
  | @scalar k hk =>
      intro t
      rcases scalar_absorbs_or_spoils d k hk t with ⟨-, h⟩ | ⟨-, h⟩
      · rw [h]
        exact .scalar hk
      · rw [h]
        exact .spoiled (by simpa using hk)
  | @row s s' o o' rs ss hkind hfound hfields ih =>
      intro t
      rcases row_absorbs_or_spoils d s t with rfl | ⟨s₁, o₁, ts, rfl, hs₁⟩ | h
      · rw [unite_row_scalar, if_pos rfl]
        exact .row hkind hfound hfields
      · rw [unite_row_row d s' s₁ o' o₁ ss ts (hkind.trans hs₁)]
        refine .row (by rw [Shape.plain_join, hkind]) ?_ ?_
        · intro n r hr
          obtain ⟨t, ht⟩ := hfound n r hr
          rw [Fields.find?_unite, ht]
          cases ts.find? n <;> simp
        · intro n r t hr ht
          obtain ⟨x, hx⟩ := hfound n r hr
          rw [Fields.find?_unite, hx] at ht
          cases hy : ts.find? n with
          | none =>
              simp only [hy, Option.some.injEq] at ht
              exact ht ▸ hfields n r x hr hx
          | some y =>
              simp only [hy, Option.some.injEq] at ht
              exact ht ▸ ih n r x hr hx y
      · rw [(h s' o' ss hkind).2]
        exact .spoiled (by simp)

/-- Absorbing a type spoils what fits exactly when the type conflicts, with the type that was there
at first, at a position that what fits has. -/
theorem conflicts_unite_iff
    {r s : DataType}
    (h : Remnant r s) :
    ∀ a t : DataType, r.accepts d .exact a = true →
      ((s.unite d t).conflicts d a = [] ↔
        s.conflicts d a = [] ∧ ∀ p ∈ r.conflicts d t, a.at? p = none) := by
  induction h with
  | blank s =>
      intro a t ha
      -- nothing but `Blank` fits `Blank` exactly
      have hblank : a = .blank := by
        cases a with
        | row s o fs => simp at ha
        | scalar k =>
            rw [accepts_scalar_scalar, Scalar.accepts_exact_iff] at ha
            rcases ha with h | ⟨-, rfl⟩
            · simp [Scalar.sameDates, Scalar.isDated] at h
            · rfl
      simp [hblank]
  | spoiled hr =>
      intro a t ha
      have hne := error_conflicts_ne_nil d _ a hr ha
      simp [hne]
  | @scalar k hk =>
      intro a t ha
      have hne := error_conflicts_ne_nil d (.scalar k) a (by simpa using hk) ha
      rcases scalar_absorbs_or_spoils d k hk t with ⟨hc, hu⟩ | ⟨hc, hu⟩
      · simp [hc, hu]
      · simp [hc, hu, hne]
  | @row s s' o o' rs ss hkind hfound hfields ih =>
      intro a t ha
      rcases row_absorbs_or_spoils d s t with rfl | ⟨s₁, o₁, ts, rfl, hs₁⟩ | h
      · simp
      · cases a with
        | scalar k => exact absurd ((accepts_row_scalar_iff d .exact k s o rs).1 ha).1 (by simp)
        | row s₂ o₂ as =>
            rw [accepts_row_iff] at ha
            rw [unite_row_row d s' s₁ o' o₁ ss ts (hkind.trans hs₁),
              conflicts_row_row d _ s₂ _ o₂ _ as (by rw [Shape.plain_join, hkind, ha.1]),
              conflicts_row_row d s' s₂ o' o₂ ss as (hkind.trans ha.1),
              conflicts_row_row d s s₁ o o₁ rs ts hs₁]
            apply fields_conflicts_unite_iff d s₂ o₂ rs ss ts as
            intro n y hy
            obtain ⟨r, hr, hry⟩ := ha.2 n y hy
            obtain ⟨x, hx⟩ := hfound n r hr
            exact ⟨r, x, hr, hx, fun u => ih n r x hr hx y u hry⟩
      · have hne := error_conflicts_ne_nil d (.row s o rs) a (by simp) ha
        have hr := h s o rs rfl
        rw [(h s' o' ss hkind).2, hr.1]
        simp [hne]

end Remnant

end DataType

end RowPatch
