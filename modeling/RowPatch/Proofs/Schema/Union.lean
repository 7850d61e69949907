import RowPatch.Proofs.Schema.Bare
import RowPatch.Schema.Union

/-!
# Laws of union

What a union does when some type loosely accepts its sides.

**Results.**
* `DataType.conflicts_eq_nil_of_accepts`, `DataType.bare_unite_of_accepts`: a type absorbs what it
  accepts.  Nothing conflicts, and but for origins and marks the type stays as it was.
* `DataType.conflicts_eq_nil_of_common`, `DataType.accepts_unite`: two types that a third accepts do
  not conflict, and it accepts their union.
* `DataType.unite_right_comm`: the order in which a type absorbs two others does not matter.
-/

namespace RowPatch

namespace Shape

/-- The shape of the union of two rows of one kind. -/
def join : Shape → Shape → Shape
  | .table failed, .table failed' => .table (failed || failed')
  | s, _ => s

theorem unite?_eq_some
    (s t : Shape)
    (h : s.plain = t.plain) :
    s.unite? t = some (s.join t) := by
  cases s <;> cases t <;> simp [plain] at h <;> rfl

@[simp] theorem plain_join (s t : Shape) : (s.join t).plain = s.plain := by
  cases s <;> cases t <;> rfl

theorem join_right_comm (s t t' : Shape) : (s.join t).join t' = (s.join t').join t := by
  cases s <;> cases t <;> cases t' <;> simp [join, Bool.or_right_comm]

/-- Shapes of one kind join in either order. -/
theorem join_comm
    (s t : Shape)
    (h : s.plain = t.plain) :
    s.join t = t.join s := by
  cases s <;> cases t <;> simp [plain, join, Bool.or_comm] at h ⊢

theorem join_assoc
    (s t u : Shape)
    (h : s.plain = t.plain) :
    (s.join t).join u = s.join (t.join u) := by
  cases s <;> cases t <;> cases u <;> simp [plain, join, Bool.or_assoc] at h ⊢

end Shape

namespace SortedSet

variable {α : Type} [Keyed α]

theorem union_comm (a b : SortedSet α) : a ∪ b = b ∪ a := by
  apply ext_mem
  intro x
  rw [mem_union, mem_union]
  exact or_comm

theorem union_assoc (a b c : SortedSet α) : a ∪ b ∪ c = a ∪ (b ∪ c) := by
  apply ext_mem
  intro x
  simp only [mem_union]
  exact or_assoc

theorem union_right_comm (a b c : SortedSet α) : a ∪ b ∪ c = a ∪ c ∪ b := by
  rw [union_assoc, union_comm b c, ← union_assoc]

end SortedSet

namespace Scalar

/-- Two scalar types unite when the dialect does not tell them apart or one of them is `Blank`. -/
theorem unite?_eq
    (d : Dialect)
    (s t : Scalar) :
    s.unite? d t =
      if s.rep d = t.rep d then some s
      else if s = blank then some t
      else if t = blank then some s
      else none := by
  cases h : d.legacyDates <;> cases s <;> cases t <;>
    simp [unite?, sameDates, isDated, isNumeric, rep, h]

/-- A scalar type stays as it is when it is united with one that it accepts. -/
theorem unite?_of_accepts
    (d : Dialect)
    (s t : Scalar)
    (h : s.accepts d .loose t = true) :
    s.unite? d t = some s := by
  rw [accepts_loose_iff] at h
  rw [unite?_eq]
  by_cases hrep : s.rep d = t.rep d
  · rw [if_pos hrep]
  · obtain rfl : t = blank := h.2.resolve_right hrep
    have hs : s ≠ blank := by
      rintro rfl
      exact hrep rfl
    rw [if_neg hrep, if_neg hs, if_pos rfl]

/-- Two scalar types that a third accepts unite to a type that it accepts. -/
theorem unite?_of_common
    (d : Dialect)
    (r s t : Scalar)
    (hs : r.accepts d .loose s = true)
    (ht : r.accepts d .loose t = true) :
    ∃ u, s.unite? d t = some u ∧ r.accepts d .loose u = true := by
  have hs' := (accepts_loose_iff d r s).1 hs
  have ht' := (accepts_loose_iff d r t).1 ht
  rw [unite?_eq]
  by_cases hrep : s.rep d = t.rep d
  · exact ⟨s, if_pos hrep, hs⟩
  · by_cases hsb : s = blank
    · exact ⟨t, by rw [if_neg hrep, if_pos hsb], ht⟩
    · by_cases htb : t = blank
      · exact ⟨s, by rw [if_neg hrep, if_neg hsb, if_pos htb], hs⟩
      · have hrs := hs'.2.resolve_left hsb
        have hrt := ht'.2.resolve_left htb
        exact absurd (hrs.symm.trans hrt) hrep

end Scalar

namespace DataType

@[simp] theorem conflicts_scalar_scalar
    (d : Dialect)
    (s t : Scalar) :
    (scalar s).conflicts d (scalar t) = if (s.unite? d t).isSome then [] else [[]] := by
  rw [conflicts]

theorem conflicts_scalar_scalar_eq_nil_iff
    (d : Dialect)
    (s t : Scalar) :
    (scalar s).conflicts d (scalar t) = [] ↔ ∃ k, s.unite? d t = some k := by
  rw [conflicts_scalar_scalar, ← Option.isSome_iff_exists]
  by_cases h : (s.unite? d t).isSome = true <;> simp [h]

@[simp] theorem conflicts_row_scalar
    (d : Dialect)
    (s : Shape)
    (o : SortedSet Origin)
    (fs : Fields none)
    (t : Scalar) :
    (row s o fs).conflicts d (scalar t) = if t = .blank then [] else [[]] := by
  rw [conflicts]

@[simp] theorem conflicts_scalar_row
    (d : Dialect)
    (s : Scalar)
    (s' : Shape)
    (o : SortedSet Origin)
    (gs : Fields none) :
    (scalar s).conflicts d (row s' o gs) = if s = .blank then [] else [[]] := by
  rw [conflicts]

theorem conflicts_row_row
    (d : Dialect)
    (s s' : Shape)
    (o o' : SortedSet Origin)
    (fs gs : Fields none)
    (h : s.plain = s'.plain) :
    (row s o fs).conflicts d (row s' o' gs) = fs.conflicts d gs := by
  rw [conflicts, if_pos ((Shape.sameKind_iff s s').2 h)]

@[simp] theorem unite_scalar_scalar
    (d : Dialect)
    (s t : Scalar) :
    (scalar s).unite d (scalar t) = scalar ((s.unite? d t).getD .error) := by
  rw [unite]

@[simp] theorem unite_row_scalar
    (d : Dialect)
    (s : Shape)
    (o : SortedSet Origin)
    (fs : Fields none)
    (t : Scalar) :
    (row s o fs).unite d (scalar t) = if t = .blank then row s o fs else error := by
  rw [unite]

@[simp] theorem unite_scalar_row
    (d : Dialect)
    (s : Scalar)
    (s' : Shape)
    (o : SortedSet Origin)
    (gs : Fields none) :
    (scalar s).unite d (row s' o gs) = if s = .blank then row s' o gs else error := by
  rw [unite]

theorem unite_row_row
    (d : Dialect)
    (s s' : Shape)
    (o o' : SortedSet Origin)
    (fs gs : Fields none)
    (h : s.plain = s'.plain) :
    (row s o fs).unite d (row s' o' gs) = row (s.join s') (o ∪ o') (fs.unite d gs) := by
  rw [unite, Shape.unite?_eq_some s s' h]

/-- A type does not conflict with what it accepts. -/
theorem conflicts_eq_nil_of_accepts
    (d : Dialect)
    (u : DataType) :
    ∀ t : DataType, t.accepts d .loose u = true → t.conflicts d u = [] := by
  induction u using DataType.induction with
  | scalar k =>
      intro t h
      cases t with
      | scalar j =>
          rw [accepts_scalar_scalar] at h
          simp [Scalar.unite?_of_accepts d j k h]
      | row s o fs =>
          obtain ⟨-, rfl⟩ := (accepts_row_scalar_iff d .loose k s o fs).1 h
          simp
  | row s o us ih =>
      intro t h
      cases t with
      | scalar j => simp at h
      | row s' o' ts =>
          rw [accepts_row_iff] at h
          rw [conflicts_row_row d s' s o' o ts us h.1, Fields.conflicts_eq_nil_iff]
          intro n t u ht hu
          exact ih n u hu t (accepts_of_found h.2 ht hu)

/-- But for origins and marks, a type stays as it is when it is united with what it accepts. -/
theorem bare_unite_of_accepts
    (d : Dialect)
    (u : DataType) :
    ∀ t : DataType, t.accepts d .loose u = true → (t.unite d u).bare = t.bare := by
  induction u using DataType.induction with
  | scalar k =>
      intro t h
      cases t with
      | scalar j =>
          rw [accepts_scalar_scalar] at h
          simp [Scalar.unite?_of_accepts d j k h]
      | row s o fs =>
          obtain ⟨-, rfl⟩ := (accepts_row_scalar_iff d .loose k s o fs).1 h
          simp
  | row s o us ih =>
      intro t h
      cases t with
      | scalar j => simp at h
      | row s' o' ts =>
          rw [accepts_row_iff] at h
          rw [unite_row_row d s' s o' o ts us h.1, bare_row_eq_iff]
          refine ⟨Shape.plain_join s' s, ?_⟩
          intro n
          rw [Fields.find?_unite]
          cases hu : us.find? n with
          | none => cases ts.find? n <;> rfl
          | some u =>
              obtain ⟨t, ht, htu⟩ := h.2 n u hu
              simp only [ht, Option.map_some, ih n u hu t htu]

/-- Two types that a third accepts do not conflict. -/
theorem conflicts_eq_nil_of_common
    (d : Dialect)
    (r : DataType) :
    ∀ a b : DataType, r.accepts d .loose a = true → r.accepts d .loose b = true →
      a.conflicts d b = [] := by
  induction r using DataType.induction with
  | scalar k =>
      intro a b ha hb
      cases a with
      | row s o fs => simp at ha
      | scalar i =>
          cases b with
          | row s o fs => simp at hb
          | scalar j =>
              rw [accepts_scalar_scalar] at ha hb
              obtain ⟨u, hu, _⟩ := Scalar.unite?_of_common d k i j ha hb
              simp [hu]
  | row s o rs ih =>
      intro a b ha hb
      cases a with
      | scalar i =>
          obtain ⟨-, rfl⟩ := (accepts_row_scalar_iff d .loose i s o rs).1 ha
          cases b with
          | scalar j =>
              obtain ⟨-, rfl⟩ := (accepts_row_scalar_iff d .loose j s o rs).1 hb
              simp [Scalar.unite?_eq]
          | row s₂ o₂ gs => simp
      | row s₁ o₁ fs =>
          cases b with
          | scalar j =>
              obtain ⟨-, rfl⟩ := (accepts_row_scalar_iff d .loose j s o rs).1 hb
              simp
          | row s₂ o₂ gs =>
              rw [accepts_row_iff] at ha hb
              have hkind : s₁.plain = s₂.plain := ha.1.symm.trans hb.1
              rw [conflicts_row_row d s₁ s₂ o₁ o₂ fs gs hkind, Fields.conflicts_eq_nil_iff]
              intro n x y hx hy
              obtain ⟨t, ht, htx⟩ := ha.2 n x hx
              exact ih n t ht x y htx (accepts_of_found hb.2 ht hy)

/-- A type that accepts two types accepts their union. -/
theorem accepts_unite
    (d : Dialect)
    (r : DataType) :
    ∀ a b : DataType, r.accepts d .loose a = true → r.accepts d .loose b = true →
      r.accepts d .loose (a.unite d b) = true := by
  induction r using DataType.induction with
  | scalar k =>
      intro a b ha hb
      cases a with
      | row s o fs => simp at ha
      | scalar i =>
          cases b with
          | row s o fs => simp at hb
          | scalar j =>
              rw [accepts_scalar_scalar] at ha hb
              obtain ⟨u, hu, hru⟩ := Scalar.unite?_of_common d k i j ha hb
              simpa [hu] using hru
  | row s o rs ih =>
      intro a b ha hb
      cases a with
      | scalar i =>
          obtain ⟨-, rfl⟩ := (accepts_row_scalar_iff d .loose i s o rs).1 ha
          cases b with
          | scalar j =>
              obtain ⟨-, rfl⟩ := (accepts_row_scalar_iff d .loose j s o rs).1 hb
              simpa [Scalar.unite?_eq] using ha
          | row s₂ o₂ gs => simpa using hb
      | row s₁ o₁ fs =>
          cases b with
          | scalar j =>
              obtain ⟨-, rfl⟩ := (accepts_row_scalar_iff d .loose j s o rs).1 hb
              simpa using ha
          | row s₂ o₂ gs =>
              rw [accepts_row_iff] at ha hb
              have hkind : s₁.plain = s₂.plain := ha.1.symm.trans hb.1
              rw [unite_row_row d s₁ s₂ o₁ o₂ fs gs hkind, accepts_row_iff, Shape.plain_join]
              refine ⟨ha.1, ?_⟩
              intro n z hz
              rw [Fields.find?_unite] at hz
              cases hx : fs.find? n with
              | none =>
                  simp only [hx] at hz
                  exact hb.2 n z hz
              | some x =>
                  cases hy : gs.find? n with
                  | none =>
                      simp only [hx, hy] at hz
                      exact ha.2 n z (hx.trans hz)
                  | some y =>
                      simp only [hx, hy, Option.some.injEq] at hz
                      subst hz
                      obtain ⟨t, ht, htx⟩ := ha.2 n x hx
                      exact ⟨t, ht, ih n t ht x y htx (accepts_of_found hb.2 ht hy)⟩

/-- The order in which a type absorbs two types that it accepts does not matter. -/
theorem unite_right_comm
    (d : Dialect)
    (r : DataType) :
    ∀ a b : DataType, r.accepts d .loose a = true → r.accepts d .loose b = true →
      (r.unite d a).unite d b = (r.unite d b).unite d a := by
  induction r using DataType.induction with
  | scalar k =>
      intro a b ha hb
      cases a with
      | row s o fs => simp at ha
      | scalar i =>
          cases b with
          | row s o fs => simp at hb
          | scalar j =>
              rw [accepts_scalar_scalar] at ha hb
              simp [Scalar.unite?_of_accepts d k i ha, Scalar.unite?_of_accepts d k j hb]
  | row s o rs ih =>
      intro a b ha hb
      cases a with
      | scalar i =>
          obtain ⟨-, rfl⟩ := (accepts_row_scalar_iff d .loose i s o rs).1 ha
          cases b with
          | scalar j =>
              obtain ⟨-, rfl⟩ := (accepts_row_scalar_iff d .loose j s o rs).1 hb
              rfl
          | row s₂ o₂ gs =>
              rw [accepts_row_iff] at hb
              simp [unite_row_row d s s₂ o o₂ rs gs hb.1]
      | row s₁ o₁ fs =>
          rw [accepts_row_iff] at ha
          cases b with
          | scalar j =>
              obtain ⟨-, rfl⟩ := (accepts_row_scalar_iff d .loose j s o rs).1 hb
              simp [unite_row_row d s s₁ o o₁ rs fs ha.1]
          | row s₂ o₂ gs =>
              rw [accepts_row_iff] at hb
              rw [unite_row_row d s s₁ o o₁ rs fs ha.1, unite_row_row d s s₂ o o₂ rs gs hb.1,
                unite_row_row d (s.join s₁) s₂ (o ∪ o₁) o₂ (rs.unite d fs) gs
                  (by rw [Shape.plain_join, hb.1]),
                unite_row_row d (s.join s₂) s₁ (o ∪ o₂) o₁ (rs.unite d gs) fs
                  (by rw [Shape.plain_join, ha.1]),
                Shape.join_right_comm, SortedSet.union_right_comm]
              congr 1
              apply Fields.ext_find?
              intro n
              rw [Fields.find?_unite, Fields.find?_unite, Fields.find?_unite, Fields.find?_unite]
              cases hx : fs.find? n with
              | none => cases rs.find? n <;> cases gs.find? n <;> rfl
              | some x =>
                  obtain ⟨t, ht, htx⟩ := ha.2 n x hx
                  cases hy : gs.find? n with
                  | none => simp only [ht]
                  | some y =>
                      have hty := accepts_of_found hb.2 ht hy
                      simp only [ht, ih n t ht x y htx hty]

end DataType

end RowPatch
