import RowPatch.Proofs.Schema.ErrorFree
import RowPatch.Proofs.Schema.Union

/-!
# Union as least upper bound

Loose acceptance orders the types without errors, from `Blank` upwards.  Where two of them have a
common upper bound, their union is the least one; where they have none, they conflict.

**Results.**
* `DataType.accepts_unite_of_conflicts_eq_nil`: a union without conflict accepts both sides.
* `DataType.union_eq_ok_iff`: when there is a union, and what it is.
* `union_is_least_upper_bound`: the union is the least type that accepts both sides.
-/

namespace RowPatch

/-- A union of two scalar types accepts both of them. -/
theorem Scalar.accepts_of_unite?
    (d : Dialect)
    (s t u : Scalar)
    (hs : s ≠ error)
    (ht : t ≠ error)
    (h : s.unite? d t = some u) :
    u.accepts d .loose s = true ∧ u.accepts d .loose t = true := by
  rw [accepts_loose_iff, accepts_loose_iff]
  rw [unite?_eq] at h
  split at h
  · rename_i hrep
    cases Option.some.inj h
    exact ⟨⟨hs, Or.inr rfl⟩, ⟨hs, Or.inr hrep⟩⟩
  · split at h
    · rename_i hblank
      cases Option.some.inj h
      exact ⟨⟨ht, Or.inl hblank⟩, ⟨ht, Or.inr rfl⟩⟩
    · split at h
      · rename_i hblank
        cases Option.some.inj h
        exact ⟨⟨hs, Or.inr rfl⟩, ⟨hs, Or.inl hblank⟩⟩
      · exact absurd h (by simp)

namespace DataType

/-- Two rows do not conflict when they are of one kind and the types under their common names do
not conflict. -/
theorem conflicts_row_row_eq_nil_iff
    (d : Dialect)
    (s s' : Shape)
    (o o' : SortedSet Origin)
    (fs gs : Fields none) :
    (row s o fs).conflicts d (row s' o' gs) = [] ↔
      s.plain = s'.plain ∧
        ∀ n x y, fs.find? n = some x → gs.find? n = some y → x.conflicts d y = [] := by
  by_cases hkind : s.plain = s'.plain
  · rw [conflicts_row_row d s s' o o' fs gs hkind, Fields.conflicts_eq_nil_iff]
    simp [hkind]
  · rw [conflicts, if_neg (by rw [Shape.sameKind_iff]; exact hkind)]
    simp [hkind]

/-- There is a union when nothing conflicts. -/
theorem union_eq_ok_iff
    (d : Dialect)
    (a b u : DataType) :
    a.union d b = .ok u ↔ a.conflicts d b = [] ∧ a.unite d b = u := by
  unfold union
  split
  · rename_i h
    simp [h]
  · rename_i h
    simp [h]

/-- A union without conflict accepts both sides. -/
theorem accepts_unite_of_conflicts_eq_nil
    (d : Dialect)
    (a : DataType) :
    ∀ b : DataType, a.containsError = false → b.containsError = false → a.conflicts d b = [] →
      (a.unite d b).accepts d .loose a = true ∧ (a.unite d b).accepts d .loose b = true := by
  induction a using DataType.induction with
  | scalar i =>
      intro b ha hb h
      cases b with
      | scalar j =>
          rw [containsError_scalar_eq_false_iff] at ha hb
          obtain ⟨k, hk⟩ := (conflicts_scalar_scalar_eq_nil_iff d i j).1 h
          simpa [hk] using Scalar.accepts_of_unite? d i j k ha hb hk
      | row s o gs =>
          obtain rfl : i = .blank := by simpa using h
          rw [unite_scalar_row, if_pos rfl, accepts_row_scalar_iff, accepts_self_iff]
          exact ⟨⟨rfl, rfl⟩, hb⟩
  | row s o fs ih =>
      intro b ha hb h
      cases b with
      | scalar j =>
          obtain rfl : j = .blank := by simpa using h
          rw [unite_row_scalar, if_pos rfl, accepts_row_scalar_iff, accepts_self_iff]
          exact ⟨ha, ⟨rfl, rfl⟩⟩
      | row s' o' gs =>
          obtain ⟨hkind, hfields⟩ := (conflicts_row_row_eq_nil_iff d s s' o o' fs gs).1 h
          rw [containsError_row_eq_false_iff] at ha hb
          rw [unite_row_row d s s' o o' fs gs hkind, accepts_row_iff, accepts_row_iff,
            Shape.plain_join]
          -- a name of one side only keeps its type, which fits itself
          refine ⟨⟨rfl, ?_⟩, ⟨hkind, ?_⟩⟩
          · intro n x hx
            rw [Fields.find?_unite, hx]
            cases hy : gs.find? n with
            | none => exact ⟨x, rfl, (accepts_self_iff d .loose x).2 (ha n x hx)⟩
            | some y =>
                exact ⟨x.unite d y, rfl,
                  (ih n x hx y (ha n x hx) (hb n y hy) (hfields n x y hx hy)).1⟩
          · intro n y hy
            rw [Fields.find?_unite, hy]
            cases hx : fs.find? n with
            | none => exact ⟨y, rfl, (accepts_self_iff d .loose y).2 (hb n y hy)⟩
            | some x =>
                exact ⟨x.unite d y, rfl,
                  (ih n x hx y (ha n x hx) (hb n y hy) (hfields n x y hx hy)).2⟩

end DataType

/-- Two types without errors have a union exactly when some type loosely accepts both, and the union
is then the least such type. -/
theorem union_is_least_upper_bound
    (d : Dialect)
    (a b : DataType)
    (ha : a.containsError = false)
    (hb : b.containsError = false) :
    ((∃ u, a.union d b = .ok u) ↔
        ∃ t : DataType, t.accepts d .loose a = true ∧ t.accepts d .loose b = true) ∧
      ∀ u, a.union d b = .ok u →
        u.accepts d .loose a = true ∧ u.accepts d .loose b = true ∧
          ∀ t : DataType, t.accepts d .loose a = true → t.accepts d .loose b = true →
            t.accepts d .loose u = true := by
  have hbound : ∀ u, a.union d b = .ok u →
      u.accepts d .loose a = true ∧ u.accepts d .loose b = true := by
    intro u hu
    obtain ⟨hconflicts, rfl⟩ := (DataType.union_eq_ok_iff d a b u).1 hu
    exact DataType.accepts_unite_of_conflicts_eq_nil d a b ha hb hconflicts
  refine ⟨⟨?_, ?_⟩, ?_⟩
  · rintro ⟨u, hu⟩
    exact ⟨u, hbound u hu⟩
  · rintro ⟨t, hta, htb⟩
    exact ⟨a.unite d b, (DataType.union_eq_ok_iff d a b _).2
      ⟨DataType.conflicts_eq_nil_of_common d t a b hta htb, rfl⟩⟩
  · intro u hu
    refine ⟨(hbound u hu).1, (hbound u hu).2, ?_⟩
    intro t hta htb
    obtain ⟨-, rfl⟩ := (DataType.union_eq_ok_iff d a b u).1 hu
    exact DataType.accepts_unite d t a b hta htb

/-- Two orders, one with a blank price, the other with the lines of a failed table, have a union
below an order that accepts both. -/
theorem union_of_orders :
    let d : Dialect := { legacyDates := true }
    let order (price : Scalar) (failed : Bool) (lines : List (String × DataType)) : DataType :=
      .record ∅ (.ofList [("price", .scalar price), ("lines", .table failed ∅ (.ofList lines))])
    let a := order .blank false [("day", .scalar .date), ("count", .scalar .number)]
    let b := order .decimal true [("day", .scalar .dateTime), ("item", .scalar .text)]
    let t := order .number false
      [("day", .scalar .dateTime), ("count", .scalar .decimal), ("item", .scalar .text)]
    a.containsError = false ∧ b.containsError = false ∧
      t.accepts d .loose a = true ∧ t.accepts d .loose b = true ∧
      ∃ u, a.union d b = .ok u ∧ u.accepts d .loose a = true ∧ u.accepts d .loose b = true ∧
        t.accepts d .loose u = true := by
  intro d order a b t
  have ha : a.containsError = false := by decide +kernel
  have hb : b.containsError = false := by decide +kernel
  have hta : t.accepts d .loose a = true := by decide +kernel
  have htb : t.accepts d .loose b = true := by decide +kernel
  obtain ⟨hexists, hleast⟩ := union_is_least_upper_bound d a b ha hb
  obtain ⟨u, hu⟩ := hexists.2 ⟨t, hta, htb⟩
  obtain ⟨hua, hub, htu⟩ := hleast u hu
  exact ⟨ha, hb, hta, htb, u, hu, hua, hub, htu t hta htb⟩

end RowPatch
