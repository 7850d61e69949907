import RowPatch.Proofs.Schema.Union

/-!
# Paths in order

Positions are found depth first, the fields of each row by name.  This is the order of paths as
lists of names, so that the positions which are found make a set of paths in increasing order.

**Results.**
* `Fields.mem_pathsUnder_iff`, `Fields.pairwise_pathsUnder`: paths found field by field.
* `DataType.pairwise_conflicts`, `DataType.pairwise_missing`: positions in conflict and missing
  fields come in order, each of them once.
-/

namespace RowPatch

/-- A path is its own key, so that sets of paths are kept depth first. -/
instance : Keyed Path where
  key p := p
  key_inj _ _ h := h

namespace Fields

/-- The paths that are found for each field, led by the name of the field. -/
def pathsUnder (found : String → DataType → List Path) :
    {lo : Option String} → Fields lo → List Path
  | _, .nil => []
  | _, .cons n _ t rest => (found n t).map (n :: ·) ++ pathsUnder found rest

section PathsUnder

variable (found : String → DataType → List Path)

theorem mem_pathsUnder_iff (p : Path) :
    {lo : Option String} → (fs : Fields lo) →
      (p ∈ fs.pathsUnder found ↔
        ∃ n t q, fs.find? n = some t ∧ q ∈ found n t ∧ p = n :: q)
  | _, .nil => by simp [pathsUnder]
  | _, .cons m hm s rest => by
      have ih := mem_pathsUnder_iff p rest
      rw [pathsUnder, List.mem_append, ih]
      constructor
      · rintro (h | ⟨n, t, q, ht, hq, rfl⟩)
        · obtain ⟨q, hq, rfl⟩ := List.mem_map.1 h
          exact ⟨m, s, q, by simp [find?_cons], hq, rfl⟩
        · have hmn : m ≠ n := by
            rintro rfl
            rw [find?_self_tail] at ht
            exact absurd ht (by simp)
          exact ⟨n, t, q, by rw [find?_cons, if_neg hmn, ht], hq, rfl⟩
      · rintro ⟨n, t, q, ht, hq, rfl⟩
        rw [find?_cons] at ht
        split at ht
        · rename_i e
          subst e
          cases Option.some.inj ht
          exact Or.inl (List.mem_map_of_mem hq)
        · exact Or.inr ⟨n, t, q, ht, hq, rfl⟩

/-- Paths found field by field come in order when those of each field do. -/
theorem pairwise_pathsUnder :
    {lo : Option String} → (fs : Fields lo) →
      (∀ n t, fs.find? n = some t → (found n t).Pairwise (· < ·)) →
      (fs.pathsUnder found).Pairwise (· < ·)
  | _, .nil, _ => List.Pairwise.nil
  | _, .cons m hm s rest, h => by
      obtain ⟨hs, hrest⟩ := (forall_find?_cons m hm s rest).1 h
      rw [pathsUnder, List.pairwise_append]
      refine ⟨?_, pairwise_pathsUnder rest hrest, ?_⟩
      · rw [List.pairwise_map]
        exact hs.imp fun hpq => List.cons_lt_cons_iff.2 (Or.inr ⟨rfl, hpq⟩)
      · -- the names of the rest lie above the first one
        intro p hp q hq
        obtain ⟨p', -, rfl⟩ := List.mem_map.1 hp
        obtain ⟨n, t, q', ht, -, rfl⟩ := (mem_pathsUnder_iff found q rest).1 hq
        exact List.cons_lt_cons_iff.2 (Or.inl (above_of_find? rest ht))

end PathsUnder

theorem conflicts_eq_pathsUnder (d : Dialect) (fs : Fields none) :
    {lo : Option String} → (gs : Fields lo) →
      fs.conflicts d gs =
        gs.pathsUnder fun n t =>
          match fs.find? n with
          | none => []
          | some s => s.conflicts d t
  | _, .nil => by rw [conflicts, pathsUnder]
  | _, .cons m hm t rest => by
      rw [conflicts, pathsUnder, conflicts_eq_pathsUnder d fs rest]
      cases fs.find? m <;> rfl

theorem missing_eq_pathsUnder (ts : Fields none) :
    {lo : Option String} → (us : Fields lo) →
      ts.missing us =
        us.pathsUnder fun n u =>
          match ts.find? n with
          | none => [[]]
          | some t => t.missing u
  | _, .nil => by rw [missing, pathsUnder]
  | _, .cons m hm u rest => by
      rw [missing, pathsUnder, missing_eq_pathsUnder ts rest]
      cases ts.find? m <;> rfl

end Fields

namespace DataType

/-- Positions in conflict come in order, each of them once. -/
theorem pairwise_conflicts
    (d : Dialect)
    (b : DataType) :
    ∀ a : DataType, (a.conflicts d b).Pairwise (· < ·) := by
  induction b using DataType.induction with
  | scalar k =>
      intro a
      cases a with
      | scalar j =>
          rw [conflicts_scalar_scalar]
          split <;> simp
      | row s o fs =>
          rw [conflicts_row_scalar]
          split <;> simp
  | row s' o' gs ih =>
      intro a
      cases a with
      | scalar j =>
          rw [conflicts_scalar_row]
          split <;> simp
      | row s o fs =>
          rw [conflicts]
          split
          · rw [Fields.conflicts_eq_pathsUnder]
            apply Fields.pairwise_pathsUnder
            intro n t ht
            split
            · exact List.Pairwise.nil
            · exact ih n t ht _
          · exact List.pairwise_singleton _ _

/-- Missing fields come in order, each of them once. -/
theorem pairwise_missing (u : DataType) :
    ∀ t : DataType, (t.missing u).Pairwise (· < ·) := by
  induction u using DataType.induction with
  | scalar k =>
      intro t
      rw [missing_scalar]
      exact List.Pairwise.nil
  | row s' o' us ih =>
      intro t
      cases t with
      | scalar j =>
          rw [missing]
          exact List.Pairwise.nil
      | row s o ts =>
          rw [missing_row_row, Fields.missing_eq_pathsUnder]
          apply Fields.pairwise_pathsUnder
          intro n u hu
          split
          · exact List.pairwise_singleton _ _
          · exact ih n u hu _

end DataType

end RowPatch
