import RowPatch.Value.Merge

/-!
# Look-up in merged records

What look-up finds after fields were inserted one by one, and the names that a merge gives.

**Results.**
* `Record.get?_setAll`, `Record.names_setAll`: of a repeated name the last value counts, and the
  first place.
* `mem_foldl_addName`: which names there are when names were added one by one.
* `mergeRecords_records`, `Record.mem_names_mergeAll`: records merge to a record with their names.
* `Record.get?_mergeAll`: the last record that has a name gives the value.
* `mergeInto_of_not_record`: which refusal a merge ends in.
-/

namespace RowPatch

namespace Cells

theorem mem_toList_iff {n : String} {v : Value} :
    {used : List String} → (cs : Cells used) → ((n, v) ∈ cs.toList ↔ cs.get? n = some v)
  | _, .nil => by simp [toList]
  | _, .cons m hm w rest => by
      have ih := mem_toList_iff (n := n) (v := v) rest
      rw [toList, List.mem_cons, ih, get?_cons, Prod.mk.injEq]
      by_cases e : m = n
      · subst e
        rw [get?_eq_none_of_mem rest List.mem_cons_self, if_pos rfl]
        simp [eq_comm]
      · rw [if_neg e]
        simp [Ne.symm e]

theorem mem_names_iff
    {n : String}
    {used : List String}
    (cs : Cells used) :
    n ∈ cs.names ↔ ∃ v, cs.get? n = some v := by
  rw [names, List.mem_map]
  constructor
  · rintro ⟨⟨m, v⟩, h, rfl⟩
    exact ⟨v, (mem_toList_iff cs).1 h⟩
  · rintro ⟨v, h⟩
    exact ⟨(n, v), (mem_toList_iff cs).2 h, rfl⟩

theorem get?_eq_none_iff
    {n : String}
    {used : List String}
    (cs : Cells used) :
    cs.get? n = none ↔ n ∉ cs.names := by
  rw [mem_names_iff, Option.eq_none_iff_forall_ne_some, not_exists]

end Cells

/-- The value that stands last under a name. -/
def lastValue? (n : String) : List (String × Value) → Option Value
  | [] => none
  | f :: l => (lastValue? n l).or (if f.1 = n then some f.2 else none)

/-- Adds a name at the end, unless it is there already. -/
def addName (names : List String) (n : String) : List String :=
  if n ∈ names then names else names ++ [n]

theorem addName_of_mem
    {names : List String}
    {n : String}
    (h : n ∈ names) :
    addName names n = names :=
  if_pos h

theorem addName_of_not_mem
    {names : List String}
    {n : String}
    (h : n ∉ names) :
    addName names n = names ++ [n] :=
  if_neg h

theorem mem_addName
    (names : List String)
    (n m : String) :
    m ∈ addName names n ↔ m ∈ names ∨ m = n := by
  by_cases hn : n ∈ names
  · rw [addName_of_mem hn]
    exact ⟨Or.inl, fun h => h.elim id fun e => e ▸ hn⟩
  · rw [addName_of_not_mem hn, List.mem_append, List.mem_singleton]

theorem mem_foldl_addName
    (m : String)
    (l : List String) :
    ∀ names : List String, m ∈ l.foldl addName names ↔ m ∈ names ∨ m ∈ l := by
  induction l with
  | nil => simp
  | cons n l ih =>
      intro names
      rw [List.foldl_cons, ih, mem_addName, List.mem_cons, or_assoc]

namespace Cells

theorem lastValue?_toList (n : String) :
    {used : List String} → (cs : Cells used) → lastValue? n cs.toList = cs.get? n
  | _, .nil => rfl
  | _, .cons m hm v rest => by
      have ih := lastValue?_toList n rest
      rw [toList, lastValue?, ih, get?_cons]
      by_cases e : m = n
      · subst e
        simp [get?_eq_none_of_mem rest List.mem_cons_self]
      · simp [e]

/-- Inserting keeps the names in their places and adds a new one at the end. -/
theorem names_put (n : String) (v : Value) :
    {used : List String} → (h : n ∉ used) → (cs : Cells used) →
      (cs.put n v h).2.names = addName cs.names n
  | _, _, .nil => rfl
  | _, h, .cons m hm w rest => by
      have ih := fun h' => names_put n v h' rest
      unfold put
      split
      · rename_i e
        subst e
        simp [names, toList, addName]
      · rename_i e
        show m :: (put n v _ rest).2.names = addName (m :: rest.names) n
        rw [ih]
        by_cases hn : n ∈ rest.names <;> simp [addName, hn, e]

end Cells

namespace Record

theorem names_set
    (r : Record)
    (n : String)
    (v : Value) :
    (r.set n v).names = addName r.names n :=
  Cells.names_put n v List.not_mem_nil r

/-- Which names a record has, and in what order, does not depend on the values. -/
theorem names_setAll
    (l : List (String × Value)) :
    ∀ r : Record, (r.setAll l).names = (l.map Prod.fst).foldl addName r.names := by
  induction l with
  | nil =>
      intro r
      rfl
  | cons f l ih =>
      intro r
      show ((r.set f.1 f.2).setAll l).names = _
      rw [ih, names_set, List.map_cons, List.foldl_cons]

/-- Of a repeated name the last value counts. -/
theorem get?_setAll
    (n : String)
    (l : List (String × Value)) :
    ∀ r : Record, (r.setAll l).get? n = (lastValue? n l).or (r.get? n) := by
  induction l with
  | nil =>
      intro r
      rfl
  | cons f l ih =>
      intro r
      show ((r.set f.1 f.2).setAll l).get? n = _
      rw [ih, get?_set, lastValue?, Option.or_assoc]
      by_cases h : f.1 = n <;> simp [h]

theorem mem_names_set
    (r : Record)
    (n m : String)
    (v : Value) :
    m ∈ (r.set n v).names ↔ m ∈ r.names ∨ m = n := by
  rw [names_set, mem_addName]

theorem mem_names_setAll
    (n : String)
    (l : List (String × Value))
    (r : Record) :
    n ∈ (r.setAll l).names ↔ n ∈ r.names ∨ n ∈ l.map Prod.fst := by
  rw [names_setAll, mem_foldl_addName]

/-- The record that records merge to. -/
def mergeAll (rs : List Record) : Record :=
  rs.foldl (fun merged r => merged.setAll r.toList) .empty

theorem get?_foldl_setAll
    (n : String)
    (rs : List Record) :
    ∀ merged : Record,
      (rs.foldl (fun merged r => merged.setAll r.toList) merged).get? n =
        (rs.reverse.findSome? (fun r => r.get? n)).or (merged.get? n) := by
  induction rs with
  | nil =>
      intro merged
      rfl
  | cons r rs ih =>
      intro merged
      rw [List.foldl_cons, ih, get?_setAll, Cells.lastValue?_toList, List.reverse_cons,
        List.findSome?_append, Option.or_assoc]
      simp

/-- A merge has under each name the value of the last record that has the name. -/
theorem get?_mergeAll
    (n : String)
    (rs : List Record) :
    (mergeAll rs).get? n = rs.reverse.findSome? (fun r => r.get? n) := by
  rw [mergeAll, get?_foldl_setAll]
  simp [empty]

theorem names_foldl_setAll (rs : List Record) :
    ∀ merged : Record,
      (rs.foldl (fun merged r => merged.setAll r.toList) merged).names =
        (rs.flatMap Cells.names).foldl addName merged.names := by
  induction rs with
  | nil => exact fun merged => rfl
  | cons r rs ih =>
      intro merged
      rw [List.foldl_cons, ih, names_setAll, List.flatMap_cons, List.foldl_append]
      rfl

/-- A merge has the names of the records that it merges. -/
theorem mem_names_mergeAll
    (n : String)
    (rs : List Record) :
    n ∈ (mergeAll rs).names ↔ ∃ r ∈ rs, n ∈ r.names := by
  rw [mergeAll, names_foldl_setAll, mem_foldl_addName, List.mem_flatMap]
  simp [empty, Cells.names, Cells.toList]

end Record

theorem mergeInto_records
    (rs : List Record) :
    ∀ (merged : Record) (index : Nat),
      mergeInto merged index (rs.map .record) =
        .ok (rs.foldl (fun merged r => merged.setAll r.toList) merged) := by
  induction rs with
  | nil =>
      intro merged index
      rfl
  | cons r rs ih =>
      intro merged index
      rw [List.map_cons, mergeInto, ih, List.foldl_cons]

/-- Merging stops at the first value that is no record. -/
theorem mergeInto_of_not_record
    (w : Value)
    (rest : List Value)
    (hw : w.kind ≠ .record)
    (rs : List Record) :
    ∀ (merged : Record) (index : Nat),
      mergeInto merged index (rs.map .record ++ w :: rest) =
        .error ⟨index + rs.length, w.kind⟩ := by
  induction rs with
  | nil =>
      intro merged index
      cases w <;> simp [Value.kind] at hw <;> rfl
  | cons r rs ih =>
      intro merged index
      rw [List.map_cons, List.cons_append, mergeInto, ih, List.length_cons]
      congr 2
      omega

theorem Value.eq_record_of_kind
    (v : Value)
    (h : v.kind = .record) :
    ∃ r, v = .record r := by
  cases v <;> simp [kind] at h
  exact ⟨_, rfl⟩

/-- Values are records throughout, or there is a first one that is no record. -/
theorem records_or_first_not_record :
    ∀ values : List Value,
      (∃ rs : List Record, values = rs.map .record) ∨
        ∃ (rs : List Record) (w : Value) (rest : List Value),
          values = rs.map .record ++ w :: rest ∧ w.kind ≠ .record
  | [] => Or.inl ⟨[], rfl⟩
  | v :: values => by
      by_cases hv : v.kind = .record
      · obtain ⟨r, rfl⟩ := Value.eq_record_of_kind v hv
        rcases records_or_first_not_record values with ⟨rs, rfl⟩ | ⟨rs, w, rest, rfl, hw⟩
        · exact Or.inl ⟨r :: rs, rfl⟩
        · exact Or.inr ⟨r :: rs, w, rest, rfl, hw⟩
      · exact Or.inr ⟨[], v, values, rfl, hv⟩

/-- Records always merge. -/
theorem mergeRecords_records
    (first : Nat)
    (rs : List Record) :
    mergeRecords first (rs.map .record) = .ok (.mergeAll rs) :=
  mergeInto_records rs .empty first

end RowPatch
