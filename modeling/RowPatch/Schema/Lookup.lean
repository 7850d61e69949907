import RowPatch.Schema.Basic

/-!
# Look-up in field lists

A field list is determined by what look-up finds in it, and `find?` after `set` is look-up with one
entry changed.

**Results.**
* `Fields.find?_set`, `Fields.find?_insert`: one field changes, the others stay.
* `Fields.ext_find?`: field lists that answer every look-up alike are equal.
* `Fields.mem_toList_iff`, `Fields.mem_names_iff`: the list of fields holds what look-up finds.
* `DataType.induction`: to prove a property of all types it is enough to pass from the types of the
  fields, as look-up finds them, to the row.
-/

namespace RowPatch

namespace Fields

@[simp] theorem find?_nil
    {lo : Option String}
    (n : String) :
    (nil : Fields lo).find? n = none := rfl

theorem find?_cons
    {lo : Option String}
    (n m : String)
    (h : Above lo m)
    (t : DataType)
    (rest : Fields (some m)) :
    (cons m h t rest).find? n = if m = n then some t else rest.find? n := rfl

/-- A name that is found lies above the index of the list. -/
theorem above_of_find? {n : String} {t : DataType} :
    {lo : Option String} → (fs : Fields lo) → fs.find? n = some t → Above lo n
  | _, .cons m hm s rest, h => by
      rw [find?_cons] at h
      split at h
      · rename_i e
        exact e ▸ hm
      · exact hm.trans (above_of_find? rest h)

/-- A list holds no name that its index does not allow. -/
theorem find?_eq_none_of_not_above
    {lo : Option String}
    {n : String}
    (fs : Fields lo)
    (h : ¬ Above lo n) :
    fs.find? n = none := by
  cases hf : fs.find? n with
  | none => rfl
  | some t => exact absurd (above_of_find? fs hf) h

theorem find?_self_tail
    (n : String)
    (fs : Fields (some n)) :
    fs.find? n = none :=
  find?_eq_none_of_not_above fs (String.lt_irrefl n)

/-- All fields have a property when the first one and the others have it. -/
theorem forall_find?_cons
    {lo : Option String}
    {P : String → DataType → Prop}
    (m : String)
    (h : Above lo m)
    (s : DataType)
    (rest : Fields (some m)) :
    (∀ n t, (cons m h s rest).find? n = some t → P n t) ↔
      P m s ∧ ∀ n t, rest.find? n = some t → P n t := by
  constructor
  · intro hall
    refine ⟨hall m s (by simp [find?_cons]), ?_⟩
    intro n t hn
    refine hall n t ?_
    rw [find?_cons, if_neg ?_]
    · exact hn
    · rintro rfl
      rw [find?_self_tail] at hn
      exact absurd hn (by simp)
  · rintro ⟨hs, hrest⟩ n t hn
    rw [find?_cons] at hn
    split at hn
    · rename_i e
      subst e
      exact Option.some.inj hn ▸ hs
    · exact hrest n t hn

theorem find?_set
    (n m : String)
    (t : DataType) :
    {lo : Option String} → (h : Above lo n) → (fs : Fields lo) →
      (fs.set n t h).find? m = if n = m then some t else fs.find? m
  | _, h, .nil => by simp [set, find?_cons]
  | _, h, .cons k hk s rest => by
      unfold set
      split
      · rename_i hlt
        rw [find?_cons, find?_cons, find?_cons]
      · split
        · rename_i hlt hgt
          rw [find?_cons, find?_cons, find?_set n m t (.of_lt hgt) rest]
          by_cases hkm : k = m
          · have hnm : n ≠ m := by
              rintro rfl
              exact String.lt_irrefl _ (hkm ▸ hgt)
            simp [hkm, hnm]
          · simp [hkm]
        · rename_i hlt hgt
          have e : k = n := String.le_antisymm hlt hgt
          subst e
          rw [find?_cons, find?_cons]
          by_cases hkm : k = m <;> simp [hkm]

@[simp] theorem find?_insert
    (fs : Fields none)
    (n m : String)
    (t : DataType) :
    (fs.insert n t).find? m = if n = m then some t else fs.find? m :=
  find?_set n m t (above_none n) fs

/-- Field lists that answer every look-up alike are equal. -/
theorem ext_find? :
    {lo : Option String} → (fs gs : Fields lo) → (∀ n, fs.find? n = gs.find? n) → fs = gs
  | _, .nil, .nil, _ => rfl
  | _, .nil, .cons n hn t rest, h => by
      have := h n
      simp [find?_cons] at this
  | _, .cons n hn t rest, .nil, h => by
      have := h n
      simp [find?_cons] at this
  | _, .cons m hm s fs, .cons n hn t gs, h => by
      have hmn : m = n := by
        have h₁ := h m
        have h₂ := h n
        rw [find?_cons, find?_cons] at h₁ h₂
        by_cases e : m = n
        · exact e
        · rw [if_pos rfl, if_neg (Ne.symm e)] at h₁
          rw [if_neg e, if_pos rfl] at h₂
          have h₃ : Above (some n) m := above_of_find? gs h₁.symm
          have h₄ : Above (some m) n := above_of_find? fs h₂
          exact absurd (String.lt_trans h₃ h₄) (String.lt_irrefl n)
      subst hmn
      have hst : s = t := by
        have := h m
        rw [find?_cons, find?_cons, if_pos rfl, if_pos rfl] at this
        exact Option.some.inj this
      subst hst
      have hrest : fs = gs := by
        refine ext_find? fs gs (fun n => ?_)
        by_cases e : m = n
        · subst e
          rw [find?_self_tail, find?_self_tail]
        · have := h n
          rwa [find?_cons, find?_cons, if_neg e, if_neg e] at this
      subst hrest
      rfl

/-- The list of fields holds what look-up finds. -/
theorem mem_toList_iff {n : String} {t : DataType} :
    {lo : Option String} → (fs : Fields lo) → ((n, t) ∈ fs.toList ↔ fs.find? n = some t)
  | _, .nil => by simp [toList]
  | _, .cons m hm s rest => by
      have ih := mem_toList_iff (n := n) (t := t) rest
      rw [toList, List.mem_cons, ih, find?_cons, Prod.mk.injEq]
      by_cases e : m = n
      · subst e
        rw [find?_self_tail, if_pos rfl]
        simp [eq_comm]
      · rw [if_neg e]
        simp [Ne.symm e]

/-- A name is listed when look-up finds something under it. -/
theorem mem_names_iff
    {n : String}
    {lo : Option String}
    (fs : Fields lo) :
    n ∈ fs.names ↔ ∃ t, fs.find? n = some t := by
  rw [names, List.mem_map]
  constructor
  · rintro ⟨⟨m, t⟩, h, rfl⟩
    exact ⟨t, (mem_toList_iff fs).1 h⟩
  · rintro ⟨t, h⟩
    exact ⟨(n, t), (mem_toList_iff fs).2 h, rfl⟩

/-- The names of a list come in increasing order. -/
theorem pairwise_names :
    {lo : Option String} → (fs : Fields lo) → fs.names.Pairwise (fun m n => m < n)
  | _, .nil => List.Pairwise.nil
  | _, .cons m hm s rest => by
      refine List.pairwise_cons.2 ⟨?_, pairwise_names rest⟩
      intro n hn
      obtain ⟨t, ht⟩ := (mem_names_iff rest).1 hn
      exact above_of_find? rest ht

end Fields

mutual

/-- Passing from the fields of a row to the row proves a property of all types. -/
theorem DataType.induction
    {P : DataType → Prop}
    (scalar : ∀ k, P (.scalar k))
    (row : ∀ s o (fs : Fields none), (∀ n t, fs.find? n = some t → P t) → P (.row s o fs)) :
    (t : DataType) → P t
  | .scalar k => scalar k
  | .row s o fs => row s o fs (fun n t h => Fields.induction scalar row fs n t h)

theorem Fields.induction
    {P : DataType → Prop}
    (scalar : ∀ k, P (.scalar k))
    (row : ∀ s o (fs : Fields none), (∀ n t, fs.find? n = some t → P t) → P (.row s o fs)) :
    {lo : Option String} → (fs : Fields lo) → ∀ n t, fs.find? n = some t → P t
  | _, .nil, n, t, h => by simp at h
  | _, .cons m hm s rest, n, t, h => by
      have hs : P s := DataType.induction scalar row s
      have ih := Fields.induction scalar row rest n t
      rw [Fields.find?_cons] at h
      split at h
      · exact Option.some.inj h ▸ hs
      · exact ih h

end

end RowPatch
