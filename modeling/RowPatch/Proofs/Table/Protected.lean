import Mathlib.Data.List.Forall2
import RowPatch.Proofs.Table.Rows

/-!
# Cells that no update reaches

An update writes under a column name to the last column of that name, and never under a read-only
name.  So the cells of read-only columns, and those of columns whose name comes again, stay as they
were pushed.  Updates go by place and protection goes by name: both are settled here on the places of
a row.

**Results.**
* `le_of_columnIndex?`: of a repeated name the last place is taken.
* `Sheet.getElem?_writeRow_of_protected`: writes of allowed columns keep the protected cells.
* `Sheet.getElem?_writeRow_cases`: the other cells are kept too, or take what is written.
* `Sheet.keepsRows_push`, `Sheet.keepsRows_update`: pushes and updates keep every row.
-/

namespace RowPatch

/-- Of a repeated name the last place is taken. -/
theorem le_of_columnIndex? (n : String) :
    ∀ (columns : List String) (i : Fin columns.length), columnIndex? n columns = some i →
      ∀ j : Nat, columns[j]? = some n → j ≤ i
  | c :: cs, i, hi, 0, _ => Nat.zero_le i
  | c :: cs, i, hi, j + 1, hj => by
      have hmem : n ∈ cs := List.mem_of_getElem? hj
      unfold columnIndex? at hi
      cases hk : columnIndex? n cs with
      | none => exact absurd hmem ((columnIndex?_eq_none_iff n cs).1 hk)
      | some k =>
          rw [hk] at hi
          cases hi
          exact Nat.succ_le_succ (le_of_columnIndex? n cs k hk j hj)

theorem forall₂_replace {α β : Type} {R : α → β → Prop} {a b : β}
    (hab : ∀ p, R p a → R p b) (back : List β) :
    ∀ (front : List β) {l : List α}, List.Forall₂ R l (front ++ a :: back) →
      List.Forall₂ R l (front ++ b :: back)
  | [], _, .cons h hs => .cons (hab _ h) hs
  | _ :: front, _, .cons h hs => .cons h (forall₂_replace hab back front hs)

/-- A place in a row that no update reaches: the column there is read-only, or its name comes
again. -/
def Protected (columns : List String) (readOnly : SortedSet String) (i : Nat) : Prop :=
  ∃ n, columns[i]? = some n ∧ (n ∈ readOnly ∨ ∃ j, i < j ∧ columns[j]? = some n)

/-- What is kept of a row that was pushed: one cell for each column, and the protected cells.  The
other cells hold what was pushed or what a written record has under the name of the column. -/
structure KeepsRow (columns : List String) (readOnly : SortedSet String) (written : Record → Prop)
    (pushed cells : List Value) : Prop where
  width : cells.length = columns.length
  protectedCells : ∀ i, Protected columns readOnly i → cells[i]? = pushed[i]?
  otherCells : ∀ (i : Nat) n v, columns[i]? = some n → cells[i]? = some v →
    pushed[i]? = some v ∨ ∃ r, written r ∧ r.get? n = some v

namespace Sheet

variable (s : Sheet)

/-- The cells of the rows. -/
def cells : List (List Value) := s.rows.map Vector.toList

/-- The rows are the pushed ones, in order, but for what was written to them. -/
def KeepsRows (written : Record → Prop) (pushed : List (List Value)) : Prop :=
  List.Forall₂ (KeepsRow s.columns s.readOnly written) pushed s.cells

/-- A protected place is not the place of a column that may be written. -/
theorem not_writable_of_protected
    (i : Fin s.columns.length)
    (hi : Protected s.columns s.readOnly i)
    (hindex : columnIndex? (s.columns.get i) s.columns = some i) :
    s.refusal? (s.columns.get i) ≠ none := by
  obtain ⟨n, hn, hprotected⟩ := hi
  obtain rfl : s.columns.get i = n := by simpa using hn
  rw [Ne, s.refusal?_eq_none_iff]
  rcases hprotected with hreadOnly | ⟨j, hij, hj⟩
  · exact fun h => h.2 hreadOnly
  · exact absurd (le_of_columnIndex? _ s.columns i hindex j hj) (Nat.not_le.2 hij)

/-- Writes of columns that may be written keep the protected cells. -/
theorem getElem?_writeRow_of_protected
    (changes : Record)
    (hwritable : ∀ n ∈ changes.names, s.refusal? n = none)
    (row : Vector Value s.columns.length)
    (i : Nat)
    (hi : Protected s.columns s.readOnly i) :
    (s.writeRow changes row).toList[i]? = row.toList[i]? := by
  have hlt : i < s.columns.length := by
    obtain ⟨n, hn, -⟩ := hi
    exact (List.getElem?_eq_some_iff.1 hn).1
  have hcell : (s.writeRow changes row).get ⟨i, hlt⟩ = row.get ⟨i, hlt⟩ := by
    rw [get_writeRow]
    split
    · rename_i hindex
      have hnone : changes.get? (s.columns.get ⟨i, hlt⟩) = none := by
        rw [Cells.get?_eq_none_iff changes]
        intro hmem
        exact s.not_writable_of_protected ⟨i, hlt⟩ hi hindex (hwritable _ hmem)
      rw [hnone, Option.getD_none]
    · rfl
  simpa [Vector.get, hlt] using hcell

/-- A cell of a row that was written to is the old one or the one written under the name. -/
theorem getElem?_writeRow_cases
    (changes : Record)
    (row : Vector Value s.columns.length)
    (i : Nat)
    (n : String)
    (v : Value)
    (hn : s.columns[i]? = some n)
    (hv : (s.writeRow changes row).toList[i]? = some v) :
    row.toList[i]? = some v ∨ changes.get? n = some v := by
  obtain ⟨hlt, rfl⟩ := List.getElem?_eq_some_iff.1 hn
  have hcell : (s.writeRow changes row).get ⟨i, hlt⟩ = v := by
    simpa [Vector.get, hlt] using hv
  rw [get_writeRow] at hcell
  have hold : row.get ⟨i, hlt⟩ = v → row.toList[i]? = some v := by
    intro h
    simpa [Vector.get, hlt] using h
  split at hcell
  · cases hget : changes.get? (s.columns.get ⟨i, hlt⟩) with
    | none =>
        rw [hget] at hcell
        exact Or.inl (hold hcell)
    | some w =>
        rw [hget] at hcell
        exact Or.inr (congrArg some hcell)
  · exact Or.inl (hold hcell)

section Rows

variable (written : Record → Prop) (pushed : List (List Value)) (h : s.KeepsRows written pushed)
include h

/-- A row that is pushed stands at the end as it was pushed. -/
theorem keepsRows_push
    (s' : Sheet)
    (row : List Value)
    (hpush : s.push row = .ok s') :
    s'.KeepsRows written (pushed ++ [row]) := by
  unfold push at hpush
  split at hpush
  · rename_i hwidth
    cases hpush
    have hnew : KeepsRow s.columns s.readOnly written row row :=
      ⟨hwidth, fun _ _ => rfl, fun _ _ _ _ hv => Or.inl hv⟩
    unfold KeepsRows cells
    rw [List.map_append]
    exact List.rel_append h (.cons (by simpa using hnew) .nil)
  · exact absurd hpush (by simp)

/-- An update keeps every row. -/
theorem keepsRows_update
    (base changes : Record)
    (hchanges : written changes) :
    (s.update base changes).2.KeepsRows written pushed := by
  rcases s.update_cases base changes with
    ⟨f, hupdate⟩ | ⟨front, row, back, hrows, -, -, hwritable, hupdate⟩
  · rw [hupdate]
    exact h
  · rw [hupdate]
    unfold KeepsRows cells at h ⊢
    rw [hrows] at h
    rw [List.map_append, List.map_cons] at h ⊢
    refine forall₂_replace ?_ _ _ h
    intro p hp
    refine ⟨by simp, ?_, ?_⟩
    · intro i hi
      rw [s.getElem?_writeRow_of_protected changes hwritable row i hi]
      exact hp.protectedCells i hi
    · intro i n v hn hv
      rcases s.getElem?_writeRow_cases changes row i n v hn hv with hold | hnew
      · exact hp.otherCells i n v hn hold
      · exact Or.inr ⟨changes, hchanges, hnew⟩

end Rows

end Sheet

end RowPatch
