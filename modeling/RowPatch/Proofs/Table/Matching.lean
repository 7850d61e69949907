import RowPatch.Proofs.Value.Merge
import RowPatch.Table.Sheet

/-!
# Matching rows

The cell of a row under a name is the field that its record has under that name.  So to match a row
is to cover the base record.

**Results.**
* `Sheet.get?_toRecord`, `Sheet.rowMatches_eq_covers`: rows as records.
* `Sheet.refusal?_eq_none_iff`: which columns may be written.
-/

namespace RowPatch

/-- Of a repeated column the last cell counts. -/
theorem lastValue?_zip (n : String) :
    ∀ (columns : List String) (cells : List Value), cells.length = columns.length →
      lastValue? n (columns.zip cells) =
        (columnIndex? n columns).bind (fun i => cells[(i : Nat)]?)
  | [], _, _ => rfl
  | c :: cs, [], h => by simp at h
  | c :: cs, v :: vs, h => by
      have ih := lastValue?_zip n cs vs (by simpa using h)
      rw [List.zip_cons_cons, lastValue?, ih, columnIndex?]
      cases hi : columnIndex? n cs with
      | none => by_cases e : c = n <;> simp [e]
      | some i =>
          have hlt : (i : Nat) < vs.length := by
            have := i.isLt
            simp at h
            omega
          simp [hlt]

namespace Sheet

variable (s : Sheet)

/-- The record of a row has the cells of the row. -/
theorem get?_toRecord
    (row : Vector Value s.columns.length)
    (n : String) :
    (s.toRecord row).get? n = s.cell? row n := by
  rw [toRecord, Record.ofList, Record.get?_setAll, lastValue?_zip n _ _ (by simp), cell?]
  cases columnIndex? n s.columns with
  | none => rfl
  | some i => simp [Record.empty, Vector.get]

/-- A row matches when its record covers the base record. -/
theorem rowMatches_eq_covers
    (base : Record)
    (row : Vector Value s.columns.length) :
    s.rowMatches base row = (s.toRecord row).covers base := by
  rw [Bool.eq_iff_iff, Record.covers_iff, rowMatches, List.all_eq_true]
  constructor
  · intro h n w hw
    have hcell := h (n, w) ((Cells.mem_toList_iff base).2 hw)
    rw [get?_toRecord]
    cases hv : s.cell? row n with
    | none => simp [hv] at hcell
    | some v => exact ⟨v, rfl, by simpa [hv] using hcell⟩
  · rintro h ⟨n, w⟩ hw
    obtain ⟨v, hv, hsame⟩ := h n w ((Cells.mem_toList_iff base).1 hw)
    rw [get?_toRecord] at hv
    simpa [hv] using hsame

theorem exists_record_covers_iff (base : Record) :
    (∃ r ∈ s.records, r.covers base = true) ↔ ∃ row ∈ s.rows, s.rowMatches base row = true := by
  simp only [rowMatches_eq_covers]
  constructor
  · rintro ⟨r, hr, h⟩
    obtain ⟨row, hrow, rfl⟩ := List.mem_map.1 hr
    exact ⟨row, hrow, h⟩
  · rintro ⟨row, hrow, h⟩
    exact ⟨s.toRecord row, List.mem_map_of_mem hrow, h⟩

/-- A column may be written when it is there and is not read-only. -/
theorem refusal?_eq_none_iff (column : String) :
    s.refusal? column = none ↔ column ∈ s.columns ∧ column ∉ s.readOnly := by
  unfold refusal?
  by_cases hcolumn : column ∈ s.columns
  · have hindex : columnIndex? column s.columns ≠ none := by
      rw [ne_eq, columnIndex?_eq_none_iff]
      exact fun h => h hcolumn
    by_cases hreadOnly : column ∈ s.readOnly <;> simp [hcolumn, hindex, hreadOnly]
  · simp [hcolumn, (columnIndex?_eq_none_iff column s.columns).2 hcolumn]

end Sheet

end RowPatch
