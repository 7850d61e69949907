import RowPatch.Proofs.Table.Failures
import RowPatch.Proofs.Value.Equality

/-!
# Which row an update selects

Rows are matched cell by cell, by the place of each column, but the row that an update selects can be
told from the records that the sheet shows: it is the first record that covers the base record.  Equal
base records are covered by the same records, so they select the same row.

**Results.**
* `Sheet.findIdx?_records`: the first row that matches and the first record that covers the base
  record stand at one place.
* `Sheet.update_of_findIdx?`: an update writes to the row at that place.
* `Sheet.update_congr`: base records that the same rows match are updated alike.
* `update_selects_first_covering_record`: the row that is selected, and that equal base records select
  the same one.
-/

namespace RowPatch

namespace Sheet

variable (s : Sheet)

/-- The first record that covers a base record stands in the place of the first row that matches. -/
theorem findIdx?_records (base : Record) :
    s.records.findIdx? (fun r => r.covers base) = s.rows.findIdx? (s.rowMatches base) := by
  have hrow : (fun r : Record => r.covers base) ∘ s.toRecord = s.rowMatches base := by
    funext row
    exact (s.rowMatches_eq_covers base row).symm
  rw [records, List.findIdx?_map, hrow]

section

variable
  (base changes : Record)
  (hwritable : ∀ n ∈ changes.names, s.refusal? n = none)

include hwritable

/-- An update writes to the row in the place of the first record that covers the base record. -/
theorem update_of_findIdx?
    (i : Nat)
    (row : Vector Value s.columns.length)
    (hi : s.records.findIdx? (fun r => r.covers base) = some i)
    (hrow : s.rows[i]? = some row) :
    s.update base changes = (.ok (s.toRecord (s.writeRow changes row)),
      { s with updates := s.updates + 1, rows := s.rows.set i (s.writeRow changes row) }) := by
  rw [findIdx?_records, List.findIdx?_eq_some_iff_getElem] at hi
  obtain ⟨hlt, hmatch, hearlier⟩ := hi
  obtain rfl : s.rows[i] = row := by simpa [hlt] using hrow
  have hrows : s.rows = s.rows.take i ++ s.rows[i] :: s.rows.drop (i + 1) := by simp
  have hfront : ∀ other ∈ s.rows.take i, s.rowMatches base other = false := by
    intro other hother
    obtain ⟨j, hj, rfl⟩ := List.mem_take_iff_getElem.1 hother
    exact Bool.eq_false_iff.2 (hearlier j (by omega))
  rw [s.update_of_first base changes hwritable _ _ _ hrows hfront hmatch,
    List.set_eq_take_append_cons_drop, if_pos hlt]

theorem update_of_findIdx?_eq_none
    (hnone : s.records.findIdx? (fun r => r.covers base) = none) :
    s.update base changes = (.error (s.noMatch base), { s with updates := s.updates + 1 }) := by
  rw [findIdx?_records, List.findIdx?_eq_none_iff] at hnone
  exact s.update_of_no_match base changes hwritable hnone

end

/-- Updates with base records that the same rows match differ in the text of a failure only. -/
theorem update_congr
    {base base' : Record}
    (h : s.rowMatches base = s.rowMatches base')
    (changes : Record) :
    (s.update base changes).2 = (s.update base' changes).2 ∧
      (s.update base changes).1.mapError Fault.kind =
        (s.update base' changes).1.mapError Fault.kind := by
  simp only [update, h]
  cases changes.names.findSome? s.refusal? with
  | some f => exact ⟨rfl, rfl⟩
  | none =>
      cases replaceFirst (s.rowMatches base') (s.writeRow changes) s.rows with
      | none => exact ⟨rfl, rfl⟩
      | some r => exact ⟨rfl, rfl⟩

theorem rowMatches_congr
    {base base' : Record}
    (h : base.same base' = true) :
    s.rowMatches base = s.rowMatches base' := by
  funext row
  rw [rowMatches_eq_covers, rowMatches_eq_covers, Record.covers_congr h]

end Sheet

/-- A row matches a base record exactly when its record covers the base record.  So an update whose
changes may be written goes to the row of the first record that covers the base record, and fails if
there is none.  Equal base records select the same row or none, and updates with them leave the same
rows and answer with the same record or with failures of the same kind. -/
theorem update_selects_first_covering_record (s : Sheet) :
    (∀ base row, s.rowMatches base row = (s.toRecord row).covers base) ∧
      (∀ base changes : Record, (∀ n ∈ changes.names, n ∈ s.columns ∧ n ∉ s.readOnly) →
        (s.records.findIdx? (fun r => r.covers base) = none →
          s.update base changes = (.error (s.noMatch base), { s with updates := s.updates + 1 })) ∧
        ∀ i row, s.records.findIdx? (fun r => r.covers base) = some i → s.rows[i]? = some row →
          s.update base changes = (.ok (s.toRecord (s.writeRow changes row)),
            { s with updates := s.updates + 1, rows := s.rows.set i (s.writeRow changes row) })) ∧
      ∀ base base' changes : Record, base.same base' = true →
        s.records.findIdx? (fun r => r.covers base) =
            s.records.findIdx? (fun r => r.covers base') ∧
          (s.update base changes).2 = (s.update base' changes).2 ∧
          (s.update base changes).1.mapError Fault.kind =
            (s.update base' changes).1.mapError Fault.kind := by
  refine ⟨s.rowMatches_eq_covers, ?selected, ?equalBases⟩
  case selected =>
    intro base changes hwritable
    have hgranted : ∀ n ∈ changes.names, s.refusal? n = none := fun n hn =>
      (s.refusal?_eq_none_iff n).2 (hwritable n hn)
    exact ⟨s.update_of_findIdx?_eq_none base changes hgranted,
      s.update_of_findIdx? base changes hgranted⟩
  case equalBases =>
    intro base base' changes hsame
    have hmatches := s.rowMatches_congr hsame
    rw [s.findIdx?_records, s.findIdx?_records, hmatches]
    exact ⟨rfl, s.update_congr hmatches changes⟩

/-- The column `item` is repeated, so its last cell counts, and the base records have the two zeros
and their fields in different orders.  Both select the third row. -/
theorem zeros_select_third_row :
    let zero := Value.number ⟨0⟩
    let row (stock : Value) (item item' : String) : Vector Value 3 :=
      #v[stock, .string item, .string item']
    let s : Sheet := ⟨"items", ["stock", "item", "item"], ∅,
      [row zero "pen" "ink", row .blank "ink" "pen", row zero "ink" "pen"], 0⟩
    let base : Record := .ofList [("stock", zero), ("item", .string "pen")]
    let base' : Record :=
      .ofList [("item", .string "pen"), ("stock", .number ⟨0x8000000000000000⟩)]
    let changes : Record := .ofList [("stock", .blank)]
    base.same base' = true ∧
      s.records.findIdx? (fun r => r.covers base) = some 2 ∧
      s.records.findIdx? (fun r => r.covers base') = some 2 ∧
      (s.update base' changes).2 = { s with
        updates := 1
        rows := [row zero "pen" "ink", row .blank "ink" "pen", row .blank "ink" "pen"] } := by
  intro zero row s base base' changes
  obtain ⟨-, hselected, hequal⟩ := update_selects_first_covering_record s
  have hsame : base.same base' = true := by decide +kernel
  have hplace : s.records.findIdx? (fun r => r.covers base) = some 2 := by decide +kernel
  obtain ⟨hplaces, hrows, -⟩ := hequal base base' changes hsame
  have hupdate := (hselected base changes (by decide +kernel)).2 2 (row zero "ink" "pen") hplace rfl
  exact ⟨hsame, hplace, hplaces ▸ hplace, hrows.symm.trans (congrArg Prod.snd hupdate)⟩

end RowPatch
