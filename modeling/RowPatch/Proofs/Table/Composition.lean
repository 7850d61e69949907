import RowPatch.Proofs.Table.Rows

/-!
# One update after another

Two updates of a sheet with one base record write to the same row when the first of them leaves
alone the columns that the base record names.  Together they do what one update does with the
changes of both, except that two updates are counted.

**Results.**
* `Sheet.writeRow_setAll`: writing merged changes is writing one after the other.
* `Sheet.update_update`: an update after an update.
-/

namespace RowPatch

namespace Sheet

variable (s : Sheet)

/-- Writing merged changes is writing one after the other. -/
theorem writeRow_setAll
    (changes more : Record)
    (row : Vector Value s.columns.length) :
    s.writeRow (changes.setAll more.toList) row = s.writeRow more (s.writeRow changes row) := by
  have hcell : ∀ i : Fin s.columns.length,
      (s.writeRow (changes.setAll more.toList) row).get i =
        (s.writeRow more (s.writeRow changes row)).get i := by
    intro i
    rw [get_writeRow, get_writeRow, get_writeRow, Record.get?_setAll, Cells.lastValue?_toList]
    by_cases hi : columnIndex? (s.columns.get i) s.columns = some i
    · rw [if_pos hi, if_pos hi, if_pos hi]
      cases more.get? (s.columns.get i) <;> rfl
    · rw [if_neg hi, if_neg hi, if_neg hi]
  exact Vector.ext fun i hi => hcell ⟨i, hi⟩

/-- What is written to a row does not depend on the other rows. -/
theorem writeRow_with
    (rows : List (Vector Value s.columns.length))
    (k : Nat)
    (changes : Record)
    (row : Vector Value s.columns.length) :
    ({ s with rows := rows, updates := k } : Sheet).writeRow changes row = s.writeRow changes row := by
  have hcell : ∀ (row : Vector Value s.columns.length) (n : String) (v : Value),
      ({ s with rows := rows, updates := k } : Sheet).writeCell row n v = s.writeCell row n v := by
    intro row n v
    simp only [writeCell]
    cases columnIndex? n s.columns <;> rfl
  simp only [writeRow, hcell]

/-- The sheet with another count of updates. -/
def counting (updates : Nat) : Sheet := { s with updates := updates }

/-- An update is counted. -/
theorem counting_update (base changes : Record) :
    (s.update base changes).2.counting (s.updates + 1) = (s.update base changes).2 := by
  rcases s.update_cases base changes with ⟨f, h⟩ | ⟨front, row, back, -, -, -, -, h⟩
  · rw [h]
    rfl
  · rw [h]
    rfl

/-- An update after an update, with one base record that the first one does not write to. -/
theorem update_update
    (base changes more : Record)
    (hchanges : ∀ n ∈ changes.names, s.refusal? n = none)
    (hmore : ∀ n ∈ more.names, s.refusal? n = none)
    (hdisjoint : ∀ n ∈ changes.names, n ∉ base.names)
    (k : Nat) :
    let merged := changes.setAll more.toList
    ((s.update base changes).2.counting k).update base more =
      ((s.update base merged).1, (s.update base merged).2.counting (k + 1)) := by
  intro merged
  have hmerged : ∀ n ∈ merged.names, s.refusal? n = none := by
    intro n hn
    rcases (Record.mem_names_setAll n more.toList changes).1 hn with h | h
    · exact hchanges n h
    · exact hmore n h
  rcases s.no_match_or_first base with hno | ⟨front, row, back, hrows, hfront, hrow⟩
  · rw [s.update_of_no_match base changes hchanges hno, s.update_of_no_match base merged hmerged hno]
    exact (s.counting k).update_of_no_match base more hmore hno
  · rw [s.update_of_first base changes hchanges front back row hrows hfront hrow,
      s.update_of_first base merged hmerged front back row hrows hfront hrow, writeRow_setAll]
    -- the row that was written to is still the first one that matches
    have hrow' := (s.rowMatches_writeRow base changes row hdisjoint).trans hrow
    have h := ({ s with rows := front ++ s.writeRow changes row :: back, updates := k } : Sheet)
      |>.update_of_first base more hmore front back (s.writeRow changes row) rfl hfront hrow'
    rw [s.writeRow_with _ k more] at h
    exact h

end Sheet

end RowPatch
