import RowPatch.Proofs.Table.Matching

/-!
# What an update does to the rows

A write under a column name goes to one cell, the one that the record of the row shows under that
name.  So the record of a row that was written to has the written values, and its other fields as
before, and a write to columns that a base record does not name leaves alone whether the row
matches.

**Results.**
* `Sheet.get_writeRow`: the cells of a row after all changes are written.
* `Sheet.get?_toRecord_writeRow`, `Sheet.names_toRecord`: the record of such a row.
* `Sheet.rowMatches_writeRow`: writes outside the base record keep a match.
* `Sheet.update_of_writable`: the answer to an update of columns that may be written.
* `Sheet.update_cases`: an update changes the first row that matches, or no row.
-/

namespace RowPatch

theorem replaceFirst_append {α : Type} (p : α → Bool) (f : α → α) (a : α) (back : List α)
    (ha : p a = true) :
    ∀ front : List α, (∀ c ∈ front, p c = false) →
      replaceFirst p f (front ++ a :: back) = some (f a, front ++ f a :: back)
  | [], _ => by simp [replaceFirst, ha]
  | c :: front, hfront => by
      obtain ⟨hc, hrest⟩ := List.forall_mem_cons.1 hfront
      have ih := replaceFirst_append p f a back ha front hrest
      simp [replaceFirst, hc, ih]

/-- `after` is `before` with `r` in the place `i` of its first record that matches `base`.  The new
record has the names of the old one, and under each name the value written, if one was written. -/
structure PatchesFirst (base : Record) (written : String → Option Value) (before : List Record)
    (i : Nat) (old r : Record) (after : List Record) : Prop where
  row : before[i]? = some old
  matched : old.covers base = true
  earlier : ∀ j < i, ∀ q, before[j]? = some q → q.covers base = false
  rows : after = before.set i r
  names : r.names = old.names
  values : ∀ n, r.get? n = (written n).or (old.get? n)

namespace Sheet

variable (s : Sheet)

theorem get_writeCell
    (row : Vector Value s.columns.length)
    (column : String)
    (v : Value)
    (i : Fin s.columns.length) :
    (s.writeCell row column v).get i =
      if columnIndex? column s.columns = some i then v else row.get i := by
  unfold writeCell
  cases hj : columnIndex? column s.columns with
  | none => simp
  | some j =>
      show (row.set j v)[i.val] = if some j = some i then v else row[i.val]
      rw [Vector.getElem_set]
      simp only [Option.some.injEq, Fin.ext_iff]

/-- Of the changes under the name of a column, the last one counts; it goes to the last column of
that name. -/
theorem get_foldl_writeCell
    (i : Fin s.columns.length)
    (l : List (String × Value)) :
    ∀ row : Vector Value s.columns.length,
      (l.foldl (fun row f => s.writeCell row f.1 f.2) row).get i =
        if columnIndex? (s.columns.get i) s.columns = some i then
          (lastValue? (s.columns.get i) l).getD (row.get i)
        else row.get i := by
  induction l with
  | nil =>
      intro row
      simp [lastValue?]
  | cons f l ih =>
      intro row
      have hname : columnIndex? f.1 s.columns = some i ↔
          f.1 = s.columns.get i ∧ columnIndex? (s.columns.get i) s.columns = some i := by
        constructor
        · intro h
          have hf : s.columns.get i = f.1 := getElem_columnIndex? f.1 s.columns i h
          exact ⟨hf.symm, hf ▸ h⟩
        · rintro ⟨hf, h⟩
          exact hf ▸ h
      rw [List.foldl_cons, ih, get_writeCell, lastValue?]
      by_cases hi : columnIndex? (s.columns.get i) s.columns = some i
      · rw [if_pos hi, if_pos hi]
        by_cases hf : f.1 = s.columns.get i
        · rw [if_pos (hname.2 ⟨hf, hi⟩), if_pos hf]
          cases lastValue? (s.columns.get i) l <;> rfl
        · rw [if_neg (fun h => hf (hname.1 h).1), if_neg hf, Option.or_none]
      · rw [if_neg hi, if_neg hi, if_neg (fun h => hi (hname.1 h).2)]

/-- The cells of a row after all changes are written. -/
theorem get_writeRow
    (changes : Record)
    (row : Vector Value s.columns.length)
    (i : Fin s.columns.length) :
    (s.writeRow changes row).get i =
      if columnIndex? (s.columns.get i) s.columns = some i then
        (changes.get? (s.columns.get i)).getD (row.get i)
      else row.get i := by
  rw [writeRow, get_foldl_writeCell, Cells.lastValue?_toList]

theorem cell?_writeRow
    (changes : Record)
    (row : Vector Value s.columns.length)
    (n : String) :
    s.cell? (s.writeRow changes row) n = (s.cell? row n).map (changes.get? n).getD := by
  unfold cell?
  cases hi : columnIndex? n s.columns with
  | none => rfl
  | some i =>
      have hn : s.columns.get i = n := getElem_columnIndex? n s.columns i hi
      simp only [Option.map_some, get_writeRow, hn, hi, if_true]

/-- A row that was written to shows what was written, and what it showed before under the other
names. -/
theorem get?_toRecord_writeRow
    (changes : Record)
    (row : Vector Value s.columns.length)
    (hcolumns : ∀ n ∈ changes.names, n ∈ s.columns)
    (n : String) :
    (s.toRecord (s.writeRow changes row)).get? n =
      (changes.get? n).or ((s.toRecord row).get? n) := by
  rw [get?_toRecord, get?_toRecord, cell?_writeRow]
  unfold cell?
  cases hi : columnIndex? n s.columns with
  | none =>
      have hnone : changes.get? n = none :=
        (Cells.get?_eq_none_iff changes).2 fun h =>
          (columnIndex?_eq_none_iff n s.columns).1 hi (hcolumns n h)
      rw [hnone]
      rfl
  | some i => cases changes.get? n <;> rfl

/-- All rows show the same names in the same order. -/
theorem names_toRecord (row : Vector Value s.columns.length) :
    (s.toRecord row).names = s.columns.foldl addName [] := by
  rw [toRecord, Record.ofList, Record.names_setAll, List.map_fst_zip (by simp)]
  rfl

/-- Writes to columns that the base record does not name keep a match. -/
theorem rowMatches_writeRow
    (base changes : Record)
    (row : Vector Value s.columns.length)
    (hdisjoint : ∀ n ∈ changes.names, n ∉ base.names) :
    s.rowMatches base (s.writeRow changes row) = s.rowMatches base row := by
  have hcell : ∀ f ∈ base.toList, s.cell? (s.writeRow changes row) f.1 = s.cell? row f.1 := by
    intro f hf
    have hbase : f.1 ∈ base.names := List.mem_map_of_mem hf
    have hnone : changes.get? f.1 = none :=
      (Cells.get?_eq_none_iff changes).2 fun h => hdisjoint f.1 h hbase
    rw [cell?_writeRow, hnone]
    cases s.cell? row f.1 <;> rfl
  rw [Bool.eq_iff_iff, rowMatches, rowMatches, List.all_eq_true, List.all_eq_true]
  exact forall₂_congr fun f hf => by rw [hcell f hf]

/-- No row matches, or some row is the first one that does. -/
theorem no_match_or_first (base : Record) :
    (∀ row ∈ s.rows, s.rowMatches base row = false) ∨
      ∃ front row back, s.rows = front ++ row :: back ∧
        (∀ other ∈ front, s.rowMatches base other = false) ∧ s.rowMatches base row = true := by
  cases h : s.rows.find? (s.rowMatches base) with
  | none => exact Or.inl (by simpa using h)
  | some row =>
      obtain ⟨hrow, front, back, hrows, hfront⟩ := List.find?_eq_some_iff_append.1 h
      exact Or.inr ⟨front, row, back, hrows, by simpa using hfront, hrow⟩

theorem update_of_no_match
    (base changes : Record)
    (hwritable : ∀ n ∈ changes.names, s.refusal? n = none)
    (hno : ∀ row ∈ s.rows, s.rowMatches base row = false) :
    s.update base changes = (.error (s.noMatch base), { s with updates := s.updates + 1 }) := by
  simp only [update, List.findSome?_eq_none_iff.2 hwritable, (replaceFirst_eq_none_iff _ _ _).2 hno]

theorem update_of_first
    (base changes : Record)
    (hwritable : ∀ n ∈ changes.names, s.refusal? n = none)
    (front back : List (Vector Value s.columns.length))
    (row : Vector Value s.columns.length)
    (hrows : s.rows = front ++ row :: back)
    (hfront : ∀ other ∈ front, s.rowMatches base other = false)
    (hrow : s.rowMatches base row = true) :
    s.update base changes = (.ok (s.toRecord (s.writeRow changes row)),
      { s with updates := s.updates + 1, rows := front ++ s.writeRow changes row :: back }) := by
  simp only [update, List.findSome?_eq_none_iff.2 hwritable, hrows,
    replaceFirst_append _ _ row back hrow front hfront]

/-- An update of columns that may be written gives a row if some row matches. -/
theorem update_of_writable
    (base changes : Record)
    (hwritable : ∀ n ∈ changes.names, s.refusal? n = none) :
    (∃ r ∈ s.records, r.covers base = true) ∧ (∃ r, (s.update base changes).1 = .ok r) ∨
      (¬ ∃ r ∈ s.records, r.covers base = true) ∧
        (s.update base changes).1 = .error (s.noMatch base) := by
  rw [exists_record_covers_iff]
  rcases s.no_match_or_first base with hno | ⟨front, row, back, hrows, hfront, hrow⟩
  · right
    rw [s.update_of_no_match base changes hwritable hno]
    refine ⟨?_, rfl⟩
    rintro ⟨row, hmem, h⟩
    rw [hno row hmem] at h
    exact absurd h (by simp)
  · left
    rw [s.update_of_first base changes hwritable front back row hrows hfront hrow]
    exact ⟨⟨row, by simp [hrows], hrow⟩, _, rfl⟩

/-- An update fails and changes no row, or it writes to the first row that matches. -/
theorem update_cases (base changes : Record) :
    (∃ f, s.update base changes = (.error f, { s with updates := s.updates + 1 })) ∨
      ∃ front row back, s.rows = front ++ row :: back ∧
        (∀ other ∈ front, s.rowMatches base other = false) ∧ s.rowMatches base row = true ∧
        (∀ n ∈ changes.names, s.refusal? n = none) ∧
        s.update base changes = (.ok (s.toRecord (s.writeRow changes row)),
          { s with updates := s.updates + 1, rows := front ++ s.writeRow changes row :: back }) := by
  cases hrefused : changes.names.findSome? s.refusal? with
  | some f => exact Or.inl ⟨f, by simp only [update, hrefused]⟩
  | none =>
      have hwritable := List.findSome?_eq_none_iff.1 hrefused
      rcases s.no_match_or_first base with hno | ⟨front, row, back, hrows, hfront, hrow⟩
      · exact Or.inl ⟨_, s.update_of_no_match base changes hwritable hno⟩
      · exact Or.inr ⟨front, row, back, hrows, hfront, hrow, hwritable,
          s.update_of_first base changes hwritable front back row hrows hfront hrow⟩

/-- An update shows in the records of the sheet at the first one that matches, or nowhere. -/
theorem records_update (base changes : Record) :
    (∃ f, (s.update base changes).1 = .error f ∧
        (s.update base changes).2.records = s.records) ∨
      ∃ i old r, (s.update base changes).1 = .ok r ∧
        PatchesFirst base changes.get? s.records i old r (s.update base changes).2.records := by
  rcases s.update_cases base changes with
    ⟨f, h⟩ | ⟨front, row, back, hrows, hfront, hrow, hwritable, h⟩
  · rw [h]
    exact Or.inl ⟨f, rfl, rfl⟩
  · have hrecords : s.records = front.map s.toRecord ++ s.toRecord row :: back.map s.toRecord := by
      rw [records, hrows, List.map_append, List.map_cons]
    rw [h, hrecords]
    refine Or.inr ⟨front.length, s.toRecord row, s.toRecord (s.writeRow changes row), rfl, ?_⟩
    constructor
    case row => simp
    case matched => rw [← rowMatches_eq_covers, hrow]
    case earlier =>
      intro j hj q hq
      rw [List.getElem?_append_left (by simpa using hj), List.getElem?_map] at hq
      obtain ⟨other, hother, rfl⟩ := Option.map_eq_some_iff.1 hq
      rw [← rowMatches_eq_covers, hfront other (List.mem_of_getElem? hother)]
    case rows =>
      show (front ++ s.writeRow changes row :: back).map s.toRecord = _
      simp
    case names => rw [names_toRecord, names_toRecord]
    case values =>
      exact s.get?_toRecord_writeRow changes row
        fun n hn => ((s.refusal?_eq_none_iff n).1 (hwritable n hn)).1

end Sheet

end RowPatch
