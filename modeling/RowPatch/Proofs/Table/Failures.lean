import RowPatch.Proofs.Table.Rows

/-!
# How an update fails

The names of the changes are looked at before any row is.  So the first name that may not be written
decides how an update fails, and only when all of them may be written does it matter whether a row
matches.  A failed update is counted and changes nothing else.

**Results.**
* `Sheet.refusal?_eq_some_iff`: why a column may not be written.
* `Sheet.writable_or_refused`: all names may be written, or some name is the first that may not.
* `Sheet.update_of_updateFails`: a failed update is counted and changes nothing else.
* `Sheet.update_eq_error_iff`: how an update fails.
* `update_fails_exactly`: the kinds of failures, and what they leave alone.
-/

namespace RowPatch

/-- How an update of a sheet fails.  The names before the one that is refused may all be written. -/
inductive Sheet.UpdateFails (s : Sheet) (base changes : Record) : Fault → Prop
  | unknownColumn
      (front back : List String)
      (n : String)
      (hnames : changes.names = front ++ n :: back)
      (hfront : ∀ m ∈ front, m ∈ s.columns ∧ m ∉ s.readOnly)
      (hcolumn : n ∉ s.columns) :
      UpdateFails s base changes (s.unknownColumn n)
  | readOnlyColumn
      (front back : List String)
      (n : String)
      (hnames : changes.names = front ++ n :: back)
      (hfront : ∀ m ∈ front, m ∈ s.columns ∧ m ∉ s.readOnly)
      (hcolumn : n ∈ s.columns)
      (hreadOnly : n ∈ s.readOnly) :
      UpdateFails s base changes (s.readOnlyColumn n)
  | noMatch
      (hwritable : ∀ n ∈ changes.names, n ∈ s.columns ∧ n ∉ s.readOnly)
      (hno : ∀ r ∈ s.records, r.covers base = false) :
      UpdateFails s base changes (s.noMatch base)

namespace Sheet

variable (s : Sheet)

/-- Of a name that is no column it does not matter whether it is read-only. -/
theorem refusal?_eq_some_iff
    (column : String)
    (f : Fault) :
    s.refusal? column = some f ↔
      (column ∉ s.columns ∧ f = s.unknownColumn column) ∨
        (column ∈ s.columns ∧ column ∈ s.readOnly ∧ f = s.readOnlyColumn column) := by
  unfold refusal?
  simp only [columnIndex?_eq_none_iff]
  by_cases hcolumn : column ∈ s.columns
  · by_cases hreadOnly : column ∈ s.readOnly <;> simp [hcolumn, hreadOnly, eq_comm]
  · simp [hcolumn, eq_comm]

/-- All names may be written, or some name is the first that may not. -/
theorem writable_or_refused (changes : Record) :
    (∀ n ∈ changes.names, n ∈ s.columns ∧ n ∉ s.readOnly) ∨
      ∃ front n back, changes.names = front ++ n :: back ∧
        (∀ m ∈ front, m ∈ s.columns ∧ m ∉ s.readOnly) ∧
        (n ∉ s.columns ∨ n ∈ s.columns ∧ n ∈ s.readOnly) := by
  cases hrefused : changes.names.findSome? s.refusal? with
  | none =>
      left
      intro n hn
      exact (s.refusal?_eq_none_iff n).1 (List.findSome?_eq_none_iff.1 hrefused n hn)
  | some f =>
      right
      obtain ⟨front, n, back, hnames, hn, hfront⟩ := List.findSome?_eq_some_iff.1 hrefused
      refine ⟨front, n, back, hnames, fun m hm => (s.refusal?_eq_none_iff m).1 (hfront m hm), ?_⟩
      rcases (s.refusal?_eq_some_iff n f).1 hn with ⟨hcolumn, -⟩ | ⟨hcolumn, hreadOnly, -⟩
      · exact Or.inl hcolumn
      · exact Or.inr ⟨hcolumn, hreadOnly⟩

section

variable (base changes : Record)

/-- The first change that is refused is the answer, whatever the rows are. -/
theorem update_of_refused
    (front back : List String)
    (n : String)
    (f : Fault)
    (hnames : changes.names = front ++ n :: back)
    (hfront : ∀ m ∈ front, m ∈ s.columns ∧ m ∉ s.readOnly)
    (hn : s.refusal? n = some f) :
    s.update base changes = (.error f, { s with updates := s.updates + 1 }) := by
  have hrefused : changes.names.findSome? s.refusal? = some f := by
    rw [List.findSome?_eq_some_iff]
    exact ⟨front, n, back, hnames, hn, fun m hm => (s.refusal?_eq_none_iff m).2 (hfront m hm)⟩
  simp only [update, hrefused]

theorem no_row_matches_iff :
    (∀ row ∈ s.rows, s.rowMatches base row = false) ↔ ∀ r ∈ s.records, r.covers base = false := by
  simp only [records, List.forall_mem_map, rowMatches_eq_covers]

/-- A failed update is counted and changes nothing else. -/
theorem update_of_updateFails
    (f : Fault)
    (h : s.UpdateFails base changes f) :
    s.update base changes = (.error f, { s with updates := s.updates + 1 }) := by
  cases h with
  | unknownColumn front back n hnames hfront hcolumn =>
      exact s.update_of_refused base changes front back n _ hnames hfront
        ((s.refusal?_eq_some_iff n _).2 (Or.inl ⟨hcolumn, rfl⟩))
  | readOnlyColumn front back n hnames hfront hcolumn hreadOnly =>
      exact s.update_of_refused base changes front back n _ hnames hfront
        ((s.refusal?_eq_some_iff n _).2 (Or.inr ⟨hcolumn, hreadOnly, rfl⟩))
  | noMatch hwritable hno =>
      exact s.update_of_no_match base changes
        (fun n hn => (s.refusal?_eq_none_iff n).2 (hwritable n hn))
        ((s.no_row_matches_iff base).2 hno)

/-- An update fails in one of these ways, or it is granted, all of its changes may be written and some
row matches. -/
theorem updateFails_or_granted :
    (∃ f, s.UpdateFails base changes f) ∨
      (∃ r, (s.update base changes).1 = .ok r) ∧
        (∀ n ∈ changes.names, n ∈ s.columns ∧ n ∉ s.readOnly) ∧
        ∃ r ∈ s.records, r.covers base = true := by
  rcases s.writable_or_refused changes with
    hwritable | ⟨front, n, back, hnames, hfront, hcolumn | ⟨hcolumn, hreadOnly⟩⟩
  · rcases s.update_of_writable base changes
      (fun n hn => (s.refusal?_eq_none_iff n).2 (hwritable n hn)) with ⟨hmatch, hok⟩ | ⟨hno, -⟩
    · exact Or.inr ⟨hok, hwritable, hmatch⟩
    · refine Or.inl ⟨_, .noMatch hwritable fun r hr => ?_⟩
      exact Bool.eq_false_iff.2 fun hcovers => hno ⟨r, hr, hcovers⟩
  · exact Or.inl ⟨_, .unknownColumn front back n hnames hfront hcolumn⟩
  · exact Or.inl ⟨_, .readOnlyColumn front back n hnames hfront hcolumn hreadOnly⟩

/-- How an update fails. -/
theorem update_eq_error_iff (f : Fault) :
    (s.update base changes).1 = .error f ↔ s.UpdateFails base changes f := by
  constructor
  · intro h
    rcases s.updateFails_or_granted base changes with ⟨g, hg⟩ | ⟨⟨r, hr⟩, -⟩
    · rw [s.update_of_updateFails base changes g hg] at h
      exact Except.error.inj h ▸ hg
    · exact absurd (hr.symm.trans h) (by simp)
  · intro h
    rw [s.update_of_updateFails base changes f h]

theorem updates_update : (s.update base changes).2.updates = s.updates + 1 := by
  rcases s.update_cases base changes with ⟨f, h⟩ | ⟨front, row, back, -, -, -, -, h⟩ <;> rw [h]

/-- The kind of a failure tells whether the changes are to blame or the rows. -/
theorem kind_of_updateFails
    (f : Fault)
    (h : s.UpdateFails base changes f) :
    ((f.kind = .value ∨ f.kind = .readOnly) ∧
        ∃ n ∈ changes.names, n ∉ s.columns ∨ n ∈ s.readOnly) ∨
      f.kind = .notFound ∧ (∀ n ∈ changes.names, n ∈ s.columns ∧ n ∉ s.readOnly) ∧
        ∀ r ∈ s.records, r.covers base = false := by
  cases h with
  | unknownColumn front back n hnames _ hcolumn =>
      exact Or.inl ⟨Or.inl rfl, n, by simp [hnames], Or.inl hcolumn⟩
  | readOnlyColumn front back n hnames _ _ hreadOnly =>
      exact Or.inl ⟨Or.inr rfl, n, by simp [hnames], Or.inr hreadOnly⟩
  | noMatch hwritable hno => exact Or.inr ⟨rfl, hwritable, hno⟩

end

end Sheet

/-- How an update fails, and what that leaves alone.  It is refused exactly when some change names no
column or a read-only one, and the first such name is the one that the failure is about: it is
unknown if it is no column, also when it is read-only.  Otherwise the update fails exactly when no
record of the sheet covers the base record.  A failed update leaves the sheet as it was but for the
count of updates, and every update is counted once. -/
theorem update_fails_exactly
    (s : Sheet)
    (base changes : Record) :
    let r := s.update base changes
    (∀ f, r.1 = .error f ↔ s.UpdateFails base changes f) ∧
      ((∃ f, r.1 = .error f ∧ (f.kind = .value ∨ f.kind = .readOnly)) ↔
        ∃ n ∈ changes.names, n ∉ s.columns ∨ n ∈ s.readOnly) ∧
      ((∃ f, r.1 = .error f ∧ f.kind = .notFound) ↔
        (∀ n ∈ changes.names, n ∈ s.columns ∧ n ∉ s.readOnly) ∧
          ∀ old ∈ s.records, old.covers base = false) ∧
      (∀ f, r.1 = .error f → r.2 = { s with updates := s.updates + 1 }) ∧
      r.2.updates = s.updates + 1 := by
  intro r
  have hiff : ∀ f, r.1 = .error f ↔ s.UpdateFails base changes f :=
    s.update_eq_error_iff base changes
  refine ⟨hiff, ⟨?refused, ?isRefused⟩, ⟨?unmatched, ?isUnmatched⟩, ?unchanged,
    s.updates_update base changes⟩
  case refused =>
    rintro ⟨f, hf, hkind⟩
    rcases s.kind_of_updateFails base changes f ((hiff f).1 hf) with ⟨-, hn⟩ | ⟨hnotFound, -⟩
    · exact hn
    · rw [hnotFound] at hkind
      exact absurd hkind (by decide)
  case isRefused =>
    rintro ⟨n, hn, hrefused⟩
    have hnot : ¬ ∀ n ∈ changes.names, n ∈ s.columns ∧ n ∉ s.readOnly := fun hwritable =>
      hrefused.elim (· (hwritable n hn).1) (hwritable n hn).2
    rcases s.updateFails_or_granted base changes with ⟨f, hf⟩ | ⟨-, hwritable, -⟩
    · rcases s.kind_of_updateFails base changes f hf with ⟨hkind, -⟩ | ⟨-, hwritable, -⟩
      · exact ⟨f, (hiff f).2 hf, hkind⟩
      · exact absurd hwritable hnot
    · exact absurd hwritable hnot
  case unmatched =>
    rintro ⟨f, hf, hkind⟩
    rcases s.kind_of_updateFails base changes f ((hiff f).1 hf) with ⟨hother, -⟩ | ⟨-, h⟩
    · rw [hkind] at hother
      exact absurd hother (by decide)
    · exact h
  case isUnmatched =>
    rintro ⟨hwritable, hno⟩
    exact ⟨_, (hiff _).2 (.noMatch hwritable hno), rfl⟩
  case unchanged =>
    intro f hf
    exact congrArg Prod.snd (s.update_of_updateFails base changes f ((hiff f).1 hf))

/-- A valid change stands before one of a name that is read-only but no column, and no row matches.
The update is refused for that name, and the price is not written. -/
theorem price_not_written_before_unknown_column :
    let row (id price : String) : Vector Value 3 := #v[.string id, .blank, .string price]
    let s : Sheet := ⟨"items", ["id", "price", "price"], .ofList ["id", "total"],
      [row "1" "2", row "2" "5"], 7⟩
    let base : Record := .ofList [("id", .string "3")]
    let changes : Record :=
      .ofList [("price", .string "6"), ("total", .string "12"), ("id", .string "3")]
    let r := s.update base changes
    r.1 = .error ⟨.value, some "unknown column items[total]"⟩ ∧
      r.2 = { s with updates := 8 } := by
  intro row s base changes r
  obtain ⟨hfails, -, -, hunchanged, -⟩ := update_fails_exactly s base changes
  have hrefused : r.1 = .error (s.unknownColumn "total") :=
    (hfails _).2 (.unknownColumn ["price"] ["id"] "total" rfl (by decide) (by decide))
  exact ⟨hrefused, hunchanged _ hrefused⟩

end RowPatch
