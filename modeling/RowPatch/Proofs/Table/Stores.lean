import RowPatch.Proofs.Table.Rows
import RowPatch.Table.Store

/-!
# What an update does to the tables

The records of all tables of a store before and after one of them is asked for an update.

**Results.**
* `Store.update_of_sheet`: the update of a sheet.
* `Store.records?_update_of_ne`: the other tables show what they showed.
* `Store.records?_update_of_error`: so do all tables when the update is refused.
* `Store.records?_update_of_ok`: otherwise one record of the sheet has changed.
-/

namespace RowPatch

namespace Store

/-- The records of the table under a number, if there is such a table and it shows them. -/
def records? (s : Store) (id : Nat) : Option (List Record) := s.tables[id]?.bind Table.records?

variable (s : Store) (id : Nat) (base changes : Record)

theorem update_of_sheet
    (t : Sheet)
    (h : s.tables[id]? = some (.sheet t)) :
    s.update id base changes =
      ((t.update base changes).1,
        { s with tables := s.tables.set id (.sheet (t.update base changes).2) }) := by
  rw [update, h]

theorem records?_eq
    (table : Table)
    (h : s.tables[id]? = some table) :
    s.records? id = table.records? := by
  rw [records?, h, Option.bind_some]

theorem exists_sheet_of_records?
    (before : List Record)
    (h : s.records? id = some before) :
    ∃ t, s.tables[id]? = some (.sheet t) ∧ t.records = before := by
  obtain ⟨table, htable, hrecords⟩ := Option.bind_eq_some_iff.1 h
  cases table with
  | sheet t => exact ⟨t, htable, Option.some.inj hrecords⟩
  | responder t => exact absurd hrecords (by simp [Table.records?])

theorem records?_of_tables_eq_set
    (s' : Store)
    (table table' : Table)
    (htable : s.tables[id]? = some table)
    (h : s'.tables = s.tables.set id table') :
    s'.records? id = table'.records? := by
  obtain ⟨hlt, -⟩ := List.getElem?_eq_some_iff.1 htable
  simp [records?, h, hlt]

/-- The other tables show what they showed. -/
theorem records?_update_of_ne
    (k : Nat)
    (hk : k ≠ id) :
    (s.update id base changes).2.records? k = s.records? k := by
  unfold update
  split
  · rfl
  · simp only [records?, List.getElem?_set_ne (Ne.symm hk)]
  · simp only [records?, List.getElem?_set_ne (Ne.symm hk)]

/-- A refused update leaves all tables as they were. -/
theorem records?_update_of_error
    (f : Fault)
    (hf : (s.update id base changes).1 = .error f)
    (k : Nat) :
    (s.update id base changes).2.records? k = s.records? k := by
  by_cases hk : k = id
  · subst hk
    cases htable : s.tables[k]? with
    | none => rw [update, htable]
    | some table =>
        rw [s.records?_eq k table htable]
        cases table with
        | responder t =>
            exact s.records?_of_tables_eq_set k _ _ (.responder { t with updates := t.updates + 1 })
              htable (by rw [update, htable])
        | sheet t =>
            rw [update_of_sheet s k base changes t htable] at hf ⊢
            rw [s.records?_of_tables_eq_set k _ (.sheet t) _ htable rfl]
            rcases t.records_update base changes with ⟨_, -, h⟩ | ⟨i, old, r, h, -⟩
            · exact congrArg some h
            · exact absurd (h.symm.trans hf) (by simp)
  · exact s.records?_update_of_ne id base changes k hk

/-- A granted update of a sheet changes the first of its records that matches. -/
theorem records?_update_of_ok
    (before : List Record)
    (r : Record)
    (hbefore : s.records? id = some before)
    (hr : (s.update id base changes).1 = .ok r) :
    ∃ after i old, (s.update id base changes).2.records? id = some after ∧
      PatchesFirst base changes.get? before i old r after := by
  obtain ⟨t, ht, rfl⟩ := s.exists_sheet_of_records? id before hbefore
  rw [update_of_sheet s id base changes t ht] at hr ⊢
  rw [s.records?_of_tables_eq_set id _ (.sheet t) _ ht rfl]
  rcases t.records_update base changes with ⟨f, h, -⟩ | ⟨i, old, r', h, hpatches⟩
  · exact absurd (h.symm.trans hr) (by simp)
  · cases Except.ok.inj (h.symm.trans hr)
    exact ⟨_, i, old, rfl, hpatches⟩

end Store

end RowPatch
