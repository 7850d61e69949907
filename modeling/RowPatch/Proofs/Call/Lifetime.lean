import RowPatch.Proofs.Call.OneRow
import RowPatch.Proofs.Table.Protected

/-!
# The lifetime of a sheet

A session reaches a sheet through pushes and updates alone: those that are steps of their own, those
that evaluating the table of a call brings about, and the one that the call asks for.  So what pushes
and updates keep of a sheet holds after every session.

**Results.**
* `Store.HasSheet.update`, `Store.HasSheet.force`, `Store.HasSheet.runCall`: what every update keeps
  of a sheet, a call keeps.
* `Session.hasSheet_step`, `Session.hasSheet_run`: one step, and a whole session.
* `GrownFrom.push`, `GrownFrom.update`: what they keep of a sheet that was new once.
* `sheet_keeps_pushed_rows`: the rows of a sheet are the ones that it took, in order, with their
  protected cells.
-/

namespace RowPatch

/-- The updates that evaluating a table brings about. -/
def TableSource.effects : TableSource → List Effect
  | .ready _ => []
  | .deferred _ effects _ => effects

/-- A step may write a record: in its update, in an effect of its table, or merged from its changes. -/
inductive Step.Writes : Step → Record → Prop
  | update (table : Nat) (base changes : Record) :
      Writes (.update table base changes) changes
  | effect (kept : Bool) (table : TableSource) (base : Value) (changes : List Value) (e : Effect)
      (he : e ∈ table.effects) :
      Writes (.call kept table base changes) e.changes
  | merged (kept : Bool) (table : TableSource) (base : Value) (changes : List Record) :
      Writes (.call kept table base (changes.map .record)) (.mergeAll changes)

namespace Store

/-- There is a sheet under the number, and `P` holds of it. -/
def HasSheet (s : Store) (id : Nat) (P : Sheet → Prop) : Prop :=
  ∃ t, s.tables[id]? = some (.sheet t) ∧ P t

variable {s : Store} {id : Nat} {P : Sheet → Prop}

theorem hasSheet_of_tables_eq
    {s' : Store}
    (h : s.HasSheet id P)
    (htables : s'.tables = s.tables) :
    s'.HasSheet id P := by
  obtain ⟨t, ht, hP⟩ := h
  exact ⟨t, htables ▸ ht, hP⟩

section Update

variable {written : Record → Prop}
  (hupdate : ∀ t base changes, written changes → P t → P (Sheet.update t base changes).2)
include hupdate

theorem HasSheet.update
    (h : s.HasSheet id P)
    (k : Nat)
    (base changes : Record)
    (hchanges : written changes) :
    (s.update k base changes).2.HasSheet id P := by
  obtain ⟨t, ht, hP⟩ := h
  by_cases hk : k = id
  · subst hk
    have hlt := (List.getElem?_eq_some_iff.1 ht).1
    rw [s.update_of_sheet k base changes t ht]
    exact ⟨_, List.getElem?_set_self hlt, hupdate t base changes hchanges hP⟩
  · -- an update of another table, or of none, leaves this one in its place
    refine ⟨t, ?_, hP⟩
    unfold Store.update
    split
    · exact ht
    · rw [← ht]
      exact List.getElem?_set_ne hk
    · rw [← ht]
      exact List.getElem?_set_ne hk

theorem HasSheet.apply
    (effects : List Effect) :
    ∀ {s : Store}, s.HasSheet id P → (∀ e ∈ effects, written e.changes) →
      (s.apply effects).HasSheet id P := by
  induction effects with
  | nil => exact fun h _ => h
  | cons e effects ih =>
      intro s h heffects
      obtain ⟨he, hrest⟩ := List.forall_mem_cons.1 heffects
      exact ih (h.update hupdate e.table e.base e.changes he) hrest

/-- What updates keep, the evaluation of a table keeps. -/
theorem HasSheet.force
    (h : s.HasSheet id P)
    (table : TableSource)
    (htable : ∀ e ∈ table.effects, written e.changes) :
    (table.force s).2.HasSheet id P := by
  cases table with
  | ready v => exact h
  | deferred v effects cancels =>
      have happly : ((s.log .forced).apply effects).HasSheet id P :=
        HasSheet.apply hupdate effects (hasSheet_of_tables_eq h rfl) htable
      unfold TableSource.force
      cases cancels with
      | false => exact happly
      | true => exact hasSheet_of_tables_eq happly rfl

/-- What updates keep, a call keeps. -/
theorem HasSheet.runCall
    (h : s.HasSheet id P)
    (stage : Stage)
    (table : TableSource)
    (base : Value)
    (changes : List Value)
    (htable : ∀ e ∈ table.effects, written e.changes)
    (hchanges : ∀ rs : List Record, changes = rs.map .record → written (.mergeAll rs)) :
    (runCall storeHost stage ⟨table.force, base, changes⟩ s).world.HasSheet id P := by
  have hevaluated : (if storeHost.isCancelled s then s else (table.force s).2).HasSheet id P := by
    split
    · exact h
    · exact h.force hupdate table htable
  rcases runCall_updates_or_stops storeHost stage ⟨table.force, base, changes⟩ s with
    ⟨hworld, -⟩ | ⟨ref, base', rs, -, -, hrs, -, hworld⟩
  · rw [hworld]
    exact hevaluated
  · rw [hworld]
    exact hevaluated.update hupdate ref.id base' _ (hchanges rs hrs)

end Update

/-- A push that is not refused adds to the sheet under its number, and no other push changes a
table. -/
theorem push_cases
    (s : Store)
    (k : Nat)
    (row : List Value) :
    (∃ f, s.push k row = (some f, s)) ∨
      ∃ t t', s.tables[k]? = some (.sheet t) ∧ t.push row = .ok t' ∧
        s.push k row = (none, { s with tables := s.tables.set k (.sheet t') }) := by
  unfold push
  split
  · rename_i t ht
    cases hpush : t.push row with
    | ok t' => exact Or.inr ⟨t, t', ht, hpush, rfl⟩
    | error f => exact Or.inl ⟨f, rfl⟩
  · exact Or.inl ⟨_, rfl⟩

end Store

namespace Session

/-- The row that a step adds to the sheet under a number, if it adds one: a row that is pushed there
and not refused. -/
def addedRow (id : Nat) : Step → Answer → List (List Value)
  | .push table row, .pushed none => if table = id then [row] else []
  | _, _ => []

/-- The rows that steps add to the sheet under a number, in order. -/
def addedRows (id : Nat) (s : Session) : List Step → List (List Value)
  | [] => []
  | step :: steps =>
      addedRow id step (s.step step).1 ++ (s.step step).2.addedRows id steps

section

variable {id : Nat} {written : Record → Prop} {P : List (List Value) → Sheet → Prop}
  (hpush : ∀ pushed t t' row, P pushed t → Sheet.push t row = .ok t' → P (pushed ++ [row]) t')
  (hupdate : ∀ pushed t base changes, written changes → P pushed t →
    P pushed (Sheet.update t base changes).2)
include hpush hupdate

/-- What pushes and updates keep, a step keeps. -/
theorem hasSheet_step
    (s : Session)
    (pushed : List (List Value))
    (step : Step)
    (hwrites : ∀ r, step.Writes r → written r)
    (h : s.store.HasSheet id (P pushed)) :
    (s.step step).2.store.HasSheet id (P (pushed ++ addedRow id step (s.step step).1)) := by
  have hquiet : s.store.quiet.HasSheet id (P pushed) := Store.hasSheet_of_tables_eq h rfl
  have hnone : ∀ store : Store, store.HasSheet id (P pushed) →
      store.HasSheet id (P (pushed ++ [])) := by
    intro store hstore
    rwa [List.append_nil]
  cases step with
  | cancel => exact hnone _ (Store.hasSheet_of_tables_eq h rfl)
  | renew => exact hnone _ (Store.hasSheet_of_tables_eq h rfl)
  | push table row =>
      unfold Session.step
      rcases s.store.quiet.push_cases table row with ⟨f, hrefused⟩ | ⟨t, t', ht, htook, htaken⟩
      · simpa [addedRow, hrefused] using hquiet
      · obtain ⟨u, hu, hP⟩ := hquiet
        simp only [htaken, addedRow]
        split
        · rename_i hid
          subst hid
          cases ht.symm.trans hu
          have hlt := (List.getElem?_eq_some_iff.1 ht).1
          exact ⟨t', List.getElem?_set_self hlt, hpush pushed t t' row hP htook⟩
        · rename_i hid
          rw [List.append_nil]
          exact ⟨u, (List.getElem?_set_ne hid).trans hu, hP⟩
  | update table base changes =>
      have hchanges := hwrites changes (.update table base changes)
      exact hnone _ (hquiet.update (hupdate pushed) table base changes hchanges)
  | call kept table base changes =>
      refine hnone _ (hquiet.runCall (hupdate pushed) _ table base changes ?_ ?_)
      · intro e he
        exact hwrites e.changes (.effect kept table base changes e he)
      · rintro rs rfl
        exact hwrites _ (.merged kept table base rs)

/-- What pushes and updates keep, a session keeps. -/
theorem hasSheet_run
    (steps : List Step) :
    ∀ (s : Session) (pushed : List (List Value)),
      (∀ step ∈ steps, ∀ r, step.Writes r → written r) → s.store.HasSheet id (P pushed) →
        (s.run steps).store.HasSheet id (P (pushed ++ s.addedRows id steps)) := by
  induction steps with
  | nil =>
      intro s pushed _ h
      simpa [addedRows, run] using h
  | cons step steps ih =>
      intro s pushed hwrites h
      obtain ⟨hstep, hrest⟩ := List.forall_mem_cons.1 hwrites
      rw [addedRows, ← List.append_assoc]
      exact ih _ _ hrest (hasSheet_step hpush hupdate s pushed step hstep h)

end

end Session

/-- A sheet as it may have become since it was new: named and laid out as it was, and with the rows
that it took. -/
structure GrownFrom (name : String) (columns : List String) (readOnly : SortedSet String)
    (written : Record → Prop) (pushed : List (List Value)) (t : Sheet) : Prop where
  name : t.name = name
  columns : t.columns = columns
  readOnly : t.readOnly = readOnly
  rows : t.KeepsRows written pushed

section

variable {name : String} {columns : List String} {readOnly : SortedSet String}
  {written : Record → Prop} {pushed : List (List Value)} {t : Sheet}
  (h : GrownFrom name columns readOnly written pushed t)
include h

theorem GrownFrom.push
    (t' : Sheet)
    (row : List Value)
    (htook : t.push row = .ok t') :
    GrownFrom name columns readOnly written (pushed ++ [row]) t' := by
  have hrows := t.keepsRows_push written pushed h.rows t' row htook
  unfold Sheet.push at htook
  split at htook
  · cases htook
    exact ⟨h.name, h.columns, h.readOnly, hrows⟩
  · exact absurd htook (by simp)

theorem GrownFrom.update
    (base changes : Record)
    (hchanges : written changes) :
    GrownFrom name columns readOnly written pushed (t.update base changes).2 := by
  have hrows := t.keepsRows_update written pushed h.rows base changes hchanges
  rcases t.update_cases base changes with ⟨f, hupdate⟩ | ⟨_, _, _, -, -, -, -, hupdate⟩
  · rw [hupdate] at hrows ⊢
    exact ⟨h.name, h.columns, h.readOnly, hrows⟩
  · rw [hupdate] at hrows ⊢
    exact ⟨h.name, h.columns, h.readOnly, hrows⟩

end

/-- A sheet that is new when a session starts keeps its columns, and its rows are the ones that were
pushed and not refused, in that order.  Each row has one cell for each column, so that every place an
update writes to is there.  Under a read-only name or an earlier column of a repeated name it has the
cell that it was pushed with, and elsewhere that cell or one that a step wrote under the name. -/
theorem sheet_keeps_pushed_rows
    (name : String)
    (columns : List String)
    (readOnly : SortedSet String)
    (id : Nat)
    (s : Session)
    (hnew : s.store.tables[id]? = some (.sheet (.new name columns readOnly)))
    (steps : List Step) :
    ∃ t, (s.run steps).store.tables[id]? = some (.sheet t) ∧
      t.name = name ∧ t.columns = columns ∧ t.readOnly = readOnly ∧
      t.rows.length = (s.addedRows id steps).length ∧
      (∀ n i, columnIndex? n t.columns = some i → ∀ cells ∈ t.cells, (i : Nat) < cells.length) ∧
      List.Forall₂ (KeepsRow columns readOnly fun r => ∃ step ∈ steps, step.Writes r)
        (s.addedRows id steps) t.cells := by
  have hstart : s.store.HasSheet id
      (GrownFrom name columns readOnly (fun r => ∃ step ∈ steps, step.Writes r) []) :=
    ⟨_, hnew, rfl, rfl, rfl, .nil⟩
  obtain ⟨t, ht, rfl, rfl, rfl, hkeeps⟩ :=
    Session.hasSheet_run (fun _ _ t' row h htook => h.push t' row htook)
      (fun _ _ base changes hchanges h => h.update base changes hchanges) steps s []
      (fun step hstep r hr => ⟨step, hstep, hr⟩) hstart
  rw [List.nil_append] at hkeeps
  refine ⟨t, ht, rfl, rfl, rfl, ?count, ?inside, hkeeps⟩
  case count => simpa [Sheet.cells] using hkeeps.length_eq.symm
  case inside =>
    intro n i _ cells hcells
    obtain ⟨row, -, rfl⟩ := List.mem_map.1 hcells
    simp

/-- A sheet with a read-only and a repeated column.  A row of the wrong width is left out, and neither
an update nor a call, cancelled after its table was evaluated, reaches the first two cells. -/
theorem first_cells_survive_session :
    let items : Sheet := .new "items" ["id", "tag", "tag"] (.ofList ["id"])
    let s : Session := .ofTables [.sheet items]
    let first : Record := .ofList [("id", .string "1")]
    let tag (v : String) : Record := .ofList [("tag", .string v)]
    let table : TableSource := .deferred (.table ⟨0, "items"⟩) [⟨0, first, tag "d"⟩] true
    let steps : List Step :=
      [.push 0 [.string "1", .string "a", .string "b"], .push 0 [.string "2"],
        .update 0 first (tag "c"), .call false table (.record first) [.record (tag "e")],
        .push 0 [.string "2", .blank, .blank]]
    ∃ t kept added, (s.run steps).store.tables[0]? = some (.sheet t) ∧ t.cells = [kept, added] ∧
      kept[0]? = some (.string "1") ∧ kept[1]? = some (.string "a") := by
  intro items s first tag table steps
  obtain ⟨t, ht, -, -, -, -, -, hrows⟩ :=
    sheet_keeps_pushed_rows "items" ["id", "tag", "tag"] (.ofList ["id"]) 0 s rfl steps
  have hadded : s.addedRows 0 steps = [[.string "1", .string "a", .string "b"],
      [.string "2", .blank, .blank]] := rfl
  rw [hadded] at hrows
  generalize hcells : t.cells = cells at hrows
  obtain _ | ⟨hkept, _ | ⟨_, _ | _⟩⟩ := hrows
  exact ⟨t, _, _, ht, hcells, hkept.protectedCells 0 ⟨"id", rfl, Or.inl (by decide)⟩,
    hkept.protectedCells 1 ⟨"tag", rfl, Or.inr ⟨2, by decide, rfl⟩⟩⟩

end RowPatch
