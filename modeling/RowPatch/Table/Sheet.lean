import RowPatch.Value.Equality
import RowPatch.Value.Text

/-!
# Sheets

A sheet is a table held in memory: named columns, some of them read-only, and rows with one cell per
column.  A column name may be repeated; what is said under the name then concerns its last column.
Rows have the width of the sheet by their type, so no cell is ever looked for outside a row.

An update writes to the first row that matches the base record, and only when every change names a
column that may be written.  So it changes one row or nothing.

**Results.**
* `replaceFirst_eq_none_iff`: nothing is replaced when no element qualifies.
* `columnIndex?_eq_none_iff`, `getElem_columnIndex?`: a column index is the place of a column name.
-/

namespace RowPatch

/-- Replaces the first element that qualifies and tells what it became. -/
def replaceFirst {α : Type} (p : α → Bool) (f : α → α) : List α → Option (α × List α)
  | [] => none
  | a :: l =>
      if p a then some (f a, f a :: l)
      else
        match replaceFirst p f l with
        | none => none
        | some (b, m) => some (b, a :: m)

theorem replaceFirst_eq_none_iff {α : Type} (p : α → Bool) (f : α → α) :
    ∀ l : List α, replaceFirst p f l = none ↔ ∀ a ∈ l, p a = false
  | [] => by simp [replaceFirst]
  | a :: l => by
      have ih := replaceFirst_eq_none_iff p f l
      unfold replaceFirst
      by_cases h : p a = true
      · simp [h]
      · rw [if_neg h]
        cases hr : replaceFirst p f l with
        | none => simp_all
        | some r =>
            rw [hr] at ih
            simp only [reduceCtorEq, false_iff, List.mem_cons, forall_eq_or_imp, not_and] at ih ⊢
            exact fun _ => ih

/-- The place of a column; of a repeated name the last place. -/
def columnIndex? (n : String) : (columns : List String) → Option (Fin columns.length)
  | [] => none
  | c :: cs =>
      match columnIndex? n cs with
      | some i => some i.succ
      | none => if c = n then some ⟨0, Nat.zero_lt_succ _⟩ else none

theorem columnIndex?_eq_none_iff (n : String) :
    ∀ columns : List String, columnIndex? n columns = none ↔ n ∉ columns
  | [] => by simp [columnIndex?]
  | c :: cs => by
      have ih := columnIndex?_eq_none_iff n cs
      unfold columnIndex?
      cases hc : columnIndex? n cs with
      | some i =>
          have : n ∈ cs := by
            apply Classical.byContradiction
            intro h
            rw [ih.2 h] at hc
            exact absurd hc (by simp)
          simp [this]
      | none =>
          have : n ∉ cs := ih.1 hc
          by_cases e : c = n
          · simp [e]
          · simp [e, Ne.symm e, this]

/-- A column index is the place of its name. -/
theorem getElem_columnIndex? (n : String) :
    ∀ (columns : List String) (i : Fin columns.length),
      columnIndex? n columns = some i → columns[i] = n
  | c :: cs, i, h => by
      have ih := getElem_columnIndex? n cs
      unfold columnIndex? at h
      cases hc : columnIndex? n cs with
      | some j =>
          rw [hc] at h
          cases h
          exact ih j hc
      | none =>
          rw [hc] at h
          simp only at h
          split at h
          · cases h
            assumption
          · exact absurd h (by simp)

/-- A table held in memory. -/
structure Sheet where
  name : String
  columns : List String
  readOnly : SortedSet String
  rows : List (Vector Value columns.length)
  /-- How many updates were asked for, granted or not. -/
  updates : Nat

namespace Sheet

/-- A sheet without rows. -/
def new (name : String) (columns : List String) (readOnly : SortedSet String) : Sheet :=
  ⟨name, columns, readOnly, [], 0⟩

/-- The refusal of a row with the wrong number of cells. -/
def wrongWidth (s : Sheet) (width : Nat) : Fault :=
  ⟨.value, some ("schema mismatch for " ++ s.name ++ ": expected " ++ toString s.columns.length ++
    " values, got " ++ toString width)⟩

/-- The refusal of a change to something that is no column. -/
def unknownColumn (s : Sheet) (column : String) : Fault :=
  ⟨.value, some ("unknown column " ++ s.name ++ "[" ++ column ++ "]")⟩

/-- The refusal of a change to a read-only column. -/
def readOnlyColumn (s : Sheet) (column : String) : Fault :=
  ⟨.readOnly, some ("column " ++ s.name ++ "[" ++ column ++ "] is read-only")⟩

/-- The answer when no row matches. -/
def noMatch (s : Sheet) (base : Record) : Fault :=
  ⟨.notFound, some ("no row in " ++ s.name ++ " matches " ++ base.text)⟩

/-- Adds a row at the end; its cells go to the columns in order. -/
def push (s : Sheet) (row : List Value) : Except Fault Sheet :=
  if h : row.length = s.columns.length then
    .ok { s with rows := s.rows ++ [⟨row.toArray, by simpa using h⟩] }
  else .error (s.wrongWidth row.length)

/-- Adds rows one by one, leaving out those that are refused, and tells the refusals. -/
def pushAll (s : Sheet) : List (List Value) → List (Option Fault) × Sheet
  | [] => ([], s)
  | row :: rows =>
      match s.push row with
      | .ok s' =>
          let r := s'.pushAll rows
          (none :: r.1, r.2)
      | .error f =>
          let r := s.pushAll rows
          (some f :: r.1, r.2)

/-- The record that a row shows. -/
def toRecord (s : Sheet) (row : Vector Value s.columns.length) : Record :=
  Record.ofList (s.columns.zip row.toList)

/-- The records that the rows show. -/
def records (s : Sheet) : List Record := s.rows.map s.toRecord

/-- The cell of a row under a column name. -/
def cell? (s : Sheet) (row : Vector Value s.columns.length) (column : String) : Option Value :=
  (columnIndex? column s.columns).map row.get

/-- Whether each field of `base` equals the cell under its name. -/
def rowMatches (s : Sheet) (base : Record) (row : Vector Value s.columns.length) : Bool :=
  base.toList.all fun f =>
    match s.cell? row f.1 with
    | none => false
    | some v => v.same f.2

/-- Why a change to a column is refused, if it is. -/
def refusal? (s : Sheet) (column : String) : Option Fault :=
  if columnIndex? column s.columns = none then some (s.unknownColumn column)
  else if column ∈ s.readOnly then some (s.readOnlyColumn column)
  else none

/-- Puts a value under a column name. -/
def writeCell (s : Sheet) (row : Vector Value s.columns.length) (column : String) (v : Value) :
    Vector Value s.columns.length :=
  match columnIndex? column s.columns with
  | none => row
  | some i => row.set i v

/-- Writes every change to a row. -/
def writeRow (s : Sheet) (changes : Record) (row : Vector Value s.columns.length) :
    Vector Value s.columns.length :=
  changes.toList.foldl (fun row f => s.writeCell row f.1 f.2) row

/-- Writes `changes` to the first row that matches `base` and answers with the row as it is then.
The first change that is refused, if any, is the answer whether or not a row matches. -/
def update (s : Sheet) (base changes : Record) : Except Fault Record × Sheet :=
  let counted := { s with updates := s.updates + 1 }
  match changes.names.findSome? s.refusal? with
  | some f => (.error f, counted)
  | none =>
      match replaceFirst (s.rowMatches base) (s.writeRow changes) s.rows with
      | none => (.error (s.noMatch base), counted)
      | some (row, rows) => (.ok (s.toRecord row), { counted with rows := rows })

end Sheet

end RowPatch
