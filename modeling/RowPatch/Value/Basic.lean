import RowPatch.Number.Binary64

/-!
# Values

What expressions evaluate to.  A record keeps its fields in the order in which their names were
first inserted.  A field list is indexed by the names that it must not use again, so a name stands
at most once in a record.

**Results.**
* `Cells.put_fst`, `Cells.get?_put`: inserting returns the previous value and changes one field.
* `Record.get?_insert`: the same for records.
-/

namespace RowPatch

/-- The kinds of errors that flow through evaluation as values. -/
inductive FaultKind where
  | null
  | divisionByZero
  | value
  | reference
  | name
  | number
  | notAvailable
  /-- No row of the table matched the base record. -/
  | notFound
  /-- A write named a column that the data source refuses to update. -/
  | readOnly
  /-- The data source rejected a write because the row had changed. -/
  | conflict
deriving DecidableEq

/-- The code under which an error is shown. -/
def FaultKind.code : FaultKind → String
  | null => "#NULL!"
  | divisionByZero => "#DIV/0!"
  | value => "#VALUE!"
  | reference => "#REF!"
  | name => "#NAME?"
  | number => "#NUM!"
  | notAvailable => "#N/A"
  | notFound => "#NOTFOUND!"
  | readOnly => "#READONLY!"
  | conflict => "#CONFLICT!"

/-- An error that flows through evaluation as a value. -/
structure Fault where
  kind : FaultKind
  message? : Option String
deriving DecidableEq

/-- The code of an error, followed by its message if it has one. -/
def Fault.text (f : Fault) : String :=
  match f.message? with
  | none => f.kind.code
  | some m => f.kind.code ++ " " ++ m

/-- A reference to a table that can be written to: its number among the tables, and its name. -/
structure TableRef where
  id : Nat
  name : String
deriving DecidableEq

mutual

/-- The value of an expression. -/
inductive Value : Type where
  | blank
  | number (n : Binary64)
  | string (s : String)
  | boolean (b : Bool)
  | fault (f : Fault)
  | record (cells : Cells [])
  /-- A list of rows that belongs to no table and cannot be written to. -/
  | snapshot (rows : List (Cells []))
  | table (ref : TableRef)

/-- Named values, none of whose names is in the index. -/
inductive Cells : List String → Type where
  | nil {used : List String} : Cells used
  | cons {used : List String} (name : String) (fresh : name ∉ used) (value : Value)
      (rest : Cells (name :: used)) : Cells used

end

/-- A record value. -/
abbrev Record := Cells []

instance : Inhabited Value := ⟨.blank⟩

instance {used : List String} : Inhabited (Cells used) := ⟨.nil⟩

/-- The kinds of values that are told apart in messages. -/
inductive ValueKind where
  | blank
  | number
  | text
  | boolean
  | error
  | record
  | table
deriving DecidableEq

/-- The word for a kind of value. -/
def ValueKind.word : ValueKind → String
  | blank => "blank"
  | number => "number"
  | text => "text"
  | boolean => "boolean"
  | error => "error"
  | record => "record"
  | table => "table"

/-- The kind of a value. -/
def Value.kind : Value → ValueKind
  | .blank => .blank
  | .number _ => .number
  | .string _ => .text
  | .boolean _ => .boolean
  | .fault _ => .error
  | .record _ => .record
  | .snapshot _ => .table
  | .table _ => .table

namespace Cells

/-- The value under a name. -/
def get? (n : String) : {used : List String} → Cells used → Option Value
  | _, .nil => none
  | _, .cons m _ v rest => if m = n then some v else get? n rest

/-- The place of a name among the fields. -/
def position? (n : String) : {used : List String} → Cells used → Option Nat
  | _, .nil => none
  | _, .cons m _ _ rest => if m = n then some 0 else (position? n rest).map (· + 1)

/-- Gives `n` the value `v`, in its place or else at the end, and tells the value it had. -/
def put (n : String) (v : Value) :
    {used : List String} → n ∉ used → Cells used → Option Value × Cells used
  | _, h, .nil => (none, .cons n h v .nil)
  | _, h, .cons m hm w rest =>
      if e : n = m then (some w, .cons m hm v rest)
      else
        let r := put n v (List.not_mem_cons_of_ne_of_not_mem e h) rest
        (r.1, .cons m hm w r.2)

/-- The fields in order. -/
def toList : {used : List String} → Cells used → List (String × Value)
  | _, .nil => []
  | _, .cons n _ v rest => (n, v) :: toList rest

/-- The field names in order. -/
def names {used : List String} (cs : Cells used) : List String := cs.toList.map Prod.fst

/-- How many fields there are. -/
def size {used : List String} (cs : Cells used) : Nat := cs.toList.length

/-- Whether there is no field. -/
def isEmpty : {used : List String} → Cells used → Bool
  | _, .nil => true
  | _, .cons .. => false

@[simp] theorem get?_nil
    {used : List String}
    (n : String) :
    (nil : Cells used).get? n = none := rfl

theorem get?_cons
    {used : List String}
    (n m : String)
    (h : m ∉ used)
    (v : Value)
    (rest : Cells (m :: used)) :
    (cons m h v rest).get? n = if m = n then some v else rest.get? n := rfl

/-- A name that is in the index is not in the list. -/
theorem get?_eq_none_of_mem {n : String} :
    {used : List String} → (cs : Cells used) → n ∈ used → cs.get? n = none
  | _, .nil, _ => rfl
  | _, .cons m hm v rest, h => by
      have hne : m ≠ n := by
        rintro rfl
        exact hm h
      rw [get?_cons, if_neg hne]
      exact get?_eq_none_of_mem rest (List.mem_cons_of_mem _ h)

/-- Inserting tells the value that look-up gave before. -/
theorem put_fst (n : String) (v : Value) :
    {used : List String} → (h : n ∉ used) → (cs : Cells used) →
      (cs.put n v h).1 = cs.get? n
  | _, _, .nil => rfl
  | _, h, .cons m hm w rest => by
      have ih := fun h' => put_fst n v h' rest
      unfold put
      split
      · rename_i e
        rw [get?_cons, if_pos e.symm]
      · rename_i e
        rw [get?_cons, if_neg (Ne.symm e)]
        exact ih _

/-- Inserting changes what is found under one name. -/
theorem get?_put (n m : String) (v : Value) :
    {used : List String} → (h : n ∉ used) → (cs : Cells used) →
      (cs.put n v h).2.get? m = if n = m then some v else cs.get? m
  | _, _, .nil => by simp [put, get?_cons]
  | _, h, .cons k hk w rest => by
      have ih := fun h' => get?_put n m v h' rest
      unfold put
      split
      · rename_i e
        subst e
        rw [get?_cons, get?_cons]
        by_cases e' : n = m <;> simp [e']
      · rename_i e
        rw [get?_cons, get?_cons, ih]
        by_cases e' : k = m
        · subst e'
          simp [e]
        · simp [e']

end Cells

namespace Record

/-- The record without fields. -/
def empty : Record := .nil

/-- Gives a field a value and tells the value it had. -/
def insert (r : Record) (n : String) (v : Value) : Option Value × Record :=
  r.put n v List.not_mem_nil

/-- Gives a field a value. -/
def set (r : Record) (n : String) (v : Value) : Record := (r.insert n v).2

/-- Gives each field of a list its value, in order. -/
def setAll (r : Record) (l : List (String × Value)) : Record :=
  l.foldl (fun r f => r.set f.1 f.2) r

/-- The record made by inserting fields in order. -/
def ofList (l : List (String × Value)) : Record := empty.setAll l

theorem get?_insert
    (r : Record)
    (n m : String)
    (v : Value) :
    (r.insert n v).2.get? m = if n = m then some v else r.get? m :=
  Cells.get?_put n m v List.not_mem_nil r

theorem get?_set
    (r : Record)
    (n m : String)
    (v : Value) :
    (r.set n v).get? m = if n = m then some v else r.get? m :=
  get?_insert r n m v

end Record

end RowPatch
