import RowPatch.SortedSet

/-!
# Types of columns, records and tables

A type is a scalar or a row.  A row lists its fields by name, says whether it stands for one record
or for the rows of a table, and remembers the data sources that it descends from.

Field lists are increasing by construction: a list indexed by `lo` holds only names above `lo`.  So
a field list has no repeated name and its order carries no information.
-/

namespace RowPatch

/-- A data source that rows descend from, with the columns that it refuses to write. -/
structure Origin where
  name : String
  readOnly : SortedSet String
deriving DecidableEq

/-- Origins are ordered by name, then by their read-only columns. -/
instance : Keyed Origin where
  key o := o.name :: o.readOnly.toList
  key_inj := by
    rintro ⟨a, s, hs⟩ ⟨b, t, ht⟩ h
    simp only [List.cons.injEq] at h
    obtain ⟨rfl, rfl⟩ := h
    rfl

/-- The types without fields. -/
inductive Scalar where
  | blank
  | boolean
  | number
  | decimal
  | text
  | date
  | dateTime
  | time
  | error
deriving DecidableEq

/-- What a row of fields describes. -/
inductive Shape where
  /-- One record. -/
  | record
  /-- The rows of a table; `failed` marks a table whose own binding failed. -/
  | table (failed : Bool)
deriving DecidableEq

/-- The name `n` may follow `lo` in a field list. -/
def Above : Option String → String → Prop
  | none, _ => True
  | some m, n => m < n

instance : (lo : Option String) → (n : String) → Decidable (Above lo n)
  | none, _ => isTrue trivial
  | some m, n => inferInstanceAs (Decidable (m < n))

@[simp] theorem above_none (n : String) : Above none n := trivial

@[simp] theorem above_some (m n : String) : Above (some m) n ↔ m < n := Iff.rfl

theorem Above.of_lt {m n : String} (h : m < n) : Above (some m) n := h

theorem Above.trans {m n : String} : {lo : Option String} → Above lo m → m < n → Above lo n
  | none, _, _ => trivial
  | some _, h, h' => String.lt_trans h h'

mutual

/-- The type of an expression. -/
inductive DataType : Type where
  | scalar (kind : Scalar)
  | row (shape : Shape) (origins : SortedSet Origin) (fields : Fields none)

/-- Named field types in increasing order of name, all of them above the index. -/
inductive Fields : Option String → Type where
  | nil {lo : Option String} : Fields lo
  | cons {lo : Option String} (name : String) (above : Above lo name) (type : DataType)
      (rest : Fields (some name)) : Fields lo

end

namespace DataType

@[match_pattern] abbrev blank : DataType := .scalar .blank

@[match_pattern] abbrev error : DataType := .scalar .error

/-- The type of one record. -/
@[match_pattern] abbrev record (origins : SortedSet Origin) (fields : Fields none) : DataType :=
  .row .record origins fields

/-- The type of a table. -/
@[match_pattern] abbrev table (failed : Bool) (origins : SortedSet Origin)
    (fields : Fields none) : DataType :=
  .row (.table failed) origins fields

instance : Inhabited DataType := ⟨blank⟩

/-- Whether the type is a table type. -/
def isTable : DataType → Bool
  | .table .. => true
  | _ => false

/-- Whether the type is a record type. -/
def isRecord : DataType → Bool
  | .record .. => true
  | _ => false

/-- The fields of a record, or of the rows of a table. -/
def fields? : DataType → Option (Fields none)
  | .row _ _ fields => some fields
  | .scalar _ => none

/-- The fields, when the type describes one record. -/
def recordFields? : DataType → Option (Fields none)
  | .record _ fields => some fields
  | _ => none

/-- The data sources that a row type descends from; a scalar has none. -/
def origins : DataType → SortedSet Origin
  | .row _ origins _ => origins
  | .scalar _ => ∅

end DataType

namespace Fields

instance {lo : Option String} : Inhabited (Fields lo) := ⟨.nil⟩

/-- The type of the field `n`. -/
def find? (n : String) : {lo : Option String} → Fields lo → Option DataType
  | _, .nil => none
  | _, .cons m _ t rest => if m = n then some t else find? n rest

/-- Gives the field `n` the type `t`, adding the field if there is none. -/
def set (n : String) (t : DataType) :
    {lo : Option String} → Above lo n → Fields lo → Fields lo
  | _, h, .nil => .cons n h t .nil
  | _, h, .cons m hm s rest =>
      if hlt : n < m then .cons n h t (.cons m (.of_lt hlt) s rest)
      else if hgt : m < n then .cons m hm s (set n t (.of_lt hgt) rest)
      else .cons m hm t rest

/-- The fields with their names, in order. -/
def toList : {lo : Option String} → Fields lo → List (String × DataType)
  | _, .nil => []
  | _, .cons n _ t rest => (n, t) :: toList rest

/-- The field names, in order. -/
def names {lo : Option String} (fs : Fields lo) : List String := fs.toList.map Prod.fst

/-- How many fields there are. -/
def size {lo : Option String} (fs : Fields lo) : Nat := fs.toList.length

/-- Whether there is no field. -/
def isEmpty : {lo : Option String} → Fields lo → Bool
  | _, .nil => true
  | _, .cons .. => false

/-- Gives the field `n` of a whole field list the type `t`. -/
def insert (fs : Fields none) (n : String) (t : DataType) : Fields none :=
  fs.set n t (above_none n)

/-- The field list of named types; of a repeated name the last type counts. -/
def ofList (l : List (String × DataType)) : Fields none :=
  l.foldl (fun fs f => fs.insert f.1 f.2) .nil

end Fields

namespace DataType

/-- Adds origins to a record type and leaves the other types alone. -/
def addOrigins (t : DataType) (more : SortedSet Origin) : DataType :=
  match t with
  | .record origins fields => .record (origins ∪ more) fields
  | _ => t

/-- Gives a record type a field and leaves the other types alone. -/
def addField (t : DataType) (name : String) (type : DataType) : DataType :=
  match t with
  | .record origins fields => .record origins (fields.insert name type)
  | _ => t

end DataType

mutual

/-- Equality of types is decidable. -/
def DataType.decEq : (a b : DataType) → Decidable (a = b)
  | .scalar a, .scalar b =>
      if h : a = b then isTrue (by rw [h]) else isFalse (by simp [h])
  | .row s o fs, .row s' o' gs =>
      if h : s = s' ∧ o = o' then
        match Fields.decEq fs gs with
        | isTrue h' => isTrue (by rw [h.1, h.2, h'])
        | isFalse h' => isFalse (by simp [h'])
      else isFalse (by simp only [DataType.row.injEq]; exact fun e => h ⟨e.1, e.2.1⟩)
  | .scalar _, .row .. => isFalse (by simp)
  | .row .., .scalar _ => isFalse (by simp)

/-- Equality of field lists is decidable. -/
def Fields.decEq : {lo : Option String} → (fs gs : Fields lo) → Decidable (fs = gs)
  | _, .nil, .nil => isTrue rfl
  | _, .cons m _ s fs, .cons n _ t gs =>
      if h : m = n then by
        subst h
        exact match DataType.decEq s t, Fields.decEq fs gs with
        | isTrue h₁, isTrue h₂ => isTrue (by rw [h₁, h₂])
        | isFalse h₁, _ => isFalse (by simp [h₁])
        | _, isFalse h₂ => isFalse (by simp [h₂])
      else isFalse (by simp [h])
  | _, .nil, .cons .. => isFalse (by simp)
  | _, .cons .., .nil => isFalse (by simp)

end

instance : DecidableEq DataType := DataType.decEq

instance {lo : Option String} : DecidableEq (Fields lo) := Fields.decEq

end RowPatch
