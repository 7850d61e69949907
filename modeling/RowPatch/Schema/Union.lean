import RowPatch.Schema.Acceptance

/-!
# Union

The type of values of either of two types.  `unite` always gives a type, with `Error` at each
position where the two do not agree, and `conflicts` lists those positions; `union` is the pair of
them, an error when there is a conflict.

**Results.**
* `Fields.find?_unite`: the union of two field lists, name by name.
* `Fields.conflicts_eq_nil_iff`: two field lists agree when the types under each common name do.
-/

namespace RowPatch

/-- The field names that lead from a type to a position inside it. -/
abbrev Path := List String

/-- The names of a path with dots between them. -/
def Path.dotted (p : Path) : String := String.intercalate "." p

namespace Scalar

/-- The common type of two scalar types: `Blank` joins any other type, and where the two are
interchangeable the first one counts. -/
def unite? (d : Dialect) (s t : Scalar) : Option Scalar :=
  if s = t then some s
  else if s = blank then some t
  else if t = blank then some s
  else if s.isNumeric && t.isNumeric then some s
  else if s.sameDates d t then some s
  else none

end Scalar

/-- Rows of one kind unite; a table is failed if either of the two is. -/
def Shape.unite? : Shape → Shape → Option Shape
  | .record, .record => some .record
  | .table failed, .table failed' => some (.table (failed || failed'))
  | _, _ => none

mutual

/-- The union of two types, with `Error` where they do not agree. -/
def DataType.unite (d : Dialect) (a : DataType) : DataType → DataType
  | .scalar t =>
      match a with
      | .scalar s => .scalar ((s.unite? d t).getD .error)
      | .row shape origins fs => if t = .blank then .row shape origins fs else .error
  | .row shape origins gs =>
      match a with
      | .scalar s => if s = .blank then .row shape origins gs else .error
      | .row shape' origins' fs =>
          match shape'.unite? shape with
          | some shape'' => .row shape'' (origins' ∪ origins) (Fields.unite d fs gs)
          | none => .error

/-- The union of two field lists: a name of both has the union of its types. -/
def Fields.unite (d : Dialect) (fs : Fields none) : {lo : Option String} → Fields lo → Fields none
  | _, .nil => fs
  | _, .cons n _ t rest =>
      (Fields.unite d fs rest).insert n
        (match fs.find? n with
          | none => t
          | some s => DataType.unite d s t)

end

mutual

/-- The positions at which two types do not agree; the empty path stands for the types as wholes. -/
def DataType.conflicts (d : Dialect) (a : DataType) : DataType → List Path
  | .scalar t =>
      match a with
      | .scalar s => if (s.unite? d t).isSome then [] else [[]]
      | .row .. => if t = .blank then [] else [[]]
  | .row shape _ gs =>
      match a with
      | .scalar s => if s = .blank then [] else [[]]
      | .row shape' _ fs => if shape'.sameKind shape then Fields.conflicts d fs gs else [[]]

/-- The positions, led by a field name, at which two field lists do not agree. -/
def Fields.conflicts (d : Dialect) (fs : Fields none) :
    {lo : Option String} → Fields lo → List Path
  | _, .nil => []
  | _, .cons n _ t rest =>
      (match fs.find? n with
        | none => []
        | some s => (DataType.conflicts d s t).map (n :: ·)) ++
      Fields.conflicts d fs rest

end

/-- Two types that could not be united. -/
structure Conflict where
  /-- The union with `Error` at the positions in conflict. -/
  bestEffort : DataType
  /-- The positions in conflict. -/
  positions : List Path
deriving DecidableEq

namespace Conflict

/-- The conflicting fields; there are none when the types conflict as wholes. -/
def fields (c : Conflict) : List String :=
  (c.positions.filter (fun p => !p.isEmpty)).map Path.dotted

/-- What is said of a conflict. -/
def message (c : Conflict) : String :=
  "conflicting types for field(s) " ++ String.intercalate ", " c.fields

end Conflict

/-- The union of two types, or their conflict. -/
def DataType.union (d : Dialect) (a b : DataType) : Except Conflict DataType :=
  if a.conflicts d b = [] then .ok (a.unite d b)
  else .error ⟨a.unite d b, a.conflicts d b⟩

namespace Fields

/-- The union of two field lists, name by name. -/
theorem find?_unite (d : Dialect) (fs : Fields none) (n : String) :
    {lo : Option String} → (gs : Fields lo) →
      (fs.unite d gs).find? n =
        match fs.find? n, gs.find? n with
        | none, r => r
        | some s, none => some s
        | some s, some t => some (s.unite d t)
  | _, .nil => by
      cases h : fs.find? n <;> simp [unite, h]
  | _, .cons m hm t rest => by
      have ih := find?_unite d fs n rest
      rw [unite, find?_insert, find?_cons]
      by_cases e : m = n
      · subst e
        cases h : fs.find? m <;> simp
      · rw [if_neg e, if_neg e, ih]

/-- Two field lists agree when the types under each common name do. -/
theorem conflicts_eq_nil_iff (d : Dialect) (fs : Fields none) :
    {lo : Option String} → (gs : Fields lo) →
      (fs.conflicts d gs = [] ↔
        ∀ n s t, fs.find? n = some s → gs.find? n = some t → s.conflicts d t = [])
  | _, .nil => by simp [conflicts]
  | _, .cons m hm t rest => by
      have ih := conflicts_eq_nil_iff d fs rest
      -- the second list is the one to split
      have hswap : ∀ {lo : Option String} (gs : Fields lo),
          (∀ n s t, fs.find? n = some s → gs.find? n = some t → s.conflicts d t = []) ↔
            ∀ n t, gs.find? n = some t → ∀ s, fs.find? n = some s → s.conflicts d t = [] :=
        fun _ => ⟨fun h n t ht s hs => h n s t hs ht, fun h n s t hs ht => h n t ht s hs⟩
      rw [conflicts, List.append_eq_nil_iff, ih, hswap, hswap, forall_find?_cons]
      refine and_congr_left fun _ => ?_
      cases fs.find? m <;> simp

end Fields

end RowPatch
