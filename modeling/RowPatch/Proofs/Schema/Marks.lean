import RowPatch.Proofs.Schema.Coercion

/-!
# Marks of failed tables

A conversion rebuilds the rows that it passes and leaves out the marks of failed tables.  Of a type
that fits already this is all that it changes.

**Results.**
* `DataType.unmarked_eq_self_iff`: the types that keep what they are without marks.
* `DataType.unmarked_of_coerce?`: a type to convert to has no marks.
* `DataType.coerce?_of_accepts`: what fits is converted to itself without its marks.
* `DataType.coerce?_of_coerce?`: a type to convert to is converted to itself.
-/

namespace RowPatch

namespace Shape

/-- Whether the rows are those of a failed table. -/
def isFailed : Shape → Bool
  | .record => false
  | .table failed => failed

theorem plain_eq_self_iff (s : Shape) : s.plain = s ↔ s.isFailed = false := by
  cases s with
  | record => simp [plain, isFailed]
  | table failed => cases failed <;> simp [plain, isFailed]

end Shape

mutual

/-- The type without the marks of its tables, at every depth. -/
def DataType.unmarked : DataType → DataType
  | .scalar kind => .scalar kind
  | .row shape origins fields => .row shape.plain origins (Fields.unmarked fields)

/-- The field list with the unmarked type under each name. -/
def Fields.unmarked : {lo : Option String} → Fields lo → Fields lo
  | _, .nil => .nil
  | _, .cons n h t rest => .cons n h (DataType.unmarked t) (Fields.unmarked rest)

end

mutual

/-- Whether the type is a failed table or holds one at any depth. -/
def DataType.holdsFailed : DataType → Bool
  | .scalar _ => false
  | .row shape _ fields => shape.isFailed || Fields.holdsFailed fields

/-- Whether the type of some field is or holds a failed table. -/
def Fields.holdsFailed : {lo : Option String} → Fields lo → Bool
  | _, .nil => false
  | _, .cons _ _ t rest => DataType.holdsFailed t || Fields.holdsFailed rest

end

namespace Fields

@[simp] theorem find?_unmarked
    (n : String) :
    {lo : Option String} → (fs : Fields lo) →
      fs.unmarked.find? n = (fs.find? n).map DataType.unmarked
  | _, .nil => rfl
  | _, .cons m hm t rest => by
      have ih := find?_unmarked n rest
      rw [unmarked, find?_cons, find?_cons, ih]
      by_cases e : m = n
      · simp [e]
      · simp [e]

theorem unmarked_eq_self_iff
    (fs : Fields none) :
    fs.unmarked = fs ↔ ∀ n t, fs.find? n = some t → t.unmarked = t := by
  constructor
  · intro h n t ht
    have hn := find?_unmarked n fs
    rw [h, ht] at hn
    exact (Option.some.inj hn).symm
  · intro h
    apply ext_find?
    intro n
    rw [find?_unmarked]
    cases ht : fs.find? n with
    | none => rfl
    | some t => rw [Option.map_some, h n t ht]

theorem holdsFailed_eq_false_iff :
    {lo : Option String} → (fs : Fields lo) →
      (fs.holdsFailed = false ↔ ∀ n t, fs.find? n = some t → t.holdsFailed = false)
  | _, .nil => by simp [holdsFailed]
  | _, .cons m hm s rest => by
      have ih := holdsFailed_eq_false_iff rest
      rw [holdsFailed, Bool.or_eq_false_iff, ih, forall_find?_cons]

end Fields

namespace DataType

@[simp] theorem unmarked_scalar (k : Scalar) : (scalar k).unmarked = scalar k := rfl

theorem unmarked_row
    (s : Shape)
    (o : SortedSet Origin)
    (fs : Fields none) :
    (row s o fs).unmarked = row s.plain o fs.unmarked := by
  rw [unmarked]

/-- The types that keep what they are without marks are those that hold no failed table. -/
theorem unmarked_eq_self_iff (t : DataType) : t.unmarked = t ↔ t.holdsFailed = false := by
  induction t using DataType.induction with
  | scalar k => simp [holdsFailed]
  | row s o fs ih =>
      rw [unmarked_row, holdsFailed, Bool.or_eq_false_iff, ← Shape.plain_eq_self_iff,
        Fields.holdsFailed_eq_false_iff, row.injEq, Fields.unmarked_eq_self_iff]
      simp only [true_and]
      refine and_congr_right fun _ => ?_
      exact forall₃_congr fun n t ht => ih n t ht

variable (d : Dialect)

/-- A type to convert to has no marks. -/
theorem unmarked_of_coerce? (u : DataType) :
    ∀ t c : DataType, t.coerce? d u = some c → c.unmarked = c := by
  induction u using DataType.induction with
  | scalar j =>
      intro t c h
      cases t with
      | scalar k =>
          rw [coerce?_scalar_scalar] at h
          obtain ⟨i, -, rfl⟩ := Option.map_eq_some_iff.1 h
          rfl
      | row s o ts =>
          rw [coerce?_row_scalar] at h
          split at h
          · cases Option.some.inj h
            rfl
          · exact absurd h (by simp)
  | row s' o' us ih =>
      intro t c h
      cases t with
      | scalar k => simp [coerce?_scalar_row] at h
      | row s o ts =>
          obtain ⟨cs, -, hcs, rfl⟩ := coerce?_row_eq_some d s s' o o' ts us c h
          rw [unmarked_row, Shape.plain_plain, (Fields.unmarked_eq_self_iff cs).2]
          intro n c hc
          rcases Fields.find?_coerceAll? d ts us cs hcs n with
            ⟨-, hnone⟩ | ⟨u, t, c', hu, -, hcoerce, hc'⟩
          · simp [hnone] at hc
          · cases Option.some.inj (hc'.symm.trans hc)
            exact ih n u hu t c hcoerce

/-- What fits is converted to itself without its marks. -/
theorem coerce?_of_accepts (u : DataType) :
    ∀ t : DataType, t.accepts d .loose u = true → t.coerce? d u = some u.unmarked := by
  induction u using DataType.induction with
  | scalar j =>
      intro t h
      cases t with
      | scalar k =>
          rw [accepts_scalar_scalar] at h
          simp [coerce?_scalar_scalar, Scalar.coerce?, h]
      | row s o ts =>
          rw [accepts_row_scalar_iff] at h
          simp [coerce?_row_scalar, h.2]
  | row s' o' us ih =>
      intro t h
      cases t with
      | scalar k => simp at h
      | row s o ts =>
          rw [accepts_row_iff] at h
          obtain ⟨hkind, hfields⟩ := h
          have hcs : ts.coerceAll? d us = some us.unmarked := by
            rw [Fields.coerceAll?_eq_some_iff]
            intro n
            rw [Fields.find?_unmarked]
            cases hu : us.find? n with
            | none => exact Or.inl ⟨rfl, rfl⟩
            | some u =>
                obtain ⟨t, ht, htu⟩ := hfields n u hu
                exact Or.inr ⟨u, t, u.unmarked, rfl, ht, ih n u hu t htu, rfl⟩
          rw [coerce?_row_row d s s' o o' ts us hkind, hcs, Option.map_some, unmarked_row]

/-- A type to convert to is converted to itself. -/
theorem coerce?_of_coerce?
    (t u c : DataType)
    (h : t.coerce? d u = some c) :
    t.coerce? d c = some c := by
  rw [coerce?_of_accepts d c t (accepts_of_coerce? d u t c h), unmarked_of_coerce? d u t c h]

end DataType

end RowPatch
