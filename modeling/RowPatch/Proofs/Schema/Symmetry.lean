import RowPatch.Proofs.Schema.Clashes

/-!
# Exchanging the sides of a union

Of two types that the dialect does not tell apart a union keeps the first, and this is all that
distinguishes its sides.  When they are exchanged the same positions conflict, and the result is the
same up to such types, with the same origins and marks.

**Results.**
* `DataType.conflicts_comm`: the same positions conflict, in the same order.
* `DataType.rep_unite_comm`: the unions are equal once types that are not told apart are identified.
* `union_is_symmetric`: the two for unions and for the best effort of conflicts.
-/

namespace RowPatch

namespace Scalar

/-- The common type of two scalar types is the same on either side, up to types that the dialect
does not tell apart. -/
theorem rep_unite?_comm
    (d : Dialect)
    (s t : Scalar) :
    ((s.unite? d t).getD error).rep d = ((t.unite? d s).getD error).rep d := by
  rw [unite?_eq, unite?_eq]
  by_cases hrep : s.rep d = t.rep d
  · rw [if_pos hrep, if_pos hrep.symm]
    exact hrep
  · rw [if_neg hrep, if_neg (Ne.symm hrep)]
    by_cases hs : s = blank
    · by_cases ht : t = blank
      · simp [hs, ht]
      · simp [hs, ht]
    · simp [hs]

end Scalar

mutual

/-- The type with one scalar type for all that the dialect does not tell apart, at every depth. -/
def DataType.rep (d : Dialect) : DataType → DataType
  | .scalar kind => .scalar (kind.rep d)
  | .row shape origins fields => .row shape origins (Fields.rep d fields)

/-- The field list with such a type under each name. -/
def Fields.rep (d : Dialect) : {lo : Option String} → Fields lo → Fields lo
  | _, .nil => .nil
  | _, .cons n h t rest => .cons n h (DataType.rep d t) (Fields.rep d rest)

end

namespace Fields

@[simp] theorem find?_rep
    (d : Dialect)
    (n : String) :
    {lo : Option String} → (fs : Fields lo) →
      (fs.rep d).find? n = (fs.find? n).map (DataType.rep d)
  | _, .nil => rfl
  | _, .cons m hm t rest => by
      have ih := find?_rep d n rest
      rw [rep, find?_cons, find?_cons, ih]
      by_cases e : m = n
      · simp [e]
      · simp [e]

end Fields

namespace DataType

/-- The union of two types, or the best effort of their conflict. -/
def bestUnion (d : Dialect) (a b : DataType) : DataType :=
  match a.union d b with
  | .ok u => u
  | .error c => c.bestEffort

variable (d : Dialect)

theorem bestUnion_eq_unite (a b : DataType) : a.bestUnion d b = a.unite d b := by
  unfold bestUnion
  cases h : a.union d b with
  | ok u => exact ((union_eq_ok_iff d a b u).1 h).2.symm
  | error c =>
      obtain ⟨-, rfl⟩ := (union_eq_error_iff d a b c).1 h
      rfl

theorem sameKind_comm (a b : DataType) : a.sameKind b = b.sameKind a := by
  cases a with
  | scalar s => cases b <;> rfl
  | row s o fs =>
      cases b with
      | scalar t => rfl
      | row s' o' gs => cases s <;> cases s' <;> rfl

theorem Meets.symm
    {a b : DataType}
    {p : Path}
    {x y : DataType}
    (h : Meets a b p x y) :
    Meets b a p y x := by
  induction h with
  | whole => exact .whole _ _
  | field hkind ht hu _ ih => exact .field hkind.symm hu ht ih

theorem Clash.symm
    {x y : DataType}
    (h : Clash d x y) :
    Clash d y x where
  kinds := sameKind_comm x y ▸ h.kinds
  differ := h.differ.symm
  notBlank := h.notBlank.symm
  numbers := by
    have hnumbers := h.numbers
    cases x <;> cases y <;> simp_all [bothNumeric, Bool.and_comm]
  dates := by
    have hdates := h.dates
    cases x <;> cases y <;> simp_all [sameDates, Scalar.sameDates, Bool.and_right_comm]

theorem clashAt_comm
    (a b : DataType)
    (p : Path) :
    ClashAt d a b p ↔ ClashAt d b a p :=
  ⟨fun ⟨x, y, hmeets, hclash⟩ => ⟨y, x, hmeets.symm, hclash.symm⟩,
    fun ⟨x, y, hmeets, hclash⟩ => ⟨y, x, hmeets.symm, hclash.symm⟩⟩

/-- Exchanged types conflict at the same positions, in the same order. -/
theorem conflicts_comm (a b : DataType) : a.conflicts d b = b.conflicts d a := by
  have hsets : a.clashes d b = b.clashes d a := by
    apply SortedSet.ext_mem
    intro p
    rw [mem_clashes_iff, mem_clashes_iff, clashAt_comm]
  exact congrArg SortedSet.toList hsets

/-- The unions of exchanged types are equal once types that are not told apart are identified. -/
theorem rep_unite_comm (a : DataType) :
    ∀ b : DataType, (a.unite d b).rep d = (b.unite d a).rep d := by
  induction a using DataType.induction with
  | scalar i =>
      intro b
      cases b with
      | scalar j =>
          rw [unite_scalar_scalar, unite_scalar_scalar, rep, rep, Scalar.rep_unite?_comm]
      | row s o gs => rw [unite_scalar_row, unite_row_scalar]
  | row s o fs ih =>
      intro b
      cases b with
      | scalar j => rw [unite_row_scalar, unite_scalar_row]
      | row s' o' gs =>
          by_cases hkind : s.plain = s'.plain
          · rw [unite_row_row d s s' o o' fs gs hkind, unite_row_row d s' s o' o gs fs hkind.symm,
              rep, rep, Shape.join_comm s s' hkind, SortedSet.union_comm o o']
            congr 1
            apply Fields.ext_find?
            intro n
            rw [Fields.find?_rep, Fields.find?_rep, Fields.find?_unite, Fields.find?_unite]
            cases hx : fs.find? n with
            | none => cases gs.find? n <;> rfl
            | some x =>
                cases hy : gs.find? n with
                | none => rfl
                | some y => simp only [Option.map_some, ih n x hx y]
          · rw [(spoils_row_of_ne d s s' o o' fs gs hkind).2,
              (spoils_row_of_ne d s' s o' o gs fs (Ne.symm hkind)).2]

end DataType

/-- A union does not depend on the order of its sides, but for which of two types it keeps that the
dialect does not tell apart.  Exchanged types have a union or conflict together, a conflict reports
the same fields in the same order, and the union or best effort is the same once such types are
identified, with the same origins and marks. -/
theorem union_is_symmetric
    (d : Dialect)
    (a b : DataType) :
    ((∃ u, a.union d b = .ok u) ↔ ∃ u, b.union d a = .ok u) ∧
      (∀ c c', a.union d b = .error c → b.union d a = .error c' →
        c.positions = c'.positions ∧ c.fields = c'.fields) ∧
      (a.bestUnion d b).rep d = (b.bestUnion d a).rep d := by
  refine ⟨?_, ?_, ?_⟩
  · rw [DataType.exists_union_iff, DataType.exists_union_iff, DataType.conflicts_comm]
  · intro c c' hc hc'
    obtain ⟨-, rfl⟩ := (DataType.union_eq_error_iff d a b c).1 hc
    obtain ⟨-, rfl⟩ := (DataType.union_eq_error_iff d b a c').1 hc'
    rw [Conflict.fields, Conflict.fields, DataType.conflicts_comm d a b]
    exact ⟨rfl, rfl⟩
  · rw [DataType.bestUnion_eq_unite, DataType.bestUnion_eq_unite]
    exact DataType.rep_unite_comm d a b

/-- Two orders that clash in their notes.  Which of the days and counts is kept depends on the side;
the mark of the failed table and its origin do not. -/
theorem orders_clash_on_either_side :
    let d : Dialect := { legacyDates := true }
    let order (lines : SortedSet Origin → Fields none → DataType) (origins : SortedSet Origin)
        (day count note : Scalar) : DataType :=
      .record ∅ (.ofList [("day", .scalar day), ("lines", lines origins (.ofList
        [("count", .scalar count)])), ("note", .scalar note)])
    let shop : SortedSet Origin := .ofList [⟨"shop", ∅⟩]
    let a := order (.table true) ∅ .date .number .text
    let b := order (.table false) shop .dateTime .decimal .boolean
    let c : Conflict := ⟨order (.table true) shop .date .number .error, [["note"]]⟩
    let c' : Conflict := ⟨order (.table true) shop .dateTime .decimal .error, [["note"]]⟩
    a.union d b = .error c ∧ b.union d a = .error c' ∧ c.fields = c'.fields ∧
      a.bestUnion d b = c.bestEffort ∧ b.bestUnion d a = c'.bestEffort ∧
      (a.bestUnion d b).rep d = (b.bestUnion d a).rep d := by
  intro d order shop a b c c'
  have hc : a.union d b = .error c := by
    rw [DataType.union_eq_error_iff]
    decide +kernel
  have hc' : b.union d a = .error c' := by
    rw [DataType.union_eq_error_iff]
    decide +kernel
  obtain ⟨-, hfields, hrep⟩ := union_is_symmetric d a b
  refine ⟨hc, hc', (hfields c c' hc hc').2, ?_, ?_, hrep⟩
  · rw [DataType.bestUnion, hc]
  · rw [DataType.bestUnion, hc']

end RowPatch
