import RowPatch.Proofs.Schema.Conversion

/-!
# Where types clash

A union goes down two types together, as long as both have rows of one kind.  Where that ends the
two either have a common type or clash; the clashes are the positions that a conflict reports, and
the union has `Error` there.

**Results.**
* `DataType.clash_or_agree`: types that are not rows of one kind clash, or do not conflict.
* `DataType.mem_conflicts_iff`: the positions in conflict are those at which the types clash.
* `DataType.at?_unite_of_meets`: the part of a union at a common position is the union of the parts.
* `union_reports_clashes`: when there is no union, what is reported, and what the best effort is.
-/

namespace RowPatch

theorem Scalar.unite?_eq_none_iff
    (d : Dialect)
    (s t : Scalar) :
    s.unite? d t = none ↔
      s ≠ t ∧ s ≠ blank ∧ t ≠ blank ∧ (s.isNumeric && t.isNumeric) = false ∧
        s.sameDates d t = false := by
  unfold unite?
  split
  · simp [*]
  · split
    · simp [*]
    · split
      · simp [*]
      · split
        · simp [*]
        · split
          · simp [*]
          · simp [*]

namespace DataType

/-- Both are types of numbers. -/
def bothNumeric : DataType → DataType → Bool
  | .scalar s, .scalar t => s.isNumeric && t.isNumeric
  | _, _ => false

/-- Both hold a day, and the dialect does not tell them apart. -/
def sameDates (d : Dialect) : DataType → DataType → Bool
  | .scalar s, .scalar t => s.sameDates d t
  | _, _ => false

/-- Two types that have no common type as wholes. -/
structure Clash (d : Dialect) (x y : DataType) : Prop where
  kinds : x.sameKind y = false
  differ : x ≠ y
  notBlank : x ≠ blank ∧ y ≠ blank
  numbers : x.bothNumeric y = false
  dates : x.sameDates d y = false

/-- At a position that both types have, rows of one kind on the way to it, their types clash. -/
def ClashAt (d : Dialect) (a b : DataType) (p : Path) : Prop :=
  ∃ x y, Meets a b p x y ∧ Clash d x y

variable (d : Dialect)

theorem clash_scalar_scalar_iff
    (s t : Scalar) :
    Clash d (scalar s) (scalar t) ↔ s.unite? d t = none := by
  rw [Scalar.unite?_eq_none_iff]
  constructor
  · intro h
    exact ⟨by simpa using h.differ, by simpa using h.notBlank.1, by simpa using h.notBlank.2,
      h.numbers, h.dates⟩
  · rintro ⟨hdiffer, hs, ht, hnumbers, hdates⟩
    exact ⟨rfl, by simpa using hdiffer, by simpa using And.intro hs ht, hnumbers, hdates⟩

/-- Types that are not rows of one kind clash as wholes, or do not conflict. -/
theorem clash_or_agree
    (x y : DataType)
    (hkind : x.sameKind y = false) :
    (Clash d x y ∧ x.conflicts d y = [[]] ∧ x.unite d y = error) ∨
      (¬ Clash d x y ∧ x.conflicts d y = []) := by
  cases x with
  | scalar s =>
      cases y with
      | scalar t =>
          rw [clash_scalar_scalar_iff, conflicts_scalar_scalar, unite_scalar_scalar]
          cases s.unite? d t <;> simp
      | row s' o' gs =>
          by_cases hs : s = .blank
          · exact Or.inr ⟨fun h => h.notBlank.1 (by rw [hs]), by simp [hs]⟩
          · exact Or.inl ⟨⟨hkind, by simp, ⟨by simpa using hs, by simp⟩, rfl, rfl⟩,
              by simp [hs], by simp [hs]⟩
  | row s o fs =>
      cases y with
      | scalar t =>
          by_cases ht : t = .blank
          · exact Or.inr ⟨fun h => h.notBlank.2 (by rw [ht]), by simp [ht]⟩
          · exact Or.inl ⟨⟨hkind, by simp, ⟨by simp, by simpa using ht⟩, rfl, rfl⟩,
              by simp [ht], by simp [ht]⟩
      | row s' o' gs =>
          have hplain : s.plain ≠ s'.plain :=
            mt (Shape.sameKind_iff s s').2 (by simpa [sameKind] using hkind)
          refine Or.inl ⟨⟨hkind, ?_, ⟨by simp, by simp⟩, rfl, rfl⟩, ?_⟩
          · intro h
            obtain ⟨rfl, -, -⟩ := row.inj h
            exact hplain rfl
          · exact spoils_row_of_ne d s s' o o' fs gs hplain

/-- Where two types are not rows of one kind, their comparison ends. -/
theorem meets_iff_of_sameKind_eq_false
    (a b : DataType)
    (hkind : a.sameKind b = false)
    (p : Path)
    (x y : DataType) :
    Meets a b p x y ↔ p = [] ∧ x = a ∧ y = b := by
  constructor
  · intro h
    cases h with
    | whole => exact ⟨rfl, rfl, rfl⟩
    | @field s s' _ _ _ _ _ _ _ _ _ _ hplain _ _ _ =>
        rw [sameKind, (Shape.sameKind_iff s s').2 hplain] at hkind
        exact absurd hkind (by simp)
  · rintro ⟨rfl, rfl, rfl⟩
    exact .whole _ _

theorem mem_conflicts_iff_of_sameKind_eq_false
    (a b : DataType)
    (hkind : a.sameKind b = false)
    (p : Path) :
    p ∈ a.conflicts d b ↔ ClashAt d a b p := by
  have hat : ClashAt d a b p ↔ p = [] ∧ Clash d a b := by
    constructor
    · rintro ⟨x, y, hmeets, hclash⟩
      obtain ⟨rfl, rfl, rfl⟩ := (meets_iff_of_sameKind_eq_false a b hkind p x y).1 hmeets
      exact ⟨rfl, hclash⟩
    · rintro ⟨rfl, hclash⟩
      exact ⟨a, b, .whole a b, hclash⟩
  rw [hat]
  rcases clash_or_agree d a b hkind with ⟨hclash, hconflicts, -⟩ | ⟨hclash, hconflicts⟩
  · simp [hconflicts, hclash]
  · simp [hconflicts, hclash]

/-- The positions in conflict are those at which the types clash. -/
theorem mem_conflicts_iff (b : DataType) :
    ∀ (a : DataType) (p : Path), p ∈ a.conflicts d b ↔ ClashAt d a b p := by
  induction b using DataType.induction with
  | scalar k =>
      intro a p
      exact mem_conflicts_iff_of_sameKind_eq_false d a _ (by cases a <;> rfl) p
  | row s' o' gs ih =>
      intro a p
      by_cases hkind : a.sameKind (row s' o' gs) = true
      · cases a with
        | scalar k => exact absurd hkind (by simp [sameKind])
        | row s o fs =>
            have hplain := (Shape.sameKind_iff s s').1 hkind
            rw [conflicts_row_row d s s' o o' fs gs hplain, Fields.mem_conflicts_iff]
            constructor
            · rintro ⟨n, x, y, q, hx, hy, hq, rfl⟩
              obtain ⟨x', y', hmeets, hclash⟩ := (ih n y hy x q).1 hq
              exact ⟨x', y', .field hplain hx hy hmeets, hclash⟩
            · rintro ⟨x', y', hmeets, hclash⟩
              cases hmeets with
              | whole => exact absurd hclash.kinds (by simp [hkind])
              | field _ hx hy hmeets =>
                  exact ⟨_, _, _, _, hx, hy, (ih _ _ hy _ _).2 ⟨x', y', hmeets, hclash⟩, rfl⟩
      · exact mem_conflicts_iff_of_sameKind_eq_false d a _ (by simpa using hkind) p

/-- The positions at which two types clash, in order. -/
def clashes (a b : DataType) : SortedSet Path :=
  ⟨a.conflicts d b, pairwise_conflicts d b a⟩

theorem mem_clashes_iff
    (a b : DataType)
    (p : Path) :
    p ∈ a.clashes d b ↔ ClashAt d a b p :=
  mem_conflicts_iff d b a p

/-- The part of a union at a common position is the union of the parts. -/
theorem at?_unite_of_meets
    {a b : DataType}
    {p : Path}
    {x y : DataType}
    (h : Meets a b p x y) :
    (a.unite d b).at? p = some (x.unite d y) := by
  induction h with
  | whole => rfl
  | @field s s' o o' fs gs n t u p x y hkind ht hu h ih =>
      rw [unite_row_row d s s' o o' fs gs hkind, at?_row_cons_eq_some_iff]
      exact ⟨t.unite d u, by rw [Fields.find?_unite, ht, hu], ih⟩

/-- A field that one of two rows has, and the other does not, keeps its type. -/
theorem at?_unite_of_one_side
    (x y : DataType)
    (hkind : x.sameKind y = true)
    (n : String)
    (t : DataType)
    (h : (x.at? [n] = some t ∧ y.at? [n] = none) ∨ (x.at? [n] = none ∧ y.at? [n] = some t)) :
    (x.unite d y).at? [n] = some t := by
  cases x with
  | scalar k => exact absurd hkind (by simp [sameKind])
  | row s o fs =>
      cases y with
      | scalar k => exact absurd hkind (by simp [sameKind])
      | row s' o' gs =>
          rw [at?_singleton, at?_singleton] at h
          rw [unite_row_row d s s' o o' fs gs ((Shape.sameKind_iff s s').1 hkind), at?_singleton,
            Fields.find?_unite]
          rcases h with ⟨hx, hy⟩ | ⟨hx, hy⟩
          · rw [hx, hy]
          · rw [hx, hy]

/-- There is a union when nothing conflicts. -/
theorem exists_union_iff (a b : DataType) :
    (∃ u, a.union d b = .ok u) ↔ a.conflicts d b = [] := by
  simp [union_eq_ok_iff]

/-- A conflict holds the best effort and the positions in conflict. -/
theorem union_eq_error_iff
    (a b : DataType)
    (c : Conflict) :
    a.union d b = .error c ↔ a.conflicts d b ≠ [] ∧ c = ⟨a.unite d b, a.conflicts d b⟩ := by
  unfold union
  split
  · rename_i h
    simp [h]
  · rename_i h
    simp [h, eq_comm]

/-- The positions at which rows of one kind clash are all led by a field name. -/
theorem fields_of_clashes
    (a b u : DataType)
    (hkind : a.sameKind b = true) :
    Conflict.fields ⟨u, a.conflicts d b⟩ = (a.clashes d b).toList.map Path.dotted := by
  have hled : ∀ p ∈ a.conflicts d b, (!p.isEmpty) = true := by
    intro p hp
    obtain ⟨x, y, hmeets, hclash⟩ := (mem_conflicts_iff d b a p).1 hp
    cases hmeets with
    | whole => exact absurd hclash.kinds (by simp [hkind])
    | field => rfl
  rw [Conflict.fields, List.filter_eq_self.2 hled, clashes]

end DataType

/-- When two rows of one kind have a union, what a conflict reports, and what its best effort is.
There is a union exactly when the rows clash nowhere.  Otherwise the positions at which they clash
are reported in order.  The best effort has `Error` at each of them, it keeps the fields that one
side alone has, and at every other position where the comparison ends it has the union of the two
types there. -/
theorem union_reports_clashes
    (d : Dialect)
    (a b : DataType)
    (hkind : a.sameKind b = true) :
    ((∃ u, a.union d b = .ok u) ↔ ∀ p, ¬ DataType.ClashAt d a b p) ∧
      ∀ c, a.union d b = .error c →
        (∃ ps : SortedSet Path,
          (∀ p, p ∈ ps ↔ DataType.ClashAt d a b p) ∧ c.fields = ps.toList.map Path.dotted) ∧
        (∀ p, DataType.ClashAt d a b p → c.bestEffort.at? p = some .error) ∧
        (∀ p x y, DataType.Meets a b p x y → x.sameKind y = true →
          ∀ n t, (x.at? [n] = some t ∧ y.at? [n] = none) ∨ (x.at? [n] = none ∧ y.at? [n] = some t) →
            c.bestEffort.at? (p ++ [n]) = some t) ∧
        (∀ p x y, DataType.Meets a b p x y → x.sameKind y = false → ¬ DataType.Clash d x y →
          ∃ u, x.union d y = .ok u ∧ c.bestEffort.at? p = some u) := by
  constructor
  · rw [DataType.exists_union_iff, List.eq_nil_iff_forall_not_mem]
    exact forall_congr' fun p => not_congr (DataType.mem_conflicts_iff d b a p)
  · intro c hc
    obtain ⟨-, rfl⟩ := (DataType.union_eq_error_iff d a b c).1 hc
    refine ⟨?reported, ?clashes, ?oneSide, ?others⟩
    case reported =>
      exact ⟨a.clashes d b, DataType.mem_clashes_iff d a b,
        DataType.fields_of_clashes d a b _ hkind⟩
    case clashes =>
      rintro p ⟨x, y, hmeets, hclash⟩
      rcases DataType.clash_or_agree d x y hclash.kinds with ⟨-, -, hunite⟩ | ⟨hagree, -⟩
      · exact hunite ▸ DataType.at?_unite_of_meets d hmeets
      · exact absurd hclash hagree
    case oneSide =>
      intro p x y hmeets hsame n t h
      rw [DataType.at?_append, DataType.at?_unite_of_meets d hmeets]
      exact DataType.at?_unite_of_one_side d x y hsame n t h
    case others =>
      intro p x y hmeets hends hagree
      rcases DataType.clash_or_agree d x y hends with ⟨hclash, -⟩ | ⟨-, hfree⟩
      · exact absurd hclash hagree
      · exact ⟨x.unite d y, (DataType.union_eq_ok_iff d x y _).2 ⟨hfree, rfl⟩,
          DataType.at?_unite_of_meets d hmeets⟩

/-- Two orders clash in the count of their lines and in their notes.  The best effort has errors
there, the item that the second order has alone, and the union of the prices. -/
theorem orders_clash_in_two_fields :
    let d := Dialect.standard
    let order (line : List (String × Scalar)) (note price : Scalar) : DataType :=
      .record ∅ (.ofList [
        ("lines", .table false ∅ (.ofList (line.map fun f => (f.1, .scalar f.2)))),
        ("note", .scalar note), ("price", .scalar price)])
    let a := order [("count", .number)] .text .blank
    let b := order [("count", .text), ("item", .text)] .date .decimal
    let c : Conflict :=
      ⟨order [("count", .error), ("item", .text)] .error .decimal, [["lines", "count"], ["note"]]⟩
    a.sameKind b = true ∧ a.union d b = .error c ∧
      (∃ ps : SortedSet Path, (∀ p, p ∈ ps ↔ DataType.ClashAt d a b p) ∧
        ["lines.count", "note"] = ps.toList.map Path.dotted) ∧
      c.bestEffort.at? ["lines", "count"] = some .error ∧
      c.bestEffort.at? ["lines", "item"] = some (.scalar .text) ∧
      ∃ u, DataType.blank.union d (.scalar .decimal) = .ok u ∧
        c.bestEffort.at? ["price"] = some u := by
  intro d order a b c
  have hc : a.union d b = .error c := by
    rw [DataType.union_eq_error_iff]
    decide +kernel
  have hfields : c.fields = ["lines.count", "note"] := by decide +kernel
  have hcount : DataType.ClashAt d a b ["lines", "count"] := by
    rw [← DataType.mem_conflicts_iff]
    decide +kernel
  obtain ⟨hreported, hclashes, honeSide, hothers⟩ := (union_reports_clashes d a b rfl).2 c hc
  refine ⟨rfl, hc, hfields ▸ hreported, hclashes _ hcount, ?_, ?_⟩
  · exact honeSide ["lines"] _ _ (.field rfl rfl rfl (.whole _ _)) rfl "item" _ (Or.inr ⟨rfl, rfl⟩)
  · refine hothers ["price"] _ _ (.field rfl rfl rfl (.whole _ _)) rfl ?_
    rw [DataType.clash_scalar_scalar_iff]
    decide

end RowPatch
