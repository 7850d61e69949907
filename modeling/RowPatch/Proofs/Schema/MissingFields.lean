import RowPatch.Proofs.Schema.Positions

/-!
# What is reported as missing

A field is missing when one type has it and the other, though it has the row that would hold the
field, does not.  The missing fields are reported in order, each with the names that lead to it.
Names that are empty are left out of a report as long as no other name stands before them.

**Results.**
* `DataType.mem_missing_iff`: the paths that are found are those to the missing fields.
* `Path.compact_eq_dotted_iff`: the paths that are reported with all of their names.
* `missing_fields_reported`: what is reported, and in which order.
-/

namespace RowPatch

namespace Path

theorem dotted_cons
    (n : String)
    (p : Path)
    (hp : p ≠ []) :
    dotted (n :: p) = n ++ "." ++ dotted p :=
  String.intercalate_cons_of_ne_nil hp

theorem compact_empty_cons (p : Path) : compact ("" :: p) = compact p := by
  simp [compact]

theorem compact_cons
    (n : String)
    (p : Path)
    (hn : n ≠ "") :
    compact (n :: p) = dotted (n :: p) := by
  simp [compact, hn]

theorem length_dotted_le_cons
    (n : String)
    (p : Path) :
    (dotted p).length ≤ (dotted (n :: p)).length := by
  by_cases hp : p = []
  · simp [hp, dotted]
  · rw [dotted_cons n p hp, String.length_append]
    exact Nat.le_add_left _ _

theorem length_compact_le (p : Path) : (compact p).length ≤ (dotted p).length := by
  induction p with
  | nil => exact Nat.le_refl _
  | cons n p ih =>
      by_cases hn : n = ""
      · subst hn
        rw [compact_empty_cons]
        exact Nat.le_trans ih (length_dotted_le_cons "" p)
      · exact Nat.le_of_eq (congrArg String.length (compact_cons n p hn))

/-- A path is reported with all of its names, unless the first of several names is empty. -/
theorem compact_eq_dotted_iff (p : Path) :
    p.compact = p.dotted ↔ (p.head? = some "" → p = [""]) := by
  cases p with
  | nil => simp [compact]
  | cons n p =>
      by_cases hn : n = ""
      · subst hn
        by_cases hp : p = []
        · simp [hp, compact, dotted]
        · -- the dot after the empty name is lost
          have hdotted : dotted ("" :: p) = "." ++ dotted p := by
            rw [dotted_cons "" p hp, String.empty_append]
          have hne : compact p ≠ "." ++ dotted p := by
            intro h
            have hlength := length_compact_le p
            rw [h, String.length_append] at hlength
            exact absurd hlength (Nat.not_le_of_lt (Nat.lt_add_of_pos_left (by decide)))
          rw [compact_empty_cons, hdotted]
          simp [hne, hp]
      · simp [compact_cons n p hn, hn]

end Path

namespace DataType

/-- The path leads to a field of `source` that `target` does not have, though it has the row that
would hold the field. -/
def Lacks (target source : DataType) (p : Path) : Prop :=
  (∃ u, source.at? p = some u) ∧ target.at? p = none ∧
    ∃ q n s o fs, p = q ++ [n] ∧ target.at? q = some (row s o fs)

theorem not_lacks_nil (target source : DataType) : ¬ Lacks target source [] := by
  rintro ⟨-, hnone, -⟩
  exact absurd hnone (by simp)

theorem not_scalar_lacks
    (k : Scalar)
    (source : DataType)
    (p : Path) :
    ¬ Lacks (scalar k) source p := by
  rintro ⟨-, -, q, n, s, o, fs, -, hrow⟩
  exact absurd ((at?_scalar_eq_some_iff k q _).1 hrow).2 (by simp)

theorem not_lacks_scalar
    (target : DataType)
    (k : Scalar)
    (p : Path) :
    ¬ Lacks target (scalar k) p := by
  intro h
  obtain ⟨u, hu⟩ := h.1
  obtain rfl := ((at?_scalar_eq_some_iff k p u).1 hu).1
  exact not_lacks_nil target (scalar k) h

/-- A row lacks the names that it does not have, and under a common name what its type of that name
lacks. -/
theorem row_lacks_row_cons_iff
    (s s' : Shape)
    (o o' : SortedSet Origin)
    (ts us : Fields none)
    (n : String)
    (p : Path) :
    Lacks (row s o ts) (row s' o' us) (n :: p) ↔
      ∃ u, us.find? n = some u ∧
        ((ts.find? n = none ∧ p = []) ∨ ∃ t, ts.find? n = some t ∧ Lacks t u p) := by
  constructor
  · rintro ⟨⟨x, hx⟩, hnone, q, m, s₁, o₁, fs, hp, hrow⟩
    obtain ⟨u, hu, hux⟩ := (at?_row_cons_eq_some_iff s' o' us n p x).1 hx
    rw [at?_row_cons_eq_none_iff] at hnone
    refine ⟨u, hu, ?_⟩
    cases q with
    | nil =>
        obtain ⟨rfl, rfl⟩ := List.cons.inj hp
        cases ht : ts.find? n with
        | none => exact Or.inl ⟨rfl, rfl⟩
        | some t => exact absurd (hnone t ht) (by simp)
    | cons n' q =>
        obtain ⟨rfl, rfl⟩ := List.cons.inj hp
        obtain ⟨t, ht, htrow⟩ := (at?_row_cons_eq_some_iff s o ts n q _).1 hrow
        exact Or.inr ⟨t, ht, ⟨x, hux⟩, hnone t ht, q, m, s₁, o₁, fs, rfl, htrow⟩
  · rintro ⟨u, hu, ⟨hnone, rfl⟩ | ⟨t, ht, ⟨x, hx⟩, hnone, q, m, s₁, o₁, fs, rfl, hrow⟩⟩
    · refine ⟨⟨u, (at?_row_cons_eq_some_iff s' o' us n [] u).2 ⟨u, hu, rfl⟩⟩, ?_,
        [], n, s, o, ts, rfl, rfl⟩
      rw [at?_row_cons_eq_none_iff]
      intro t ht
      simp [hnone] at ht
    · refine ⟨⟨x, (at?_row_cons_eq_some_iff s' o' us n _ x).2 ⟨u, hu, hx⟩⟩, ?_,
        n :: q, m, s₁, o₁, fs, rfl, (at?_row_cons_eq_some_iff s o ts n q _).2 ⟨t, ht, hrow⟩⟩
      rw [at?_row_cons_eq_none_iff]
      intro t' ht'
      cases Option.some.inj (ht.symm.trans ht')
      exact hnone

/-- The paths that are found are those to the missing fields. -/
theorem mem_missing_iff (u : DataType) :
    ∀ (t : DataType) (p : Path), p ∈ t.missing u ↔ Lacks t u p := by
  induction u using DataType.induction with
  | scalar k =>
      intro t p
      simp [not_lacks_scalar]
  | row s' o' us ih =>
      intro t p
      cases t with
      | scalar k => simp [missing, not_scalar_lacks]
      | row s o ts =>
          rw [missing_row_row, Fields.missing_eq_pathsUnder, Fields.mem_pathsUnder_iff]
          constructor
          · rintro ⟨n, u, q, hu, hq, rfl⟩
            rw [row_lacks_row_cons_iff]
            refine ⟨u, hu, ?_⟩
            cases ht : ts.find? n with
            | none => exact Or.inl ⟨rfl, by simpa [ht] using hq⟩
            | some t =>
                rw [ht] at hq
                exact Or.inr ⟨t, rfl, (ih n u hu t q).1 hq⟩
          · intro h
            cases p with
            | nil => exact absurd h (not_lacks_nil _ _)
            | cons n p =>
                obtain ⟨u, hu, ⟨hnone, rfl⟩ | ⟨t, ht, hlacks⟩⟩ :=
                  (row_lacks_row_cons_iff s s' o o' ts us n p).1 h
                · exact ⟨n, u, [], hu, by simp [hnone], rfl⟩
                · exact ⟨n, u, p, hu, by rw [ht]; exact (ih n u hu t p).2 hlacks, rfl⟩

/-- The paths to the missing fields, in order. -/
def missingPaths (target source : DataType) : SortedSet Path :=
  ⟨target.missing source, pairwise_missing source target⟩

theorem mem_missingPaths_iff
    (target source : DataType)
    (p : Path) :
    p ∈ missingPaths target source ↔ Lacks target source p :=
  mem_missing_iff source target p

end DataType

/-- What is reported of two types of which the first lacks fields of the second.  Nothing is
reported exactly when no field is missing.  Otherwise the paths to the missing fields are reported
in order, each of them once, without the empty names at their head; so the report has all names
exactly when none of these paths has an empty name before other names. -/
theorem missing_fields_reported
    (target source : DataType) :
    (source.missingNames target = [] ↔ ∀ p, ¬ DataType.Lacks target source p) ∧
      ∃ ps : SortedSet Path,
        (∀ p, p ∈ ps ↔ DataType.Lacks target source p) ∧
        source.missingNames target = ps.toList.map Path.compact ∧
        (source.missingNames target = ps.toList.map Path.dotted ↔
          ∀ p, DataType.Lacks target source p → p.head? = some "" → p = [""]) := by
  constructor
  · rw [DataType.missingNames_eq_nil_iff, List.eq_nil_iff_forall_not_mem]
    exact forall_congr' fun p => not_congr (DataType.mem_missing_iff source target p)
  · refine ⟨DataType.missingPaths target source, DataType.mem_missingPaths_iff target source,
      rfl, ?_⟩
    rw [DataType.missingNames, DataType.missingPaths, List.map_inj_left]
    refine forall_congr' fun p => ?_
    rw [DataType.mem_missing_iff, Path.compact_eq_dotted_iff]

/-- Of an order whose lines are a table, compared with one whose lines are a record, the unnamed
field, the day and the note are missing and reported in full. -/
theorem fields_of_order_missing :
    let row (shape : Shape) (fields : List (String × Scalar)) : DataType :=
      .row shape ∅ (.ofList (fields.map fun f => (f.1, .scalar f.2)))
    let source : DataType := .record ∅ (.ofList
      [("lines", row (.table false) [("", .text), ("day", .date), ("item", .text)]),
        ("note", .scalar .text)])
    let target : DataType := .record ∅ (.ofList [("lines", row .record [("item", .number)])])
    DataType.Lacks target source ["lines", ""] ∧
      source.missingNames target = ["lines.", "lines.day", "note"] ∧
      ∃ ps : SortedSet Path, (∀ p, p ∈ ps ↔ DataType.Lacks target source p) ∧
        ps.toList.map Path.dotted = ["lines.", "lines.day", "note"] := by
  intro row source target
  have hnames : source.missingNames target = ["lines.", "lines.day", "note"] := by decide +kernel
  have hmissing : target.missing source = [["lines", ""], ["lines", "day"], ["note"]] := by
    decide +kernel
  have hheads : ∀ p ∈ target.missing source, p.head? = some "" → p = [""] := by
    rw [hmissing]
    decide
  obtain ⟨-, ps, hps, -, hdotted⟩ := missing_fields_reported target source
  refine ⟨?_, hnames, ps, hps, ?_⟩
  · rw [← DataType.mem_missing_iff, hmissing]
    exact List.mem_cons_self
  · rw [← hdotted.2, hnames]
    intro p hp
    exact hheads p ((DataType.mem_missing_iff source target p).2 hp)

/-- Of the price below an unnamed field the name alone is reported.  A conflict at the price is
reported with the dot after the empty name. -/
theorem empty_name_left_out :
    let order (fields : List (String × DataType)) : DataType :=
      .record ∅ (.ofList [("", .record ∅ (.ofList fields))])
    let source := order [("price", .scalar .text)]
    let target := order []
    let ps := DataType.missingPaths target source
    (∀ p, p ∈ ps ↔ DataType.Lacks target source p) ∧
      ps.toList.map Path.dotted = [".price"] ∧
      source.missingNames target = ["price"] ∧
      ∃ c, source.union .standard (order [("price", .scalar .boolean)]) = .error c ∧
        c.fields = [".price"] := by
  intro order source target ps
  refine ⟨DataType.mem_missingPaths_iff target source, by decide +kernel, by decide +kernel,
    _, rfl, by decide +kernel⟩

end RowPatch
