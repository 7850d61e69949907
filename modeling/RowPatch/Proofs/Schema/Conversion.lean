import RowPatch.Proofs.Schema.Marks
import RowPatch.Proofs.Schema.Names
import RowPatch.Proofs.Schema.Positions

/-!
# What types are converted to

A conversion goes down two types together, as long as both have rows of one kind.  It fails at a
field that is not expected, and where the comparison ends at types of which one neither fits the
other nor can be converted to it.  Otherwise what fits stays as it is and the rest becomes what is
expected.

**Results.**
* `DataType.coerce?_isSome_iff_throughout`: a conversion succeeds when it may go on at every pair of
  types that it meets.
* `DataType.at?_of_coerce?`: the part at a position of a converted type is the converted part.
* `conversion_changes_only_misfits`: what a conversion gives, and when it fails.
-/

namespace RowPatch

namespace DataType

/-- Both are rows of one kind. -/
def sameKind : DataType → DataType → Bool
  | .row s _ _, .row s' _ _ => s.sameKind s'
  | _, _ => false

/-- A value of the first type can be converted to the second without looking inside it. -/
def convertsTo : DataType → DataType → Bool
  | .scalar s, .scalar t => s.convertsTo t
  | _, _ => false

/-- The pairs of types that the comparison of two types meets, with the path that leads to them: the
two types and, if they are rows of one kind, what the types under each common name meet. -/
inductive Meets : DataType → DataType → Path → DataType → DataType → Prop
  | whole (t u : DataType) : Meets t u [] t u
  | field
      {s s' : Shape} {o o' : SortedSet Origin} {ts us : Fields none}
      {n : String} {t u : DataType} {p : Path} {x y : DataType}
      (hkind : s.plain = s'.plain)
      (ht : ts.find? n = some t)
      (hu : us.find? n = some u)
      (h : Meets t u p x y) :
      Meets (.row s o ts) (.row s' o' us) (n :: p) x y

/-- What holds of every pair of types that the comparison of two types meets. -/
def Throughout (P : DataType → DataType → Prop) (t u : DataType) : Prop :=
  ∀ p x y, Meets t u p x y → P x y

section Throughout

variable {P : DataType → DataType → Prop}

theorem throughout_scalar_right_iff
    (t : DataType)
    (j : Scalar) :
    t.Throughout P (scalar j) ↔ P t (scalar j) := by
  constructor
  · intro h
    exact h [] t (scalar j) (.whole t (scalar j))
  · intro h p x y hmeets
    cases hmeets
    exact h

theorem throughout_scalar_left_iff
    (k : Scalar)
    (u : DataType) :
    (scalar k).Throughout P u ↔ P (scalar k) u := by
  constructor
  · intro h
    exact h [] (scalar k) u (.whole (scalar k) u)
  · intro h p x y hmeets
    cases hmeets
    exact h

theorem throughout_row_iff
    (s s' : Shape)
    (o o' : SortedSet Origin)
    (ts us : Fields none) :
    (row s o ts).Throughout P (row s' o' us) ↔
      P (row s o ts) (row s' o' us) ∧
        (s.plain = s'.plain →
          ∀ n t u, ts.find? n = some t → us.find? n = some u → t.Throughout P u) := by
  constructor
  · intro h
    refine ⟨h [] _ _ (.whole _ _), ?_⟩
    intro hkind n t u ht hu p x y hmeets
    exact h (n :: p) x y (.field hkind ht hu hmeets)
  · rintro ⟨hrow, hfields⟩ p x y hmeets
    cases hmeets with
    | whole => exact hrow
    | field hkind ht hu hmeets => exact hfields hkind _ _ _ ht hu _ x y hmeets

end Throughout

variable (d : Dialect)

/-- A conversion may go on at a pair of types: rows of one kind have to have the names that they are
compared by, and other types have to fit or be convertible. -/
structure Admits (target source : DataType) : Prop where
  names : target.sameKind source = true → ∀ n ∈ source.fieldNames, n ∈ target.fieldNames
  fits : target.sameKind source = false →
    target.accepts d .loose source = true ∨ source.convertsTo target = true

theorem admits_scalar_scalar_iff
    (k j : Scalar) :
    Admits d (scalar k) (scalar j) ↔ ((scalar k).coerce? d (scalar j)).isSome = true := by
  rw [coerce?_scalar_scalar, Option.isSome_map, Scalar.coerce?_isSome_iff]
  exact ⟨fun h => accepts_scalar_scalar d .loose k j ▸ h.fits rfl,
    fun h => ⟨fun hkind => absurd hkind (by simp [sameKind]),
      fun _ => by rw [accepts_scalar_scalar]; exact h⟩⟩

theorem admits_row_scalar_iff
    (s : Shape)
    (o : SortedSet Origin)
    (ts : Fields none)
    (j : Scalar) :
    Admits d (row s o ts) (scalar j) ↔ ((row s o ts).coerce? d (scalar j)).isSome = true := by
  rw [coerce?_row_scalar]
  constructor
  · intro h
    have hblank := (h.fits rfl).resolve_right (by simp [convertsTo])
    rw [accepts_row_scalar_iff] at hblank
    simp [hblank.2]
  · intro h
    have hblank : j = .blank := by simpa using h
    refine ⟨fun hkind => absurd hkind (by simp [sameKind]), fun _ => Or.inl ?_⟩
    rw [accepts_row_scalar_iff]
    exact ⟨rfl, hblank⟩

theorem not_admits_scalar_row
    (k : Scalar)
    (s : Shape)
    (o : SortedSet Origin)
    (us : Fields none) :
    ¬ Admits d (scalar k) (row s o us) := by
  intro h
  have hfits := h.fits rfl
  simp [convertsTo] at hfits

/-- Rows of one kind are compared further when no field is missing; rows of two kinds never are. -/
theorem admits_row_row_iff
    (s s' : Shape)
    (o o' : SortedSet Origin)
    (ts us : Fields none) :
    Admits d (row s o ts) (row s' o' us) ↔
      s.plain = s'.plain ∧ ∀ n u, us.find? n = some u → ∃ t, ts.find? n = some t := by
  have hnames : (∀ n ∈ (row s' o' us).fieldNames, n ∈ (row s o ts).fieldNames) ↔
      ∀ n u, us.find? n = some u → ∃ t, ts.find? n = some t := by
    simp only [mem_fieldNames_row_iff, forall_exists_index]
  by_cases hkind : s.plain = s'.plain
  · have hsame : (row s o ts).sameKind (row s' o' us) = true := (Shape.sameKind_iff s s').2 hkind
    rw [← hnames]
    constructor
    · intro h
      exact ⟨hkind, h.names hsame⟩
    · intro h
      exact ⟨fun _ => h.2, fun hdiffer => by rw [hsame] at hdiffer; exact absurd hdiffer (by simp)⟩
  · have hdiffer : (row s o ts).sameKind (row s' o' us) = false :=
      Bool.eq_false_iff.2 (mt (Shape.sameKind_iff s s').1 hkind)
    constructor
    · intro h
      rcases h.fits hdiffer with haccepts | hconverts
      · rw [accepts_row_iff] at haccepts
        exact absurd haccepts.1 hkind
      · simp [convertsTo] at hconverts
    · intro h
      exact absurd h.1 hkind

/-- A conversion succeeds when it may go on at every pair of types that it meets. -/
theorem coerce?_isSome_iff_throughout (u : DataType) :
    ∀ t : DataType, (t.coerce? d u).isSome = true ↔ t.Throughout (Admits d) u := by
  induction u using DataType.induction with
  | scalar j =>
      intro t
      rw [throughout_scalar_right_iff]
      cases t with
      | scalar k => exact (admits_scalar_scalar_iff d k j).symm
      | row s o ts => exact (admits_row_scalar_iff d s o ts j).symm
  | row s' o' us ih =>
      intro t
      cases t with
      | scalar k =>
          rw [throughout_scalar_left_iff, coerce?_scalar_row]
          simp [not_admits_scalar_row]
      | row s o ts =>
          rw [throughout_row_iff, admits_row_row_iff]
          by_cases hkind : s.plain = s'.plain
          · rw [coerce?_row_row d s s' o o' ts us hkind, Option.isSome_map,
              Fields.coerceAll?_isSome_iff]
            constructor
            · intro h
              refine ⟨⟨hkind, fun n u hu => (h n u hu).imp fun t ht => ht.1⟩, ?_⟩
              intro _ n t u ht hu
              obtain ⟨t', ht', htu⟩ := h n u hu
              cases Option.some.inj (ht.symm.trans ht')
              exact (ih n u hu t).1 htu
            · rintro ⟨⟨-, hfound⟩, hfields⟩ n u hu
              obtain ⟨t, ht⟩ := hfound n u hu
              exact ⟨t, ht, (ih n u hu t).2 (hfields hkind n t u ht hu)⟩
          · rw [coerce?, if_neg (mt (Shape.sameKind_iff s s').1 hkind)]
            simp [hkind]

/-- The part at a position of a converted type is the converted part. -/
theorem at?_of_coerce? (p : Path) :
    ∀ t u c x : DataType, t.coerce? d u = some c → u.at? p = some x →
      ∃ y z, t.at? p = some y ∧ y.coerce? d x = some z ∧ c.at? p = some z := by
  induction p with
  | nil =>
      intro t u c x hc hx
      cases Option.some.inj hx
      exact ⟨t, c, rfl, hc, rfl⟩
  | cons n p ih =>
      intro t u c x hc hx
      cases u with
      | scalar j => exact absurd ((at?_scalar_eq_some_iff j _ x).1 hx).1 (by simp)
      | row s' o' us =>
          cases t with
          | scalar k => simp [coerce?_scalar_row] at hc
          | row s o ts =>
              obtain ⟨cs, -, hcs, rfl⟩ := coerce?_row_eq_some d s s' o o' ts us c hc
              obtain ⟨u, hu, hx⟩ := (at?_row_cons_eq_some_iff s' o' us n p x).1 hx
              rcases Fields.find?_coerceAll? d ts us cs hcs n with
                ⟨hnone, -⟩ | ⟨u', t, c, hu', ht, hc, hcn⟩
              · simp [hnone] at hu
              · cases Option.some.inj (hu'.symm.trans hu)
                obtain ⟨y, z, hy, hz, hcz⟩ := ih t u c x hc hx
                exact ⟨y, z, (at?_row_cons_eq_some_iff s o ts n p y).2 ⟨t, ht, hy⟩, hz,
                  (at?_row_cons_eq_some_iff _ o' cs n p z).2 ⟨c, hcn, hcz⟩⟩

/-- A row at a position keeps its names and origins and loses its mark. -/
theorem row_at?_of_coerce?
    (target source c : DataType)
    (hc : target.coerce? d source = some c)
    (p : Path)
    (s : Shape)
    (o : SortedSet Origin)
    (fs : Fields none)
    (hrow : source.at? p = some (row s o fs)) :
    ∃ cs, c.at? p = some (row s.plain o cs) ∧ cs.names = fs.names := by
  obtain ⟨y, z, -, hz, hcz⟩ := at?_of_coerce? d p target source c _ hc hrow
  cases y with
  | scalar k => simp [coerce?_scalar_row] at hz
  | row s' o' ts =>
      obtain ⟨cs, -, hcs, rfl⟩ := coerce?_row_eq_some d s' s o' o ts fs z hz
      exact ⟨cs, hcz, Fields.names_of_coerceAll? d ts fs cs hcs⟩

/-- A scalar type that can be converted stays as it is if it fits and becomes the expected type if
it does not. -/
theorem coerce?_scalar_eq_some
    (t : DataType)
    (k : Scalar)
    (c : DataType)
    (hc : t.coerce? d (scalar k) = some c) :
    c = if t.accepts d .loose (scalar k) = true then scalar k else t := by
  cases t with
  | scalar j =>
      rw [coerce?_scalar_scalar] at hc
      obtain ⟨i, hi, rfl⟩ := Option.map_eq_some_iff.1 hc
      rw [accepts_scalar_scalar]
      unfold Scalar.coerce? at hi
      split at hi
      · rename_i haccepts
        rw [if_pos haccepts, Option.some.inj hi]
      · rename_i haccepts
        split at hi
        · rw [if_neg haccepts, Option.some.inj hi]
        · exact absurd hi (by simp)
  | row s o ts =>
      rw [coerce?_row_scalar] at hc
      split at hc
      · rename_i hblank
        rw [if_pos ((accepts_row_scalar_iff d .loose k s o ts).2 ⟨rfl, hblank⟩),
          ← Option.some.inj hc, hblank]
      · exact absurd hc (by simp)

/-- A scalar type at a position stays as it is if it fits there and becomes the expected type if it
does not. -/
theorem scalar_at?_of_coerce?
    (target source c : DataType)
    (hc : target.coerce? d source = some c)
    (p : Path)
    (k : Scalar)
    (hscalar : source.at? p = some (scalar k)) :
    ∃ t, target.at? p = some t ∧
      c.at? p = some (if t.accepts d .loose (scalar k) = true then scalar k else t) := by
  obtain ⟨t, z, ht, hz, hcz⟩ := at?_of_coerce? d p target source c _ hc hscalar
  exact ⟨t, ht, coerce?_scalar_eq_some d t k z hz ▸ hcz⟩

/-- A conversion fails at a field that is not expected, or at types that end the comparison. -/
theorem coerce?_eq_none_iff
    (target source : DataType) :
    target.coerce? d source = none ↔
      (∃ p x y n, Meets target source p x y ∧ x.sameKind y = true ∧ n ∈ y.fieldNames ∧
        n ∉ x.fieldNames) ∨
      ∃ p x y, Meets target source p x y ∧ x.sameKind y = false ∧
        x.accepts d .loose y = false ∧ y.convertsTo x = false := by
  rw [← Option.not_isSome_iff_eq_none, coerce?_isSome_iff_throughout]
  constructor
  · intro h
    obtain ⟨p, x, y, hmeets, hadmits⟩ : ∃ p x y, Meets target source p x y ∧ ¬ Admits d x y := by
      simpa [Throughout] using h
    cases hkind : x.sameKind y with
    | true =>
        obtain ⟨n, hn, hmissing⟩ : ∃ n ∈ y.fieldNames, n ∉ x.fieldNames := by
          apply Classical.byContradiction
          intro hnone
          refine hadmits ⟨fun _ n hn => ?_, fun hdiffer => by simp [hkind] at hdiffer⟩
          exact Classical.byContradiction fun hmissing => hnone ⟨n, hn, hmissing⟩
        exact Or.inl ⟨p, x, y, n, hmeets, hkind, hn, hmissing⟩
    | false =>
        have hfits : ¬ (x.accepts d .loose y = true ∨ y.convertsTo x = true) := fun hfits =>
          hadmits ⟨fun hsame => by simp [hkind] at hsame, fun _ => hfits⟩
        rw [not_or, Bool.not_eq_true, Bool.not_eq_true] at hfits
        exact Or.inr ⟨p, x, y, hmeets, hkind, hfits⟩
  · rintro (⟨p, x, y, n, hmeets, hkind, hn, hmissing⟩ | ⟨p, x, y, hmeets, hkind, hfits⟩) h
    · exact hmissing ((h p x y hmeets).names hkind n hn)
    · rcases (h p x y hmeets).fits hkind with haccepts | hconverts
      · simp [hfits.1] at haccepts
      · simp [hfits.2] at hconverts

end DataType

/-- What a conversion gives, and when it fails.  A type to convert to fits loosely and is converted
to itself.  Its rows have the names and the origins of the rows that are converted, and its scalar
types are those that are converted if they fit and the expected ones if they do not.  There is none
exactly when a field is not expected, or a position other than two rows of one kind has types of
which one neither fits the other nor can be converted to it. -/
theorem conversion_changes_only_misfits
    (d : Dialect)
    (target source : DataType) :
    (∀ c, target.coerce? d source = some c →
      target.accepts d .loose c = true ∧
      (∀ p s o fs, source.at? p = some (.row s o fs) →
        ∃ cs, c.at? p = some (.row s.plain o cs) ∧ cs.names = fs.names) ∧
      (∀ p k, source.at? p = some (.scalar k) →
        ∃ t, target.at? p = some t ∧
          c.at? p = some (if t.accepts d .loose (.scalar k) = true then .scalar k else t)) ∧
      target.coerce? d c = some c) ∧
    (target.coerce? d source = none ↔
      (∃ p x y n, DataType.Meets target source p x y ∧ x.sameKind y = true ∧
        n ∈ y.fieldNames ∧ n ∉ x.fieldNames) ∨
      ∃ p x y, DataType.Meets target source p x y ∧ x.sameKind y = false ∧
        x.accepts d .loose y = false ∧ y.convertsTo x = false) := by
  refine ⟨?_, DataType.coerce?_eq_none_iff d target source⟩
  intro c hc
  exact ⟨DataType.accepts_of_coerce? d source target c hc,
    DataType.row_at?_of_coerce? d target source c hc,
    DataType.scalar_at?_of_coerce? d target source c hc,
    DataType.coerce?_of_coerce? d target source c hc⟩

/-- An order with a failed table of texts and a blank flag is converted to one with a table of
numbers and the blank flag.  An order with a note is not converted. -/
theorem order_of_texts_converted :
    let d := Dialect.standard
    let order (failed : Bool) (origins : SortedSet Origin) (count paid : Scalar) : DataType :=
      .record ∅ (.ofList [("lines", .table failed origins (.ofList [("count", .scalar count)])),
        ("paid", .scalar paid)])
    let target := order false ∅ .number .boolean
    let shop : SortedSet Origin := .ofList [⟨"shop", ∅⟩]
    let source := order true shop .text .blank
    let c := order false shop .number .blank
    let noted := DataType.record ∅ (.ofList [("note", .scalar .text)])
    target.coerce? d source = some c ∧
      target.accepts d .loose c = true ∧
      (∃ t, target.at? ["lines", "count"] = some t ∧
        c.at? ["lines", "count"] =
          some (if t.accepts d .loose (.scalar .text) = true then .scalar .text else t)) ∧
      target.coerce? d c = some c ∧
      target.coerce? d noted = none := by
  intro d order target shop source c noted
  have hc : target.coerce? d source = some c := by decide +kernel
  obtain ⟨haccepts, -, hscalars, hagain⟩ := (conversion_changes_only_misfits d target source).1 c hc
  refine ⟨hc, haccepts, hscalars ["lines", "count"] .text (by decide +kernel), hagain, ?_⟩
  exact (conversion_changes_only_misfits d target noted).2.2
    (Or.inl ⟨[], target, noted, "note", .whole target noted, rfl, by decide +kernel,
      by decide +kernel⟩)

end RowPatch
