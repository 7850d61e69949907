import RowPatch.Proofs.Schema.Conversion

/-!
# Which pairs of types are converted

The rules list the conversions between scalar types: text and numbers or booleans in either
direction, numbers and booleans in either direction, text to dates and times, numbers to dates, and
dates and timestamps to each other.  A conversion changes a type at these pairs, and at five more that
the list leaves out: dates and times are also converted to text, and decimals to dates.

**Results.**
* `Scalar.convertsTo_iff_mem`: the conversions are the listed ones and the five others.
* `DataType.pairedIn_of_changed`: where a conversion changes a type it meets one of these pairs.
* `dates_converted_to_text`: the list alone does not account for every change.
* `conversions_follow_table`: which changes there are, and when a conversion succeeds.
-/

namespace RowPatch

namespace Scalar

/-- The conversions that the rules list, from the first type to the second. -/
def listedConversions : List (Scalar × Scalar) :=
  -- in either direction
  [number, decimal, boolean].flatMap (fun k => [(text, k), (k, text)]) ++
    [number, decimal].flatMap (fun k => [(k, boolean), (boolean, k)]) ++
    -- in one direction
    [date, dateTime, time].map (fun k => (text, k)) ++
    [date, dateTime].map (fun k => (number, k)) ++
    [(date, dateTime), (dateTime, date)]

/-- The conversions that are made without being listed. -/
def unlistedConversions : List (Scalar × Scalar) :=
  [date, dateTime, time].map (fun k => (k, text)) ++
    [date, dateTime].map (fun k => (decimal, k))

/-- The conversions between scalar types are the listed ones and the five others. -/
theorem convertsTo_iff_mem (k j : Scalar) :
    k.convertsTo j = true ↔ (k, j) ∈ listedConversions ++ unlistedConversions := by
  cases k <;> cases j <;> decide

end Scalar

namespace DataType

/-- Both types are scalar, and the list has the pair of the first and the second. -/
def PairedIn (pairs : List (Scalar × Scalar)) (source target : DataType) : Prop :=
  ∃ k j, source = scalar k ∧ target = scalar j ∧ (k, j) ∈ pairs

theorem convertsTo_iff_pairedIn (source target : DataType) :
    source.convertsTo target = true ↔
      source.PairedIn (Scalar.listedConversions ++ Scalar.unlistedConversions) target := by
  cases source with
  | scalar k =>
      cases target with
      | scalar j => simp [convertsTo, PairedIn, Scalar.convertsTo_iff_mem]
      | row s o ts => simp [convertsTo, PairedIn]
  | row s o us => simp [convertsTo, PairedIn]

/-- The types that a comparison meets stand at its path. -/
theorem Meets.at?_eq
    {t u x y : DataType}
    {p : Path}
    (h : Meets t u p x y) :
    t.at? p = some x ∧ u.at? p = some y := by
  induction h with
  | whole t u => exact ⟨rfl, rfl⟩
  | @field s s' o o' ts us n t u p x y hkind ht hu h ih =>
      exact ⟨(at?_row_cons_eq_some_iff s o ts n p x).2 ⟨t, ht, ih.1⟩,
        (at?_row_cons_eq_some_iff s' o' us n p y).2 ⟨u, hu, ih.2⟩⟩

variable (d : Dialect)

/-- Where a conversion meets other types than rows of one kind, the converted type stands at the path,
and a type that was changed is one of the conversions. -/
theorem pairedIn_of_changed
    {target source c x y : DataType}
    {p : Path}
    (hc : target.coerce? d source = some c)
    (hmeets : Meets target source p x y)
    (hkind : x.sameKind y = false) :
    ∃ z, c.at? p = some z ∧
      (z ≠ y → y.PairedIn (Scalar.listedConversions ++ Scalar.unlistedConversions) x) := by
  obtain ⟨hx, hy⟩ := hmeets.at?_eq
  obtain ⟨x', z, hx', hz, hcz⟩ := at?_of_coerce? d p target source c y hc hy
  cases Option.some.inj (hx.symm.trans hx')
  refine ⟨z, hcz, fun hchanged => ?_⟩
  have hadmits : Admits d x y :=
    (coerce?_isSome_iff_throughout d source target).1 (by simp [hc]) p x y hmeets
  rw [← convertsTo_iff_pairedIn]
  refine (hadmits.fits hkind).resolve_left fun hfits => hchanged ?_
  -- what fits is a scalar type and stays as it is
  cases y with
  | scalar k => rw [coerce?_scalar_eq_some d x k z hz, if_pos hfits]
  | row s o us =>
      cases x with
      | scalar j => simp at hfits
      | row s' o' ts =>
          rw [accepts_row_iff] at hfits
          rw [sameKind, (Shape.sameKind_iff s' s).2 hfits.1] at hkind
          cases hkind

/-- A conversion succeeds when no field is missing and all other pairs fit or are conversions. -/
theorem exists_coerce?_of_pairedIn
    (target source : DataType)
    (hnames : ∀ p x y, Meets target source p x y → x.sameKind y = true →
      ∀ n ∈ y.fieldNames, n ∈ x.fieldNames)
    (hpairs : ∀ p x y, Meets target source p x y → x.sameKind y = false →
      x.accepts d .loose y = true ∨
        y.PairedIn (Scalar.listedConversions ++ Scalar.unlistedConversions) x) :
    ∃ c, target.coerce? d source = some c := by
  rw [← Option.isSome_iff_exists, coerce?_isSome_iff_throughout]
  intro p x y hmeets
  refine ⟨hnames p x y hmeets, fun hkind => ?_⟩
  rw [convertsTo_iff_pairedIn]
  exact hpairs p x y hmeets hkind

end DataType

/-- The list does not account for every change: a date is converted to text. -/
theorem dates_converted_to_text :
    ¬ ∀ (d : Dialect) (target source c : DataType), target.coerce? d source = some c →
      ∀ p x y z, DataType.Meets target source p x y → x.sameKind y = false → c.at? p = some z →
        z ≠ y → y.PairedIn Scalar.listedConversions x := by
  intro h
  obtain ⟨k, j, hk, hj, hlisted⟩ := h .standard (.scalar .text) (.scalar .date) (.scalar .text) rfl
    [] _ _ _ (.whole _ _) rfl rfl (by simp)
  cases hk
  cases hj
  exact absurd hlisted (by decide)

/-- Where a conversion changes a type, other than by going into rows of one kind, the types that meet
there are a listed conversion, a date, timestamp or time that becomes text, or a decimal that becomes
a date or timestamp.  It succeeds whenever the rows of one kind that meet have no field too many and
all other types that meet fit or are such a pair. -/
theorem conversions_follow_table
    (d : Dialect)
    (target source : DataType) :
    (∀ c, target.coerce? d source = some c →
      ∀ p x y, DataType.Meets target source p x y → x.sameKind y = false →
        ∃ z, c.at? p = some z ∧
          (z ≠ y → y.PairedIn (Scalar.listedConversions ++ Scalar.unlistedConversions) x)) ∧
    ((∀ p x y, DataType.Meets target source p x y → x.sameKind y = true →
        ∀ n ∈ y.fieldNames, n ∈ x.fieldNames) →
      (∀ p x y, DataType.Meets target source p x y → x.sameKind y = false →
        x.accepts d .loose y = true ∨
          y.PairedIn (Scalar.listedConversions ++ Scalar.unlistedConversions) x) →
      ∃ c, target.coerce? d source = some c) :=
  ⟨fun _ hc _ _ _ => DataType.pairedIn_of_changed d hc,
    DataType.exists_coerce?_of_pairedIn d target source⟩

/-- The due date of a line becomes text, which is not listed, and its decimal cost stays.  A decimal
alone becomes a date. -/
theorem due_date_of_line_converted :
    let order (due cost : Scalar) : DataType :=
      .record ∅ (.ofList [("lines", .table false ∅
        (.ofList [("cost", .scalar cost), ("due", .scalar due)]))])
    let target := order .text .number
    let source := order .date .decimal
    let c := order .text .decimal
    target.coerce? .standard source = some c ∧
      DataType.Meets target source ["lines", "due"] (.scalar .text) (.scalar .date) ∧
      c.at? ["lines", "due"] = some (.scalar .text) ∧
      (DataType.scalar .date).PairedIn
        (Scalar.listedConversions ++ Scalar.unlistedConversions) (.scalar .text) ∧
      ∃ c, (DataType.scalar .date).coerce? .standard (.scalar .decimal) = some c := by
  intro order target source c
  have hc : target.coerce? .standard source = some c := by decide +kernel
  have hmeets : DataType.Meets target source ["lines", "due"] (.scalar .text) (.scalar .date) :=
    .field rfl rfl rfl (.field rfl rfl rfl (.whole _ _))
  have hdue : c.at? ["lines", "due"] = some (.scalar .text) := by decide +kernel
  obtain ⟨z, hz, hchanged⟩ :=
    (conversions_follow_table .standard target source).1 c hc _ _ _ hmeets rfl
  cases Option.some.inj (hdue.symm.trans hz)
  refine ⟨hc, hmeets, hdue, hchanged (by simp), ?_⟩
  apply (conversions_follow_table .standard (.scalar .date) (.scalar .decimal)).2
  · rintro p x y ⟨⟩ hkind
    cases hkind
  · rintro p x y ⟨⟩ -
    exact Or.inr ⟨.decimal, .date, rfl, rfl, by decide⟩

end RowPatch
