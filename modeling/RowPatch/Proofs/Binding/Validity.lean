import RowPatch.Proofs.Binding.Verdict

/-!
# Valid calls

A call on a table is valid when each argument passes its inspection and what it adds unites with
what the arguments before it made of the row.  All else about a valid call is then read off its
arguments, and arguments that are inspected alike in two calls add the same to both.

**Results.**
* `valid_checkArguments_iff_forall`: when a call on a table is valid.
* `checkArguments_of_valid`: the verdict on a valid call.
* `inspectArgument_eq_of_valid`: an argument that passes its inspection passes it alike wherever it
  fits and is converted alike.
-/

namespace RowPatch

/-- An argument that passes its inspection passes it alike in another dialect and against another
row type, provided that it fits and is converted there as it is here. -/
theorem inspectArgument_eq_of_valid
    (d d' : Dialect)
    (host : TypeHost)
    (row row' : DataType)
    (index : Nat)
    (arg : DataType)
    (hsame : d'.coercion = d.coercion)
    (hmissing : d.coercion = false → row.missing arg = [] → row'.missing arg = [])
    (hexact : d.coercion = true → row'.accepts d' .exact arg = row.accepts d .exact arg)
    (hconverted : d.coercion = true →
      ∀ c, row.coerce? d arg = some c → row'.coerce? d' arg = some c)
    (hvalid : (inspectArgument d host row index arg).valid = true) :
    inspectArgument d' host row' index arg = inspectArgument d host row index arg := by
  have hi := inspectArgument_passed d host row index arg hvalid
  generalize inspectArgument d host row index arg = i at hi ⊢
  cases hi with
  | taken hrecord hcolumns htaken =>
      cases hcoercion : d.coercion with
      | true =>
          have hfits : row'.accepts d' .exact arg = true := by
            rw [hexact hcoercion]
            exact htaken.resolve_right (by simp [hcoercion])
          exact inspectArgument_of_taken d' host row' index arg hrecord
            (DataType.missing_eq_nil_of_accepts d' .exact arg row' hfits) (Or.inl hfits)
      | false =>
          exact inspectArgument_of_taken d' host row' index arg hrecord
            (hmissing hcoercion hcolumns) (Or.inr (hsame.trans hcoercion))
  | converted c hrecord _ hmisfit hcoercion hc =>
      exact inspectArgument_of_converted d' host row' index arg c hrecord
        ((hexact hcoercion).trans hmisfit) (hsame.trans hcoercion) (hconverted hcoercion c hc)

section

variable (d : Dialect) (host : TypeHost) (row : DataType)

/-- The conversions that are recorded for a list of arguments, the first of which stands at `k`. -/
def conversions (k : Nat) (args : List DataType) : List (Nat × DataType) :=
  (args.zipIdx k).flatMap fun arg =>
    ((inspectArgument d host row arg.2 arg.1).coercion?.map (fun c => (arg.2, c))).toList

theorem conversions_cons
    (k : Nat)
    (arg : DataType)
    (args : List DataType) :
    conversions d host row k (arg :: args) =
      ((inspectArgument d host row k arg).coercion?.map (fun c => (k, c))).toList ++
        conversions d host row (k + 1) args := by
  rw [conversions, List.zipIdx_cons, List.flatMap_cons]
  rfl

theorem Verdict.coercions_absorbAll
    (args : List DataType) :
    ∀ (v : Verdict) (k : Nat),
      (v.absorbAll d host row k args).coercions =
        v.coercions ++ conversions d host row k args := by
  induction args with
  | nil =>
      intro v k
      exact (List.append_nil _).symm
  | cons arg args ih =>
      intro v k
      rw [absorbAll_cons, ih, conversions_cons, absorb_eq, List.append_assoc]

/-- Arguments that are inspected alike have the same conversions. -/
theorem conversions_congr
    (d' : Dialect)
    (row' : DataType)
    (args : List DataType)
    (h : ∀ arg ∈ args, ∀ index,
      inspectArgument d' host row' index arg = inspectArgument d host row index arg) :
    ∀ k, conversions d' host row' k args = conversions d host row k args := by
  induction args with
  | nil => exact fun _ => rfl
  | cons arg args ih =>
      intro k
      rw [List.forall_mem_cons] at h
      rw [conversions_cons, conversions_cons, h.1 k, ih h.2 (k + 1)]

end

section TableCall

variable (d : Dialect) (host : TypeHost) (failed : Bool) (origins : SortedSet Origin)
  (fields : Fields none) (args : List DataType)
  (harity : d.acceptsArity (args.length + 1) = true)
  (htable : host.isTable (.table failed origins fields) = true)
include harity htable

/-- A call on a table is valid when each argument passes its inspection and what it adds unites with
what the arguments before it made of the row. -/
theorem valid_checkArguments_iff_forall :
    (checkArguments d host (.table failed origins fields :: args)).valid = true ↔
      ∀ j arg, args[j]? = some arg →
        (inspectArgument d host (.record origins fields) 0 arg).valid = true ∧
          ∀ u, contribution? d host (.record origins fields) arg = some u →
            (returnTypeAfter d host (.record origins fields) (initialRow failed origins fields)
              (args.take j)).conflicts d u = [] := by
  rw [valid_checkArguments_iff d host failed origins fields args harity htable]
  refine forall₃_congr fun j arg hj => ?_
  rw [foundAt_checkArguments d host failed origins fields args harity htable j arg hj,
    argumentFindings, List.append_eq_nil_iff, inspectArgument_valid_iff,
    inspectArgument_index d host _ (j + 1) 0 arg, List.map_eq_nil_iff]
  refine and_congr_right fun _ => ?_
  unfold conflictFindings
  cases contribution? d host (.record origins fields) arg with
  | none => simp
  | some u => simp [unionFindings_eq_nil_iff]

section

variable (hvalid : (checkArguments d host (.table failed origins fields :: args)).valid = true)
include hvalid

theorem inspectArgument_valid_of_valid
    (arg : DataType)
    (harg : arg ∈ args) :
    (inspectArgument d host (.record origins fields) 0 arg).valid = true := by
  obtain ⟨j, hj⟩ := List.mem_iff_getElem?.1 harg
  exact ((valid_checkArguments_iff_forall d host failed origins fields args harity htable).1 hvalid
    j arg hj).1

/-- The verdict on a valid call. -/
theorem checkArguments_of_valid :
    checkArguments d host (.table failed origins fields :: args) =
      { valid := true
        returnType := (returnTypeAfter d host (.record origins fields)
          (initialRow failed origins fields) args).addOrigins
            (host.origins (.table failed origins fields))
        coercions := conversions d host (.record origins fields) 1 args
        found := [] } := by
  have hfound := (checkArguments_valid_iff d host _).1 hvalid
  have hreturn := returnType_checkArguments d host failed origins fields args harity htable
  have hcoercions : (checkArguments d host (.table failed origins fields :: args)).coercions =
      conversions d host (.record origins fields) 1 args := by
    rw [checkArguments_table d host failed origins fields args harity htable]
    exact (Verdict.coercions_absorbAll d host _ args _ 1).trans (List.nil_append _)
  generalize checkArguments d host (.table failed origins fields :: args) = v at *
  cases v
  simp only at hvalid hfound hreturn hcoercions
  rw [hvalid, hfound, hreturn, hcoercions]

end

end TableCall

end RowPatch
