import RowPatch.Proofs.Binding.Validity

/-!
# What arguments add under coercion

When coercion is allowed, only types that the row type accepts are united with the return type.  So
the return type stays a type that such a union cannot upset: it is the row type but for origins and
marks, or, for a failed table, a type that the row type accepts.

**Results.**
* `bare_returnTypeAfter`, `accepts_returnTypeAfter`: the two invariants, along a run.
* `returnTypeAfter_perm`: the order of the arguments does not matter to the first of them.
* `argumentFindings_of_coercion`: nothing is ever reported about a union.
* `valid_iff_of_coercion`: a call is valid when each argument passes its own inspection.
-/

namespace RowPatch

section

variable (d : Dialect) (host : TypeHost) (row : DataType) (hcoercion : d.coercion = true)
include hcoercion

theorem bare_uniteNext
    (soFar arg : DataType)
    (h : soFar.bare = row.bare) :
    (uniteNext d host row soFar arg).bare = row.bare := by
  unfold uniteNext
  split
  · exact h
  · rename_i u hu
    have hrow := accepts_of_contribution? d host row arg u hcoercion hu
    have hsoFar := DataType.accepts_of_bare_eq d .loose u row soFar h.symm hrow
    rw [DataType.bare_unite_of_accepts d u soFar hsoFar, h]

/-- But for origins and marks, the return type stays the row type. -/
theorem bare_returnTypeAfter
    (args : List DataType) :
    ∀ start : DataType, start.bare = row.bare →
      (returnTypeAfter d host row start args).bare = row.bare :=
  returnTypeAfter_invariant d host row (fun t => t.bare = row.bare)
    (bare_uniteNext d host row hcoercion) args

theorem uniteNext_right_comm
    (soFar a b : DataType)
    (h : soFar.bare = row.bare) :
    uniteNext d host row (uniteNext d host row soFar a) b =
      uniteNext d host row (uniteNext d host row soFar b) a := by
  have haccepts : ∀ arg u, contribution? d host row arg = some u →
      soFar.accepts d .loose u = true := by
    intro arg u hu
    exact DataType.accepts_of_bare_eq d .loose u row soFar h.symm
      (accepts_of_contribution? d host row arg u hcoercion hu)
  unfold uniteNext
  cases ha : contribution? d host row a with
  | none => rfl
  | some u =>
      cases hb : contribution? d host row b with
      | none => rfl
      | some v => exact DataType.unite_right_comm d soFar u v (haccepts a u ha) (haccepts b v hb)

/-- Arguments in another order give the same return type. -/
theorem returnTypeAfter_perm
    {args args' : List DataType}
    (hperm : args.Perm args') :
    ∀ start : DataType, start.bare = row.bare →
      returnTypeAfter d host row start args = returnTypeAfter d host row start args' := by
  induction hperm with
  | nil =>
      intro start _
      rfl
  | cons arg _ ih =>
      intro start h
      rw [returnTypeAfter_cons, returnTypeAfter_cons]
      exact ih _ (bare_uniteNext d host row hcoercion start arg h)
  | swap a b args =>
      intro start h
      rw [returnTypeAfter_cons, returnTypeAfter_cons, returnTypeAfter_cons, returnTypeAfter_cons,
        uniteNext_right_comm d host row hcoercion start a b h]
  | trans _ _ ih ih' =>
      intro start h
      exact (ih start h).trans (ih' start h)

theorem accepts_uniteNext
    (soFar arg : DataType)
    (h : row.accepts d .loose soFar = true) :
    row.accepts d .loose (uniteNext d host row soFar arg) = true := by
  unfold uniteNext
  split
  · exact h
  · rename_i u hu
    have hrow := accepts_of_contribution? d host row arg u hcoercion hu
    exact DataType.accepts_unite d row soFar u h hrow

/-- The return type stays accepted by the row type. -/
theorem accepts_returnTypeAfter
    (args : List DataType) :
    ∀ start : DataType, row.accepts d .loose start = true →
      row.accepts d .loose (returnTypeAfter d host row start args) = true :=
  returnTypeAfter_invariant d host row (fun t => row.accepts d .loose t = true)
    (accepts_uniteNext d host row hcoercion) args

end

section

variable (d : Dialect) (host : TypeHost) (failed : Bool) (origins : SortedSet Origin)
  (fields : Fields none) (hcoercion : d.coercion = true)
include hcoercion

theorem conflicts_returnTypeAfter
    (args : List DataType)
    (u : DataType)
    (hu : (DataType.record origins fields).accepts d .loose u = true) :
    (returnTypeAfter d host (.record origins fields) (initialRow failed origins fields)
      args).conflicts d u = [] := by
  cases failed with
  | false =>
      have hbare := bare_returnTypeAfter d host (.record origins fields) hcoercion args
        (initialRow false origins fields) rfl
      exact DataType.conflicts_eq_nil_of_accepts d u _
        (DataType.accepts_of_bare_eq d .loose u _ _ hbare.symm hu)
  | true =>
      have haccepts := accepts_returnTypeAfter d host (.record origins fields) hcoercion args
        (initialRow true origins fields)
        (DataType.accepts_record_nil d .loose origins ∅ fields)
      exact DataType.conflicts_eq_nil_of_common d _ _ u haccepts hu

/-- Under coercion all that is reported about an argument comes from its inspection. -/
theorem argumentFindings_of_coercion
    (args : List DataType)
    (index : Nat)
    (arg : DataType) :
    argumentFindings d host (.record origins fields)
        (returnTypeAfter d host (.record origins fields) (initialRow failed origins fields) args)
        index arg =
      (inspectArgument d host (.record origins fields) index arg).found := by
  have hnone : conflictFindings d host (.record origins fields)
      (returnTypeAfter d host (.record origins fields) (initialRow failed origins fields) args)
      index arg = [] := by
    unfold conflictFindings
    split
    · rfl
    · rename_i u hu
      rw [unionFindings_eq_nil_iff]
      exact conflicts_returnTypeAfter d host failed origins fields hcoercion args u
        (accepts_of_contribution? d host _ arg u hcoercion hu)
  rw [argumentFindings, hnone, List.append_nil]

/-- Under coercion a call is valid when each of its arguments passes its own inspection. -/
theorem valid_iff_of_coercion
    (args : List DataType)
    (harity : d.acceptsArity (args.length + 1) = true)
    (htable : host.isTable (.table failed origins fields) = true) :
    (checkArguments d host (.table failed origins fields :: args)).valid = true ↔
      ∀ arg ∈ args, (inspectArgument d host (.record origins fields) 0 arg).valid = true := by
  constructor
  · exact inspectArgument_valid_of_valid d host failed origins fields args harity htable
  · intro h
    rw [valid_checkArguments_iff_forall d host failed origins fields args harity htable]
    intro j arg hj
    refine ⟨h arg (List.mem_of_getElem? hj), fun u hu => ?_⟩
    exact conflicts_returnTypeAfter d host failed origins fields hcoercion _ u
      (accepts_of_contribution? d host _ arg u hcoercion hu)

end

end RowPatch
