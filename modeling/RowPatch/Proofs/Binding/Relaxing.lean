import RowPatch.Proofs.Binding.Independence
import RowPatch.Proofs.Binding.Switching
import RowPatch.Proofs.Binding.Validity
import RowPatch.Proofs.Schema.Dates
import RowPatch.Proofs.Schema.Marks

/-!
# Relaxing the other switches

When dates and timestamps become one type, what an argument adds may change: a date that was
converted to a timestamp now stays a date.  A valid call stays valid all the same, and no conversion
comes in.  When more arguments are allowed, a valid call is not touched.

**Results.**
* `returnTypeAfter_of_laxer`, `checkArguments_of_laxer`: a valid call whose arguments are inspected
  alike has the same verdict under a laxer dialect.
* `coercion?_of_laxer`: a conversion that a laxer dialect records was recorded before.
* `relaxed_switches_keep_valid`: what the two switches keep of a valid call.
-/

namespace RowPatch

section

variable (d d' : Dialect) (hdates : d.legacyDates = true → d'.legacyDates = true)
include hdates

/-- Along a run without conflict, arguments that are inspected alike give the same return types
under a laxer dialect. -/
theorem returnTypeAfter_of_laxer
    (host : TypeHost)
    (row start : DataType)
    (args : List DataType)
    (hadds : ∀ arg ∈ args, contribution? d' host row arg = contribution? d host row arg)
    (hfree : ∀ j arg, args[j]? = some arg → ∀ u, contribution? d host row arg = some u →
      (returnTypeAfter d host row start (args.take j)).conflicts d u = [])
    (j : Nat) :
    returnTypeAfter d' host row start (args.take j) =
      returnTypeAfter d host row start (args.take j) := by
  induction j with
  | zero => rfl
  | succ j ih =>
      cases hj : args[j]? with
      | none => simpa [List.take_add_one, hj] using ih
      | some arg =>
          rw [returnTypeAfter_take_add_one d' host row start arg args j hj,
            returnTypeAfter_take_add_one d host row start arg args j hj, ih, uniteNext, uniteNext,
            hadds arg (List.mem_of_getElem? hj)]
          cases hu : contribution? d host row arg with
          | none => rfl
          | some u => exact (DataType.unite_of_laxer hdates _ u (hfree j arg hj u hu)).2

/-- A valid call whose arguments are inspected alike has the same verdict under a laxer dialect. -/
theorem checkArguments_of_laxer
    (host : TypeHost)
    (failed : Bool)
    (origins : SortedSet Origin)
    (fields : Fields none)
    (args : List DataType)
    (harity : d.acceptsArity (args.length + 1) = true)
    (harity' : d'.acceptsArity (args.length + 1) = true)
    (htable : host.isTable (.table failed origins fields) = true)
    (hinspect : ∀ arg ∈ args, ∀ index, inspectArgument d' host (.record origins fields) index arg =
      inspectArgument d host (.record origins fields) index arg)
    (hvalid : (checkArguments d host (.table failed origins fields :: args)).valid = true) :
    checkArguments d' host (.table failed origins fields :: args) =
      checkArguments d host (.table failed origins fields :: args) := by
  have hall := (valid_checkArguments_iff_forall d host failed origins fields args harity htable).1
    hvalid
  have hadds : ∀ arg ∈ args, contribution? d' host (.record origins fields) arg =
      contribution? d host (.record origins fields) arg := by
    intro arg harg
    rw [contribution?, contribution?, hinspect arg harg 0]
  have hrun := returnTypeAfter_of_laxer d d' hdates host (.record origins fields)
    (initialRow failed origins fields) args hadds fun j arg hj => (hall j arg hj).2
  have hvalid' : (checkArguments d' host (.table failed origins fields :: args)).valid = true := by
    rw [valid_checkArguments_iff_forall d' host failed origins fields args harity' htable]
    intro j arg hj
    have harg := List.mem_of_getElem? hj
    rw [hinspect arg harg 0, hadds arg harg, hrun j]
    refine ⟨(hall j arg hj).1, fun u hu => ?_⟩
    exact (DataType.unite_of_laxer hdates _ u ((hall j arg hj).2 u hu)).1
  have hend := hrun args.length
  rw [List.take_length] at hend
  rw [checkArguments_of_valid d' host failed origins fields args harity' htable hvalid',
    checkArguments_of_valid d host failed origins fields args harity htable hvalid, hend,
    conversions_congr d host _ d' _ args hinspect]

/-- A conversion that is recorded under a laxer dialect was recorded before, if the argument passed
its inspection. -/
theorem coercion?_of_laxer
    (host : TypeHost)
    (row : DataType)
    (index : Nat)
    (arg : DataType)
    (hsame : d'.coercion = d.coercion)
    (hvalid : (inspectArgument d host row index arg).valid = true)
    (h : (inspectArgument d' host row index arg).coercion?.isSome = true) :
    (inspectArgument d host row index arg).coercion?.isSome = true := by
  have hi' := inspectArgument_inspected d' host row index arg
  generalize inspectArgument d' host row index arg = i' at hi' h
  cases hi' with
  | noRecord => simp at h
  | unknownFields => simp at h
  | taken => simp at h
  | notConvertible => simp at h
  | converted c' _ _ hexact' hcoercion' hc' =>
      have hi := inspectArgument_passed d host row index arg hvalid
      generalize inspectArgument d host row index arg = i at hi ⊢
      cases hi with
      | taken _ _ htaken =>
          rcases htaken with hexact | hoff
          · rw [DataType.accepts_of_laxer hdates .exact arg row hexact] at hexact'
            exact absurd hexact' (by simp)
          · rw [hsame, hoff] at hcoercion'
            exact absurd hcoercion' (by simp)
      | converted c _ _ _ _ hc =>
          by_cases hself : c = arg
          · -- what was converted to itself fits, and still does
            subst hself
            have haccepts := DataType.accepts_of_laxer hdates .loose c row
              (DataType.accepts_of_coerce? d c row c hc)
            rw [DataType.coerce?_of_accepts d' c row haccepts,
              DataType.unmarked_of_coerce? d c row c hc] at hc'
            simp [Option.some.inj hc'] at h
          · simp [hself]

end

/-- An argument that passes its inspection passes it alike in a dialect that differs neither in
coercion nor, under coercion, in its dates. -/
theorem inspectArgument_congr
    (d d' : Dialect)
    (host : TypeHost)
    (row : DataType)
    (index : Nat)
    (arg : DataType)
    (hsame : d'.coercion = d.coercion)
    (hdates : d.coercion = true → d.legacyDates = d'.legacyDates)
    (hvalid : (inspectArgument d host row 0 arg).valid = true) :
    inspectArgument d' host row index arg = inspectArgument d host row index arg := by
  apply inspectArgument_eq_of_valid d d' host row row index arg hsame
  · exact fun _ hmissing => hmissing
  · exact fun hcoercion => (DataType.accepts_congr (hdates hcoercion) .exact row arg).symm
  · exact fun hcoercion c => DataType.coerce?_congr (hdates hcoercion) arg row row c rfl
  · rw [inspectArgument_index d host row index 0 arg]
    exact hvalid

section TableCall

variable (d : Dialect) (failed : Bool) (origins : SortedSet Origin) (fields : Fields none)
  (args : List DataType)
  (harity : d.acceptsArity (args.length + 1) = true)
  (hvalid : (checkTableCall d failed origins fields args).valid = true)
include harity hvalid

/-- Without coercion a valid call has the same verdict when dates and timestamps become one type. -/
theorem legacyDates_without_coercion
    (hoff : d.coercion = false) :
    checkTableCall { d with legacyDates := true } failed origins fields args =
      checkTableCall d failed origins fields args := by
  apply checkArguments_of_laxer d { d with legacyDates := true } (fun _ => rfl) .structural failed
    origins fields args harity harity rfl _ hvalid
  intro arg harg index
  apply inspectArgument_congr d { d with legacyDates := true } .structural _ index arg rfl
  · intro hcoercion
    rw [hoff] at hcoercion
    exact absurd hcoercion (by simp)
  · exact inspectArgument_valid_of_valid d .structural failed origins fields args harity rfl hvalid
      arg harg

/-- Under coercion a valid call stays valid when dates and timestamps become one type. -/
theorem valid_legacyDates_of_coercion
    (hcoercion : d.coercion = true) :
    (checkTableCall { d with legacyDates := true } failed origins fields args).valid = true := by
  rw [valid_iff_of_coercion { d with legacyDates := true } .structural failed origins fields
    hcoercion args harity rfl]
  intro arg harg
  have hpass := inspectArgument_valid_of_valid d .structural failed origins fields args harity rfl
    hvalid arg harg
  rw [inspectArgument_valid_iff_of_coercion d .structural _ 0 arg hcoercion] at hpass
  rw [inspectArgument_valid_iff_of_coercion { d with legacyDates := true } .structural _ 0 arg
    hcoercion]
  exact ⟨hpass.1, DataType.coerce?_isSome_of_laxer (fun _ => rfl) _ arg hpass.2⟩

/-- No conversion comes in when dates and timestamps become one type. -/
theorem coercionAt?_of_legacyDates
    (i : Nat)
    (h : ((checkTableCall { d with legacyDates := true } failed origins fields args).coercionAt?
      i).isSome = true) :
    ((checkTableCall d failed origins fields args).coercionAt? i).isSome = true := by
  by_cases hout : i = 0 ∨ args.length < i
  · rw [(checkArguments_outside { d with legacyDates := true } .structural failed origins fields
      args harity rfl i hout).2] at h
    exact absurd h (by simp)
  · obtain ⟨j, rfl⟩ : ∃ j, i = j + 1 := ⟨i - 1, by omega⟩
    obtain ⟨arg, hj⟩ : ∃ arg, args[j]? = some arg := ⟨_, List.getElem?_eq_getElem (by omega)⟩
    rw [coercionAt?_checkArguments { d with legacyDates := true } .structural failed origins fields
      args harity rfl j arg hj] at h
    rw [coercionAt?_checkArguments d .structural failed origins fields args harity rfl j arg hj]
    apply coercion?_of_laxer d { d with legacyDates := true } (fun _ => rfl) .structural _ (j + 1)
      arg rfl _ h
    rw [inspectArgument_index d .structural _ (j + 1) 0 arg]
    exact inspectArgument_valid_of_valid d .structural failed origins fields args harity rfl hvalid
      arg (List.mem_of_getElem? hj)

/-- A valid call has the same verdict when more arguments are allowed. -/
theorem variadic_of_valid :
    checkTableCall { d with variadic := true } failed origins fields args =
      checkTableCall d failed origins fields args := by
  have harity' : ({ d with variadic := true } : Dialect).acceptsArity (args.length + 1) = true := by
    simp only [Dialect.acceptsArity, Bool.and_eq_true] at harity
    simp [Dialect.acceptsArity, Dialect.maxArity?, of_decide_eq_true harity.1]
  apply checkArguments_of_laxer d { d with variadic := true } (fun h => h) .structural failed
    origins fields args harity harity' rfl _ hvalid
  intro arg harg index
  have hpass := inspectArgument_valid_of_valid d .structural failed origins fields args harity rfl
    hvalid arg harg
  exact inspectArgument_congr d { d with variadic := true } .structural _ index arg rfl
    (fun _ => rfl) hpass

end TableCall

/-- A valid call stays valid when dates and timestamps become one type, and an argument that has to
be converted then had to be converted before.  When more arguments are allowed, the verdict on a
valid call stays the same. -/
theorem relaxed_switches_keep_valid
    (d : Dialect)
    (args : List DataType)
    (hvalid : (checkArguments d .structural args).valid = true) :
    let v := checkArguments d .structural args
    let w := checkArguments { d with legacyDates := true } .structural args
    (w.valid = true ∧
      ∀ i, (w.coercionAt? i).isSome = true → (v.coercionAt? i).isSome = true) ∧
    checkArguments { d with variadic := true } .structural args = v := by
  obtain ⟨failed, origins, fields, rest, rfl, harity, -⟩ :=
    exists_table_of_valid d .structural args hvalid
  intro v w
  refine ⟨⟨?_, coercionAt?_of_legacyDates d failed origins fields rest harity hvalid⟩,
    variadic_of_valid d failed origins fields rest harity hvalid⟩
  cases hcoercion : d.coercion with
  | true => exact valid_legacyDates_of_coercion d failed origins fields rest harity hvalid hcoercion
  | false =>
      have hsame :=
        legacyDates_without_coercion d failed origins fields rest harity hvalid hcoercion
      exact (congrArg Verdict.valid hsame).trans hvalid

/-- A date in a column of timestamps is converted until dates and timestamps become one type; a text
in a column of numbers is converted still. -/
theorem date_and_text_stay_valid :
    let d : Dialect := .standard
    let fields := Fields.ofList [("day", .scalar .dateTime), ("price", .scalar .number)]
    let base := DataType.record ∅ (.ofList [("day", .scalar .date)])
    let change := DataType.record ∅ (.ofList [("price", .scalar .text)])
    let args := [.table false ∅ fields, base, change]
    let v := checkArguments d .structural args
    let w := checkArguments { d with legacyDates := true } .structural args
    v.valid = true ∧
      (v.coercionAt? 1).isSome = true ∧ (w.coercionAt? 1).isSome = false ∧
      (w.coercionAt? 2).isSome = true ∧
      w.valid = true ∧ (v.coercionAt? 2).isSome = true ∧
      checkArguments { d with variadic := true } .structural args = v := by
  intro d fields base change args v w
  have hvalid : v.valid = true := by decide +kernel
  have htext : (w.coercionAt? 2).isSome = true := by decide +kernel
  obtain ⟨⟨hlegacy, hconverted⟩, hvariadic⟩ := relaxed_switches_keep_valid d args hvalid
  exact ⟨hvalid, by decide +kernel, by decide +kernel, htext, hlegacy, hconverted 2 htext,
    hvariadic⟩

end RowPatch
