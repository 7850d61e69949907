import RowPatch.Value.Basic

/-!
# Equality of values

Numbers are compared numerically, records by their fields whatever the order, and tables by
identity: a snapshot never equals a table that can be written to.

**Results.**
* `Record.covers_iff`: a record covers another when each field of the other is found with an equal
  value.
-/

namespace RowPatch

mutual

/-- Whether two values are equal. -/
def Value.same (v : Value) : Value → Bool
  | .blank =>
      match v with
      | .blank => true
      | _ => false
  | .number y =>
      match v with
      | .number x => x.same y
      | _ => false
  | .string t =>
      match v with
      | .string s => decide (s = t)
      | _ => false
  | .boolean c =>
      match v with
      | .boolean b => decide (b = c)
      | _ => false
  | .fault g =>
      match v with
      | .fault f => decide (f = g)
      | _ => false
  | .record ys =>
      match v with
      | .record xs => decide (xs.size = ys.size) && Cells.foundIn xs ys
      | _ => false
  | .snapshot rs =>
      match v with
      | .snapshot qs => sameRows qs rs
      | _ => false
  | .table t =>
      match v with
      | .table s => decide (s.id = t.id)
      | _ => false

/-- Whether each field of the second list is a field of `xs` with an equal value. -/
def Cells.foundIn (xs : Cells []) : {used : List String} → Cells used → Bool
  | _, .nil => true
  | _, .cons n _ w rest =>
      (match xs.get? n with
        | none => false
        | some v => Value.same v w) &&
      Cells.foundIn xs rest

/-- Whether two lists of records are equal, record by record. -/
def sameRows (qs : List (Cells [])) : List (Cells []) → Bool
  | [] =>
      match qs with
      | [] => true
      | _ :: _ => false
  | ys :: rs =>
      match qs with
      | [] => false
      | xs :: qs => decide (xs.size = ys.size) && Cells.foundIn xs ys && sameRows qs rs

end

namespace Record

/-- Whether every field of `base` is a field of `r` with an equal value. -/
def covers (r base : Record) : Bool := Cells.foundIn r base

/-- Whether two records are equal. -/
def same (r s : Record) : Bool := decide (r.size = s.size) && r.covers s

end Record

namespace Cells

theorem foundIn_iff (xs : Record) :
    {used : List String} → (ys : Cells used) →
      (Cells.foundIn xs ys = true ↔
        ∀ n w, ys.get? n = some w → ∃ v, xs.get? n = some v ∧ v.same w = true)
  | _, .nil => by simp [foundIn]
  | _, .cons m hm w rest => by
      have ih := foundIn_iff xs rest
      rw [foundIn, Bool.and_eq_true, ih]
      constructor
      · rintro ⟨hw, hrest⟩ n u hn
        rw [get?_cons] at hn
        split at hn
        · rename_i e
          subst e
          cases Option.some.inj hn
          cases hv : xs.get? m with
          | none => simp [hv] at hw
          | some v => exact ⟨v, rfl, by simpa [hv] using hw⟩
        · exact hrest n u hn
      · intro h
        constructor
        · obtain ⟨v, hv, hs⟩ := h m w (by simp [get?_cons])
          simpa [hv] using hs
        · intro n u hn
          refine h n u ?_
          rw [get?_cons, if_neg ?_]
          · exact hn
          · rintro rfl
            rw [get?_eq_none_of_mem rest List.mem_cons_self] at hn
            exact absurd hn (by simp)

end Cells

namespace Record

/-- A record covers another when it has each of its fields, with an equal value. -/
theorem covers_iff
    (r base : Record) :
    r.covers base = true ↔
      ∀ n w, base.get? n = some w → ∃ v, r.get? n = some v ∧ v.same w = true :=
  Cells.foundIn_iff r base

end Record

end RowPatch
