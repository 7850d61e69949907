import Mathlib.Data.List.Perm.Subperm
import RowPatch.Proofs.Value.FieldList
import RowPatch.Value.Equality

/-!
# Equality of values is a partial equivalence

Two records are equal when look-up finds equal values, or nothing, in both of them under every name.
Two snapshots are equal when this holds at every place of their rows.  So equality descends to the
parts of a value, and there only what is not a number differs from itself.

**Results.**
* `Value.induction`: to prove a property of all values it is enough to pass from the fields of a
  record, and from the rows of a snapshot, to the whole.
* `Record.same_iff_rel`, `sameRows_iff_rel`: equality of records and of rows, look-up by look-up.
* `Value.same_symm`, `Value.same_trans`, `Value.same_self_iff`: the laws of equality.
* `Record.covers_congr`: equal base records are covered by the same records.
* `equality_is_partial_equivalence`: the laws of equality, with those of records.
-/

namespace RowPatch

/-- The value of a field is smaller than the fields. -/
theorem Cells.sizeOf_lt_of_get? {n : String} {v : Value} :
    {used : List String} → (cs : Cells used) → cs.get? n = some v → sizeOf v < sizeOf cs
  | _, .nil, h => by simp at h
  | _, .cons m hm w rest, h => by
      have ih := sizeOf_lt_of_get? (n := n) (v := v) rest
      rw [get?_cons] at h
      rw [Cells.cons.sizeOf_spec]
      split at h
      · cases Option.some.inj h
        omega
      · have hrest := ih h
        omega

section Induction

variable
  {P : Value → Prop}
  (blank : P .blank)
  (number : ∀ x, P (.number x))
  (string : ∀ s, P (.string s))
  (boolean : ∀ b, P (.boolean b))
  (fault : ∀ f, P (.fault f))
  (record : ∀ r : Record, (∀ n v, r.get? n = some v → P v) → P (.record r))
  (snapshot : ∀ rows : List Record, (∀ r ∈ rows, P (.record r)) → P (.snapshot rows))
  (table : ∀ ref, P (.table ref))

include blank number string boolean fault record snapshot table

/-- Passing from the fields of a record to the record, and from the rows of a snapshot to the
snapshot, proves a property of all values. -/
theorem Value.induction (v : Value) : P v :=
  match v with
  | .blank => blank
  | .number x => number x
  | .string s => string s
  | .boolean b => boolean b
  | .fault f => fault f
  | .record r => record r fun n v h =>
      have : sizeOf v < sizeOf r := Cells.sizeOf_lt_of_get? r h
      Value.induction v
  | .snapshot rows => snapshot rows fun r h =>
      have : sizeOf r < sizeOf rows := List.sizeOf_lt_of_mem h
      Value.induction (.record r)
  | .table ref => table ref

end Induction

/-! ### Look-ups that find related things, or nothing -/

section Rel

variable {α : Type} {R : α → α → Prop} {a b c : Option α}

theorem rel_symm_of
    (hsymm : ∀ v, a = some v → ∀ w, R v w → R w v)
    (hab : Option.Rel R a b) :
    Option.Rel R b a := by
  cases hab with
  | some hvw => exact .some (hsymm _ rfl _ hvw)
  | none => exact .none

theorem rel_trans_of
    (htrans : ∀ v, a = some v → ∀ w u, R v w → R w u → R v u)
    (hab : Option.Rel R a b)
    (hbc : Option.Rel R b c) :
    Option.Rel R a c := by
  cases hab with
  | some hvw =>
      cases hbc with
      | some hwu => exact .some (htrans _ rfl _ _ hvw hwu)
  | none => exact hbc

theorem rel_self_iff : Option.Rel R a a ↔ ∀ v, a = some v → R v v := by
  cases a <;> simp

/-- Related look-ups find something on both sides or on neither. -/
theorem rel_iff :
    Option.Rel R a b ↔
      ((∃ v, a = some v) ↔ ∃ w, b = some w) ∧ ∀ v w, a = some v → b = some w → R v w := by
  cases a <;> cases b <;> simp

end Rel

namespace Record

/-- A record has the names of the records that it covers. -/
theorem names_subset_of_covers
    {r s : Record}
    (h : r.covers s = true) :
    s.names ⊆ r.names := by
  intro n hn
  obtain ⟨w, hw⟩ := (Cells.mem_names_iff s).1 hn
  obtain ⟨v, hv, -⟩ := (covers_iff r s).1 h n w hw
  exact (Cells.mem_names_iff r).2 ⟨v, hv⟩

theorem value_same_of_covers
    {r s : Record}
    (h : r.covers s = true)
    {n : String}
    {v w : Value}
    (hv : r.get? n = some v)
    (hw : s.get? n = some w) :
    v.same w = true := by
  obtain ⟨v', hv', hsame⟩ := (covers_iff r s).1 h n w hw
  cases Option.some.inj (hv.symm.trans hv')
  exact hsame

/-- Records are equal when they have the same names, and equal values under each of them. -/
theorem same_iff_names (r s : Record) :
    r.same s = true ↔
      (∀ n, n ∈ r.names ↔ n ∈ s.names) ∧
        ∀ n v w, r.get? n = some v → s.get? n = some w → v.same w = true := by
  have hsize : (r.size = s.size) ↔ r.names.length = s.names.length := by
    simp [Cells.size, Cells.names]
  rw [same, Bool.and_eq_true, decide_eq_true_iff, hsize]
  constructor
  · rintro ⟨hlength, hcovers⟩
    -- the names of `s` are among those of `r` and as many, so they are all of them
    have hperm : s.names.Perm r.names :=
      (List.subperm_of_subset s.nodup_names (names_subset_of_covers hcovers)).perm_of_length_le
        (Nat.le_of_eq hlength)
    exact ⟨fun n => hperm.mem_iff.symm, fun n v w => value_same_of_covers hcovers⟩
  · rintro ⟨hnames, hvalues⟩
    refine ⟨((List.perm_ext_iff_of_nodup r.nodup_names s.nodup_names).2 hnames).length_eq, ?_⟩
    rw [covers_iff]
    intro n w hw
    obtain ⟨v, hv⟩ :=
      (Cells.mem_names_iff r).1 ((hnames n).2 ((Cells.mem_names_iff s).2 ⟨w, hw⟩))
    exact ⟨v, hv, hvalues n v w hv hw⟩

/-- Records are equal when look-up finds equal values, or nothing, in both under every name. -/
theorem same_iff_rel (r s : Record) :
    r.same s = true ↔ ∀ n, Option.Rel (fun v w => v.same w = true) (r.get? n) (s.get? n) := by
  simp only [same_iff_names, rel_iff, Cells.mem_names_iff, forall_and]

end Record

/-- Lists of records are equal when equal records, or none, stand at every place of both. -/
theorem sameRows_iff_rel (rs : List Record) :
    ∀ qs : List Record,
      sameRows qs rs = true ↔ ∀ i : Nat, Option.Rel (fun q r => q.same r = true) qs[i]? rs[i]? := by
  induction rs with
  | nil =>
      intro qs
      cases qs with
      | nil => simp [sameRows]
      | cons q qs => exact iff_of_false (by simp [sameRows]) fun h => nomatch h 0
  | cons r rs ih =>
      intro qs
      cases qs with
      | nil => exact iff_of_false (by simp [sameRows]) fun h => nomatch h 0
      | cons q qs =>
          have hcons : sameRows (q :: qs) (r :: rs) = (q.same r && sameRows qs rs) := rfl
          rw [hcons, Bool.and_eq_true, ih]
          constructor
          · rintro ⟨hqr, hrest⟩ i
            cases i with
            | zero => exact .some hqr
            | succ i => exact hrest i
          · intro h
            exact ⟨by simpa using h 0, fun i => h (i + 1)⟩

namespace Value

/-! ### What equals a value of each form -/

theorem same_blank_iff (w : Value) : blank.same w = true ↔ w = blank := by
  cases w <;> simp [same]

theorem same_number_iff (x : Binary64) (w : Value) :
    (number x).same w = true ↔ ∃ y, w = number y ∧ x.same y = true := by
  cases w <;> simp [same]

theorem same_string_iff (s : String) (w : Value) : (string s).same w = true ↔ w = string s := by
  cases w <;> simp [same, eq_comm]

theorem same_boolean_iff (b : Bool) (w : Value) : (boolean b).same w = true ↔ w = boolean b := by
  cases w <;> simp [same, eq_comm]

theorem same_fault_iff (f : Fault) (w : Value) : (fault f).same w = true ↔ w = fault f := by
  cases w <;> simp [same, eq_comm]

theorem same_record_iff (r : Record) (w : Value) :
    (record r).same w = true ↔ ∃ s, w = record s ∧ r.same s = true := by
  cases w <;> simp [same, Record.same, Record.covers]

theorem same_snapshot_iff (qs : List Record) (w : Value) :
    (snapshot qs).same w = true ↔ ∃ rs, w = snapshot rs ∧ sameRows qs rs = true := by
  cases w <;> simp [same]

theorem same_table_iff (t : TableRef) (w : Value) :
    (table t).same w = true ↔ ∃ u, w = table u ∧ t.id = u.id := by
  cases w <;> simp [same]

/-! ### The laws of equality -/

/-- Equality is symmetric. -/
theorem same_symm (v : Value) : ∀ w : Value, v.same w = true → w.same v = true := by
  induction v using Value.induction with
  | blank =>
      intro w h
      obtain rfl := (same_blank_iff w).1 h
      exact h
  | number x =>
      intro w h
      obtain ⟨y, rfl, hxy⟩ := (same_number_iff x w).1 h
      exact (same_number_iff y _).2 ⟨x, rfl, x.same_comm y ▸ hxy⟩
  | string s =>
      intro w h
      obtain rfl := (same_string_iff s w).1 h
      exact h
  | boolean b =>
      intro w h
      obtain rfl := (same_boolean_iff b w).1 h
      exact h
  | fault f =>
      intro w h
      obtain rfl := (same_fault_iff f w).1 h
      exact h
  | record r ih =>
      intro w h
      obtain ⟨s, rfl, hrs⟩ := (same_record_iff r w).1 h
      rw [Record.same_iff_rel] at hrs
      refine (same_record_iff s _).2 ⟨r, rfl, ?_⟩
      rw [Record.same_iff_rel]
      exact fun n => rel_symm_of (ih n) (hrs n)
  | snapshot qs ih =>
      intro w h
      obtain ⟨rs, rfl, hrows⟩ := (same_snapshot_iff qs w).1 h
      rw [sameRows_iff_rel] at hrows
      refine (same_snapshot_iff rs _).2 ⟨qs, rfl, ?_⟩
      rw [sameRows_iff_rel]
      exact fun i => rel_symm_of (fun q hq r => ih q (List.mem_of_getElem? hq) (.record r)) (hrows i)
  | table t =>
      intro w h
      obtain ⟨u, rfl, htu⟩ := (same_table_iff t w).1 h
      exact (same_table_iff u _).2 ⟨t, rfl, htu.symm⟩

/-- Equality is transitive. -/
theorem same_trans (v : Value) :
    ∀ w u : Value, v.same w = true → w.same u = true → v.same u = true := by
  induction v using Value.induction with
  | blank =>
      intro w u hvw hwu
      exact (same_blank_iff w).1 hvw ▸ hwu
  | number x =>
      intro w u hvw hwu
      obtain ⟨y, rfl, hxy⟩ := (same_number_iff x w).1 hvw
      obtain ⟨z, rfl, hyz⟩ := (same_number_iff y u).1 hwu
      exact (same_number_iff x _).2 ⟨z, rfl, Binary64.same_trans hxy hyz⟩
  | string s =>
      intro w u hvw hwu
      exact (same_string_iff s w).1 hvw ▸ hwu
  | boolean b =>
      intro w u hvw hwu
      exact (same_boolean_iff b w).1 hvw ▸ hwu
  | fault f =>
      intro w u hvw hwu
      exact (same_fault_iff f w).1 hvw ▸ hwu
  | record r ih =>
      intro w u hvw hwu
      obtain ⟨s, rfl, hrs⟩ := (same_record_iff r w).1 hvw
      obtain ⟨t, rfl, hst⟩ := (same_record_iff s u).1 hwu
      rw [Record.same_iff_rel] at hrs hst
      refine (same_record_iff r _).2 ⟨t, rfl, ?_⟩
      rw [Record.same_iff_rel]
      exact fun n => rel_trans_of (ih n) (hrs n) (hst n)
  | snapshot ps ih =>
      intro w u hvw hwu
      obtain ⟨qs, rfl, hpq⟩ := (same_snapshot_iff ps w).1 hvw
      obtain ⟨rs, rfl, hqr⟩ := (same_snapshot_iff qs u).1 hwu
      rw [sameRows_iff_rel] at hpq hqr
      refine (same_snapshot_iff ps _).2 ⟨rs, rfl, ?_⟩
      rw [sameRows_iff_rel]
      exact fun i => rel_trans_of
        (fun p hp q r => ih p (List.mem_of_getElem? hp) (.record q) (.record r)) (hpq i) (hqr i)
  | table t =>
      intro w u hvw hwu
      obtain ⟨t', rfl, h⟩ := (same_table_iff t w).1 hvw
      obtain ⟨t'', rfl, h'⟩ := (same_table_iff t' u).1 hwu
      exact (same_table_iff t _).2 ⟨t'', rfl, h.trans h'⟩

/-- Somewhere in the value, in a field of a record or in a row of a snapshot at any depth, stands
what is not a number.  A table that can be written to holds no value. -/
inductive HoldsNaN : Value → Prop
  | number
      (x : Binary64)
      (hx : x.isNaN = true) :
      HoldsNaN (.number x)
  | field
      (r : Record)
      (n : String)
      (v : Value)
      (hv : r.get? n = some v)
      (h : HoldsNaN v) :
      HoldsNaN (.record r)
  | row
      (rows : List Record)
      (r : Record)
      (hr : r ∈ rows)
      (h : HoldsNaN (.record r)) :
      HoldsNaN (.snapshot rows)

theorem holdsNaN_number_iff (x : Binary64) : HoldsNaN (.number x) ↔ x.isNaN = true :=
  ⟨fun | .number _ hx => hx, .number x⟩

theorem holdsNaN_record_iff (r : Record) :
    HoldsNaN (.record r) ↔ ∃ n v, r.get? n = some v ∧ HoldsNaN v :=
  ⟨fun | .field _ n v hv h => ⟨n, v, hv, h⟩, fun ⟨n, v, hv, h⟩ => .field r n v hv h⟩

theorem holdsNaN_snapshot_iff (rows : List Record) :
    HoldsNaN (.snapshot rows) ↔ ∃ r ∈ rows, HoldsNaN (.record r) :=
  ⟨fun | .row _ r hr h => ⟨r, hr, h⟩, fun ⟨r, hr, h⟩ => .row rows r hr h⟩

/-- A value equals itself unless what is not a number stands in it. -/
theorem same_self_iff (v : Value) : v.same v = true ↔ ¬ HoldsNaN v := by
  induction v using Value.induction with
  | blank => exact iff_of_true rfl nofun
  | number x => simp [same_number_iff, holdsNaN_number_iff, Binary64.same_self_iff]
  | string s => exact iff_of_true ((same_string_iff s _).2 rfl) nofun
  | boolean b => exact iff_of_true ((same_boolean_iff b _).2 rfl) nofun
  | fault f => exact iff_of_true ((same_fault_iff f _).2 rfl) nofun
  | record r ih =>
      have hself : (record r).same (record r) = true ↔
          ∀ n v, r.get? n = some v → v.same v = true := by
        simp [same_record_iff, Record.same_iff_rel, rel_self_iff]
      rw [hself, holdsNaN_record_iff]
      constructor
      · rintro h ⟨n, v, hv, hnan⟩
        exact (ih n v hv).1 (h n v hv) hnan
      · intro h n v hv
        exact (ih n v hv).2 fun hnan => h ⟨n, v, hv, hnan⟩
  | snapshot rows ih =>
      have hself : (snapshot rows).same (snapshot rows) = true ↔
          ∀ r ∈ rows, (record r).same (record r) = true := by
        simp only [same_snapshot_iff, same_record_iff, snapshot.injEq, record.injEq,
          exists_eq_left', sameRows_iff_rel, rel_self_iff, List.mem_iff_getElem?]
        exact ⟨fun h r ⟨i, hi⟩ => h i r hi, fun h i r hi => h r ⟨i, hi⟩⟩
      rw [hself, holdsNaN_snapshot_iff]
      constructor
      · rintro h ⟨r, hr, hnan⟩
        exact (ih r hr).1 (h r hr) hnan
      · intro h r hr
        exact (ih r hr).2 fun hnan => h ⟨r, hr, hnan⟩
  | table t => exact iff_of_true ((same_table_iff t _).2 ⟨t, rfl, rfl⟩) nofun

end Value

namespace Record

theorem same_symm
    {r s : Record}
    (h : r.same s = true) :
    s.same r = true :=
  Value.same_symm (.record r) (.record s) h

/-- Records are equal when each of them covers the other. -/
theorem same_iff_covers (r s : Record) :
    r.same s = true ↔ r.covers s = true ∧ s.covers r = true := by
  constructor
  · intro h
    have hsymm := same_symm h
    simp only [same, Bool.and_eq_true] at h hsymm
    exact ⟨h.2, hsymm.2⟩
  · rintro ⟨hrs, hsr⟩
    rw [same_iff_names]
    exact ⟨fun n => ⟨fun h => names_subset_of_covers hsr h, fun h => names_subset_of_covers hrs h⟩,
      fun n v w => value_same_of_covers hrs⟩

theorem covers_of_covers_same
    {r base base' : Record}
    (hcovers : r.covers base = true)
    (hsame : base.same base' = true) :
    r.covers base' = true := by
  rw [covers_iff] at hcovers ⊢
  intro n w' hw'
  obtain ⟨w, hw, hww'⟩ := (covers_iff base base').1 ((same_iff_covers base base').1 hsame).1 n w' hw'
  obtain ⟨v, hv, hvw⟩ := hcovers n w hw
  exact ⟨v, hv, Value.same_trans v w w' hvw hww'⟩

/-- Equal base records are covered by the same records. -/
theorem covers_congr
    {base base' : Record}
    (h : base.same base' = true)
    (r : Record) :
    r.covers base = r.covers base' :=
  Bool.eq_iff_iff.2
    ⟨fun hcovers => covers_of_covers_same hcovers h,
      fun hcovers => covers_of_covers_same hcovers (same_symm h)⟩

/-- The order of the fields plays no part in look-up. -/
theorem get?_eq_of_perm
    {r r' : Record}
    (h : r.toList.Perm r'.toList)
    (n : String) :
    r.get? n = r'.get? n := by
  ext v
  rw [← Cells.mem_toList_iff, ← Cells.mem_toList_iff, h.mem_iff]

end Record

/-- Equality is symmetric and transitive, and a value equals itself unless what is not a number stands
in it at some depth.  Records are equal exactly when each covers the other, and exactly when they have
the same names with equal values under each, in whatever order the fields were inserted. -/
theorem equality_is_partial_equivalence :
    (∀ v w : Value, v.same w = true → w.same v = true) ∧
      (∀ v w u : Value, v.same w = true → w.same u = true → v.same u = true) ∧
      (∀ v : Value, v.same v = true ↔ ¬ v.HoldsNaN) ∧
      (∀ r s : Record, r.same s = true ↔ r.covers s = true ∧ s.covers r = true) ∧
      (∀ r s : Record, r.same s = true ↔
        (∀ n, n ∈ r.names ↔ n ∈ s.names) ∧
          ∀ n v w, r.get? n = some v → s.get? n = some w → v.same w = true) ∧
      ∀ r r' s : Record, r.toList.Perm r'.toList → r.same s = r'.same s := by
  refine ⟨Value.same_symm, Value.same_trans, Value.same_self_iff, Record.same_iff_covers,
    Record.same_iff_names, ?_⟩
  intro r r' s hperm
  rw [Bool.eq_iff_iff, Record.same_iff_rel, Record.same_iff_rel]
  simp only [Record.get?_eq_of_perm hperm]

/-- The two zeros are equal also inside of rows whose fields stand in different orders, and a row
with what is not a number makes its snapshot differ from itself. -/
theorem zeros_equal_in_reordered_rows :
    let table (l : List (String × Value)) : Value := .snapshot [Record.ofList l]
    let stock (bits : UInt64) : String × Value := ("stock", .number ⟨bits⟩)
    let item : String × Value := ("item", .string "pen")
    let v := table [stock 0, item]
    let w := table [item, stock 0x8000000000000000]
    let u := table [item, stock 0]
    let nan := table [item, stock 0x7FF8000000000000]
    v.same w = true ∧ w.same v = true ∧ w.same u = true ∧ v.same u = true ∧
      nan.HoldsNaN ∧ nan.same nan = false := by
  intro table stock item v w u nan
  obtain ⟨hsymm, htrans, hself, -⟩ := equality_is_partial_equivalence
  have hvw : v.same w = true := by decide +kernel
  have hwu : w.same u = true := by decide +kernel
  have hnan : nan.HoldsNaN :=
    .row _ _ List.mem_cons_self (.field _ "stock" (stock 0x7FF8000000000000).2 rfl
      (.number _ (by decide)))
  refine ⟨hvw, hsymm v w hvw, hwu, htrans v w u hvw hwu, hnan, ?_⟩
  exact Bool.eq_false_iff.2 fun h => (hself nan).1 h hnan

end RowPatch
