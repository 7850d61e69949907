import Mathlib.Data.List.AList
import RowPatch.Proofs.Value.MergeOrder

/-!
# Records with an index

A record can be kept as the list of its fields together with a map that tells the place of each name, so
that look-up and overwriting need no search.  The map and the list are changed apart from each other: a
new name is entered in both, and overwriting goes to the place in the map without another look at the
name there.  So they have to be in step, or a write may fall outside the list.  They are, whichever way
a record comes about, and the record does what one without an index does.

**Results.**
* `Cells.position?_eq_some_iff`: the place of a name in a record.
* `IndexedRecord.Represents.get?`, `IndexedRecord.Represents.exists_insert?`: look-up and one insertion,
  with and without an index.
* `IndexedRecord.Represents.exists_insertAll?`, `IndexedRecord.Represents.exists_mergeInto?`: many
  insertions, and merging.
* `IndexedRecord.Built.represents`: every record that the operations lead to.
* `index_stays_in_step`: what holds of such a record, in terms of the fields that were inserted.
-/

namespace RowPatch

/-! ### Places of names -/

namespace Cells

/-- The place of a name is where it stands among the names. -/
theorem position?_eq_some_iff (n : String) :
    {used : List String} → (cs : Cells used) → (i : Nat) →
      (cs.position? n = some i ↔ cs.names[i]? = some n)
  | _, .nil, i => by simp [position?, names, toList]
  | _, .cons m hm v rest, i => by
      have ih := position?_eq_some_iff n rest
      have hnames : (cons m hm v rest).names = m :: rest.names := rfl
      rw [position?, hnames]
      by_cases e : m = n
      · subst e
        have hfresh : m ∉ rest.names := (List.nodup_cons.1 (cons m hm v rest).nodup_names).1
        rw [if_pos rfl]
        cases i with
        | zero => simp
        | succ i =>
            have hno : rest.names[i]? ≠ some m := fun h => hfresh (List.mem_of_getElem? h)
            simpa using hno
      · rw [if_neg e]
        cases i with
        | zero => simp [e]
        | succ i => simp [ih]

theorem position?_eq_none_iff
    (n : String)
    {used : List String}
    (cs : Cells used) :
    cs.position? n = none ↔ n ∉ cs.names := by
  rw [Option.eq_none_iff_forall_ne_some, List.mem_iff_getElem?, not_exists]
  exact forall_congr' fun i => not_congr (position?_eq_some_iff n cs i)

/-- At the place of a name stands the value that look-up finds. -/
theorem getElem?_toList_of_position?
    {n : String}
    {i : Nat}
    {used : List String}
    (cs : Cells used)
    (h : cs.position? n = some i) :
    ∃ v, cs.get? n = some v ∧ cs.toList[i]? = some (n, v) := by
  rw [position?_eq_some_iff, names, List.getElem?_map, Option.map_eq_some_iff] at h
  obtain ⟨⟨m, v⟩, hi, rfl⟩ := h
  exact ⟨v, (mem_toList_iff cs).1 (List.mem_of_getElem? hi), hi⟩

/-- Overwriting changes the field at the place of its name. -/
theorem toList_put_of_position? (n : String) (v : Value) :
    {used : List String} → (h : n ∉ used) → (cs : Cells used) → (i : Nat) →
      cs.position? n = some i → (cs.put n v h).2.toList = cs.toList.set i (n, v)
  | _, _, .nil, i, hi => by simp [position?] at hi
  | _, h, .cons m hm w rest, i, hi => by
      have ih := fun h' => toList_put_of_position? n v h' rest
      unfold put
      rw [position?] at hi
      by_cases e : m = n
      · subst e
        rw [if_pos rfl] at hi
        cases hi
        simp [toList]
      · rw [if_neg e, Option.map_eq_some_iff] at hi
        obtain ⟨k, hk, rfl⟩ := hi
        simp [toList, Ne.symm e, ih _ k hk]

end Cells

namespace Record

/-- A new name is placed at the end, and the others keep their places. -/
theorem position?_set_of_not_mem
    (r : Record)
    (n m : String)
    (v : Value)
    (hn : n ∉ r.names) :
    (r.set n v).position? m = if n = m then some r.size else r.position? m := by
  have hnames : (r.set n v).names = r.names ++ [n] := by
    rw [names_set, addName_of_not_mem hn]
  by_cases e : n = m
  · subst e
    have hsize : r.size = r.names.length := (List.length_map _).symm
    rw [if_pos rfl, Cells.position?_eq_some_iff, hnames, hsize]
    simp
  · rw [if_neg e]
    apply Option.ext
    intro i
    rw [Cells.position?_eq_some_iff, Cells.position?_eq_some_iff, hnames]
    rcases Nat.lt_or_ge i r.names.length with hi | hi
    · rw [List.getElem?_append_left hi]
    · have hno : [n][i - r.names.length]? ≠ some m := by
        intro h
        exact e (List.mem_singleton.1 (List.mem_of_getElem? h)).symm
      rw [List.getElem?_append_right hi, List.getElem?_eq_none hi]
      simp [hno]

/-- Overwriting leaves all names in their places. -/
theorem position?_set_of_mem
    (r : Record)
    (n m : String)
    (v : Value)
    (hn : n ∈ r.names) :
    (r.set n v).position? m = r.position? m := by
  apply Option.ext
  intro i
  rw [Cells.position?_eq_some_iff, Cells.position?_eq_some_iff, names_set, addName_of_mem hn]

end Record

/-! ### The index -/

/-- A record as the list of its fields and a map from each name to its place in the list. -/
structure IndexedRecord where
  fields : List (String × Value)
  index : Std.HashMap String Nat

namespace IndexedRecord

/-- The record without fields. -/
def empty : IndexedRecord := ⟨[], ∅⟩

/-- The field names in order. -/
def names (x : IndexedRecord) : List String := x.fields.map Prod.fst

/-- The value at the place that the index tells. -/
def get? (x : IndexedRecord) (n : String) : Option Value := do
  let i ← x.index[n]?
  let f ← x.fields[i]?
  some f.2

/-- Gives `n` the value `v`, at the place that the index tells or else at the end, and tells the value
that stood there.  Writing outside the fields fails. -/
def insert? (x : IndexedRecord) (n : String) (v : Value) : Option (Option Value × IndexedRecord) :=
  match x.index[n]? with
  | none => some (none, ⟨x.fields ++ [(n, v)], x.index.insert n x.fields.length⟩)
  | some i =>
      match x.fields[i]? with
      | none => none
      | some f => some (some f.2, { x with fields := x.fields.set i (f.1, v) })

/-- Inserts the fields of a list in order. -/
def insertAll? (x : IndexedRecord) (l : List (String × Value)) : Option IndexedRecord :=
  l.foldlM (fun x f => (x.insert? f.1 f.2).map Prod.snd) x

/-- The record made by inserting fields in order. -/
def ofList? (l : List (String × Value)) : Option IndexedRecord := empty.insertAll? l

/-- Merges records into `merged`; the first of them is the argument `index`.  Of the records to merge only
the fields are read, so they stand here without an index. -/
def mergeInto? (merged : IndexedRecord) (index : Nat) :
    List Value → Option (Except MergeError IndexedRecord)
  | [] => some (.ok merged)
  | .record r :: rest => do (← merged.insertAll? r.toList).mergeInto? (index + 1) rest
  | v :: _ => some (.error ⟨index, v.kind⟩)

/-- Merges records, the first of which is the argument `first`. -/
def merge? (first : Nat) (values : List Value) : Option (Except MergeError IndexedRecord) :=
  empty.mergeInto? first values

/-- The record has the fields of `r`, and its index tells their places. -/
structure Represents (x : IndexedRecord) (r : Record) : Prop where
  fields : x.fields = r.toList
  index : ∀ n, x.index[n]? = r.position? n

namespace Represents

variable {x : IndexedRecord} {r : Record} (h : x.Represents r)
include h

/-- Look-up through the index finds what look-up in the record finds. -/
theorem get?
    (n : String) :
    x.get? n = r.get? n := by
  unfold IndexedRecord.get?
  rw [h.index, h.fields]
  cases hn : r.position? n with
  | none =>
      have hno : r.get? n = none :=
        (Cells.get?_eq_none_iff r).2 ((Cells.position?_eq_none_iff n r).1 hn)
      simp [hno]
  | some i =>
      obtain ⟨v, hv, hi⟩ := Cells.getElem?_toList_of_position? r hn
      simp [hv, hi]

/-- An insertion never writes outside the fields, tells the value that look-up found, and keeps the
index in step. -/
theorem exists_insert?
    (n : String)
    (v : Value) :
    ∃ x' : IndexedRecord, x.insert? n v = some (r.get? n, x') ∧ x'.Represents (r.set n v) := by
  unfold IndexedRecord.insert?
  rw [h.index, h.fields]
  cases hn : r.position? n with
  | none =>
      have hfresh : n ∉ r.names := (Cells.position?_eq_none_iff n r).1 hn
      rw [(Cells.get?_eq_none_iff r).2 hfresh]
      refine ⟨_, rfl, ?_, ?_⟩
      · exact (Cells.toList_put_of_not_mem n v List.not_mem_nil r hfresh).symm
      · intro m
        rw [Std.HashMap.getElem?_insert, h.index, Record.position?_set_of_not_mem r n m v hfresh]
        simp [Cells.size]
  | some i =>
      obtain ⟨w, hw, hi⟩ := Cells.getElem?_toList_of_position? r hn
      have hmem : n ∈ r.names := (Cells.mem_names_iff r).2 ⟨w, hw⟩
      simp only [hi, hw]
      refine ⟨_, rfl, ?_, ?_⟩
      · exact (Cells.toList_put_of_position? n v List.not_mem_nil r i hn).symm
      · intro m
        rw [Record.position?_set_of_mem r n m v hmem]
        exact h.index m

omit h in
/-- Many insertions never fail and give what they give without an index. -/
theorem exists_insertAll?
    (l : List (String × Value)) :
    ∀ {x : IndexedRecord} {r : Record}, x.Represents r →
      ∃ x', x.insertAll? l = some x' ∧ x'.Represents (r.setAll l) := by
  induction l with
  | nil => exact fun {x} _ h => ⟨x, rfl, h⟩
  | cons f l ih =>
      intro x r h
      obtain ⟨x', hinsert, h'⟩ := h.exists_insert? f.1 f.2
      obtain ⟨x'', hrest, h''⟩ := ih h'
      refine ⟨x'', ?_, h''⟩
      simp only [insertAll?, List.foldlM_cons, hinsert, Option.map_some]
      exact hrest

end Represents

theorem empty_represents : empty.Represents .empty := by
  constructor
  case fields => rfl
  case index => simp [empty, Record.empty, Cells.position?]

/-- A merge with an index ends like one without. -/
inductive EndsLike : Except MergeError IndexedRecord → Except MergeError Record → Prop
  | ok {x : IndexedRecord} {r : Record} (h : x.Represents r) : EndsLike (.ok x) (.ok r)
  | error (e : MergeError) : EndsLike (.error e) (.error e)

theorem Represents.exists_mergeInto?
    (values : List Value) :
    ∀ {x : IndexedRecord} {r : Record} (index : Nat), x.Represents r →
      ∃ result, x.mergeInto? index values = some result ∧
        EndsLike result (mergeInto r index values) := by
  induction values with
  | nil => exact fun {x} _ _ h => ⟨.ok x, rfl, .ok h⟩
  | cons v values ih =>
      intro x r index h
      cases v with
      | record s =>
          obtain ⟨x', hinsert, h'⟩ := Represents.exists_insertAll? s.toList h
          simpa [mergeInto?, hinsert, mergeInto] using ih (index + 1) h'
      | _ => exact ⟨_, rfl, .error _⟩

/-- The record was made by these operations, which inserted the fields of the list, in order. -/
inductive Built : IndexedRecord → List (String × Value) → Prop
  | empty : Built .empty []
  | insert {x x' : IndexedRecord} {inserted : List (String × Value)} {n : String} {v : Value}
      {old : Option Value}
      (hx : Built x inserted)
      (hinsert : x.insert? n v = some (old, x')) :
      Built x' (inserted ++ [(n, v)])
  | ofList {x : IndexedRecord} {l : List (String × Value)}
      (hlist : ofList? l = some x) :
      Built x l
  | merged {x : IndexedRecord} {first : Nat} {rs : List Record}
      (hmerge : merge? first (rs.map .record) = some (.ok x)) :
      Built x (rs.flatMap Cells.toList)

/-- A record with an index is the one that inserting the same fields makes without one. -/
theorem Built.represents
    {x : IndexedRecord}
    {inserted : List (String × Value)}
    (hbuilt : Built x inserted) :
    x.Represents (.ofList inserted) := by
  induction hbuilt with
  | empty => exact empty_represents
  | @insert x x' inserted n v old hx hinsert ih =>
      obtain ⟨x'', hinsert', h⟩ := ih.exists_insert? n v
      obtain ⟨-, rfl⟩ := Prod.mk.inj (Option.some.inj (hinsert.symm.trans hinsert'))
      have hset : (Record.ofList inserted).set n v = .ofList (inserted ++ [(n, v)]) := by
        simp [Record.ofList, Record.setAll]
      rwa [hset] at h
  | @ofList x l hlist =>
      obtain ⟨x', hlist', h⟩ := Represents.exists_insertAll? l empty_represents
      obtain rfl := Option.some.inj (hlist.symm.trans hlist')
      exact h
  | @merged x first rs hmerge =>
      obtain ⟨result, hmerge', h⟩ :=
        Represents.exists_mergeInto? (rs.map .record) first empty_represents
      obtain rfl := Option.some.inj (hmerge.symm.trans hmerge')
      have hrecords : mergeInto .empty first (rs.map .record) =
          .ok (.ofList (rs.flatMap Cells.toList)) := by
        rw [mergeInto_records, Record.ofList, Record.setAll, List.foldl_flatMap]
        rfl
      rw [hrecords] at h
      cases h with
      | ok h => exact h

/-- The index of a record is in step with its fields: no name stands twice, the names in the index are
those of the fields, and each is at the place that the index tells. -/
structure InStep (x : IndexedRecord) : Prop where
  nodup : x.names.Nodup
  keys : ∀ n, n ∈ x.index ↔ n ∈ x.names
  places : ∀ (n : String) (i : Nat), x.index[n]? = some i ↔ x.names[i]? = some n

theorem Represents.names
    {x : IndexedRecord}
    {r : Record}
    (h : x.Represents r) :
    x.names = r.names :=
  congrArg (List.map Prod.fst) h.fields

theorem Represents.inStep
    {x : IndexedRecord}
    {r : Record}
    (h : x.Represents r) :
    x.InStep := by
  have hplaces : ∀ (n : String) (i : Nat), x.index[n]? = some i ↔ x.names[i]? = some n := by
    intro n i
    rw [h.index, h.names, Cells.position?_eq_some_iff]
  constructor
  case nodup => exact h.names ▸ r.nodup_names
  case keys =>
    intro n
    simp only [List.mem_iff_getElem?, ← hplaces, ← Option.isSome_iff_exists]
    simp
  case places => exact hplaces

end IndexedRecord

/-- However a record with an index came about, its index is in step with its fields.  Its names are those
of the fields that were inserted on the way, each in the place of its first insertion, and under a name
stands the value that was inserted last.  One more insertion does not write outside the fields and tells
what look-up found before.  Without an index the same insertions make a record with the same fields, in
which look-up and one more insertion find the same.  Inserting the fields of a list never fails, and
neither does a merge, which ends like one without an index. -/
theorem index_stays_in_step :
    (∀ x inserted, IndexedRecord.Built x inserted →
        x.InStep ∧
          x.names = (inserted.map Prod.fst).eraseDups ∧
          (∀ n, x.get? n = lastValue? n inserted) ∧
          (∀ n v, ∃ x', x.insert? n v = some (x.get? n, x')) ∧
          x.Represents (.ofList inserted) ∧
          (∀ n, (Record.ofList inserted).get? n = x.get? n) ∧
          ∀ n v, ((Record.ofList inserted).insert n v).1 = x.get? n) ∧
      (∀ l, ∃ x, IndexedRecord.ofList? l = some x) ∧
      ∀ first values, ∃ result, IndexedRecord.merge? first values = some result ∧
        IndexedRecord.EndsLike result (mergeRecords first values) := by
  refine ⟨?built, ?listed, ?merged⟩
  case built =>
    intro x inserted hbuilt
    have h := hbuilt.represents
    refine ⟨h.inStep, ?names, ?values, ?inserts, h, fun n => (h.get? n).symm, ?tells⟩
    case names =>
      rw [h.names, Record.ofList, Record.names_setAll, foldl_addName]
      simp [Record.empty, Cells.names, Cells.toList]
    case values =>
      intro n
      rw [h.get?, Record.ofList, Record.get?_setAll]
      simp [Record.empty]
    case inserts =>
      intro n v
      obtain ⟨x', hinsert, -⟩ := h.exists_insert? n v
      exact ⟨x', by rw [hinsert, h.get?]⟩
    case tells =>
      intro n v
      rw [h.get?]
      exact Cells.put_fst n v List.not_mem_nil _
  case listed =>
    intro l
    obtain ⟨x, hlist, -⟩ :=
      IndexedRecord.Represents.exists_insertAll? l IndexedRecord.empty_represents
    exact ⟨x, hlist⟩
  case merged =>
    intro first values
    exact IndexedRecord.Represents.exists_mergeInto? values first IndexedRecord.empty_represents

/-- A list that repeats a name, and one more insertion under the other name. -/
theorem repeated_name_stays_in_step :
    let l : List (String × Value) :=
      [("b", .string "1"), ("a", .string "2"), ("b", .string "3")]
    ∃ x x', IndexedRecord.ofList? l = some x ∧
      x.insert? "a" (.string "4") = some (some (.string "2"), x') ∧
      IndexedRecord.Built x' (l ++ [("a", .string "4")]) ∧
      x'.names = ["b", "a"] ∧ x'.index["b"]? = some 0 ∧
      x'.get? "a" = some (.string "4") ∧ x'.get? "c" = none := by
  intro l
  obtain ⟨hbuilt, hlist, -⟩ := index_stays_in_step
  obtain ⟨x, hx⟩ := hlist l
  obtain ⟨-, -, hvalues, hinserts, -⟩ := hbuilt x l (.ofList hx)
  obtain ⟨x', hinsert⟩ := hinserts "a" (.string "4")
  rw [hvalues] at hinsert
  have hx' : IndexedRecord.Built x' (l ++ [("a", .string "4")]) := .insert (.ofList hx) hinsert
  obtain ⟨hstep, hnames, hvalues', -⟩ := hbuilt x' _ hx'
  have hnames' : x'.names = ["b", "a"] := hnames.trans (by decide)
  refine ⟨x, x', hx, hinsert, hx', hnames', ?_, ?_, ?_⟩
  · rw [hstep.places, hnames']
    rfl
  · rw [hvalues']
    rfl
  · rw [hvalues']
    rfl

end RowPatch
