import Mathlib.Data.List.Sort
import RowPatch.Binding.Writes
import RowPatch.Proofs.Schema.Names

/-!
# Read-only columns in changes

What is reported about the writes of a call.  The findings about read-only columns stand for pairs of
an argument and one of its field names.  A change is to blame for such a pair by itself, whatever the
other arguments are; the pairs come by argument and then by name, each once.

**Results.**
* `mem_readOnlyNames_iff`, `pairwise_readOnlyNames`: the read-only columns that one change names.
* `checkWrites_eq`: the findings as pairs.
* `mem_namedReadOnly_iff`, `pairwise_namedReadOnly`: which pairs there are, and in which order.
* `writes_reported_exactly`: the findings are determined by which pairs there are.
-/

namespace RowPatch

/-- The argument at `index`, which is neither the table nor the base record, is a record type that
has a field `name`, and some data source that the host sees in the table refuses to write it. -/
def NamesReadOnly (host : TypeHost) (args : List DataType) (index : Nat) (name : String) : Prop :=
  ∃ table change, args.head? = some table ∧ host.isTable table = true ∧
    2 ≤ index ∧ args[index]? = some change ∧ change.isRecord = true ∧
    name ∈ change.fieldNames ∧ ∃ o ∈ host.origins table, name ∈ o.readOnly

theorem refusesColumn_iff
    (origins : SortedSet Origin)
    (name : String) :
    refusesColumn origins name = true ↔ ∃ o ∈ origins, name ∈ o.readOnly := by
  simp [refusesColumn]

/-- The read-only columns that a change names, in order. -/
def readOnlyNames (origins : SortedSet Origin) (change : DataType) : List String :=
  if change.isRecord then change.fieldNames.filter (refusesColumn origins) else []

theorem mem_readOnlyNames_iff
    (origins : SortedSet Origin)
    (change : DataType)
    (n : String) :
    n ∈ readOnlyNames origins change ↔
      change.isRecord = true ∧ n ∈ change.fieldNames ∧ ∃ o ∈ origins, n ∈ o.readOnly := by
  unfold readOnlyNames
  split
  · rename_i hrecord
    simp [hrecord, List.mem_filter, refusesColumn_iff]
  · rename_i hrecord
    simp [hrecord]

theorem pairwise_readOnlyNames
    (origins : SortedSet Origin)
    (change : DataType) :
    (readOnlyNames origins change).Pairwise (· < ·) := by
  unfold readOnlyNames
  split
  · rename_i hrecord
    obtain ⟨o, fs, rfl⟩ := DataType.exists_record_of_isRecord change hrecord
    exact (Fields.pairwise_names fs).filter _
  · exact .nil

theorem readOnlyFindings_eq
    (origins : SortedSet Origin)
    (change : DataType × Nat) :
    readOnlyFindings origins change =
      (readOnlyNames origins change.1).map (.readOnly change.2) := by
  obtain ⟨t, index⟩ := change
  cases t with
  | scalar k => rfl
  | row s o fs => cases s <;> rfl

/-- The pairs of an argument and a read-only column that it names. -/
def namedReadOnly (host : TypeHost) (args : List DataType) : List (Nat × String) :=
  match args with
  | [] => []
  | table :: rest =>
      if host.isTable table then
        ((rest.drop 1).zipIdx 2).flatMap fun change =>
          (readOnlyNames (host.origins table) change.1).map (Prod.mk change.2)
      else []

/-- The findings about the writes of a call: that the target cannot change, and the pairs. -/
theorem checkWrites_eq
    (host : TypeHost)
    (target : Target)
    (args : List DataType) :
    checkWrites host target args =
      (if target.isMutable then [] else [.immutable target]) ++
        (namedReadOnly host args).map fun p => .readOnly p.1 p.2 := by
  unfold checkWrites namedReadOnly
  cases args with
  | nil => rfl
  | cons table rest =>
      cases htable : host.isTable table with
      | false => simp [htable]
      | true =>
          simp only [htable, if_true, List.map_flatMap, List.map_map]
          exact congrArg _
            (List.flatMap_congr fun change _ => readOnlyFindings_eq (host.origins table) change)

/-- The arguments after the base record, with their places. -/
theorem mem_zipIdx_changes_iff
    (table : DataType)
    (rest : List DataType)
    (change : DataType)
    (index : Nat) :
    (change, index) ∈ (rest.drop 1).zipIdx 2 ↔
      2 ≤ index ∧ (table :: rest)[index]? = some change := by
  rw [List.mk_mem_zipIdx_iff_le_and_getElem?_sub]
  refine and_congr_right fun hindex => ?_
  obtain ⟨k, rfl⟩ := Nat.exists_eq_add_of_le' hindex
  rw [List.getElem?_drop, List.getElem?_cons_succ]
  simp [Nat.add_comm]

theorem mem_namedReadOnly_iff
    (host : TypeHost)
    (args : List DataType)
    (index : Nat)
    (name : String) :
    (index, name) ∈ namedReadOnly host args ↔ NamesReadOnly host args index name := by
  unfold NamesReadOnly
  cases args with
  | nil => simp [namedReadOnly]
  | cons table rest =>
      cases htable : host.isTable table with
      | false => simp [namedReadOnly, htable]
      | true =>
          simp only [namedReadOnly, htable, if_true, List.mem_flatMap, List.mem_map]
          constructor
          · rintro ⟨⟨change, i⟩, hchange, n, hn, hpair⟩
            obtain ⟨rfl, rfl⟩ := Prod.mk.inj hpair
            obtain ⟨hindex, hi⟩ := (mem_zipIdx_changes_iff table rest change i).1 hchange
            exact ⟨table, change, rfl, htable, hindex, hi, (mem_readOnlyNames_iff _ change n).1 hn⟩
          · rintro ⟨_, change, hhead, -, hindex, hi, hname⟩
            cases Option.some.inj hhead
            exact ⟨(change, index), (mem_zipIdx_changes_iff table rest change index).2 ⟨hindex, hi⟩,
              name, (mem_readOnlyNames_iff _ change name).2 hname, rfl⟩

/-- Where nothing is reported, no change names a read-only column. -/
theorem not_namesReadOnly_of_checkWrites_eq_nil
    (host : TypeHost)
    (target : Target)
    (args : List DataType)
    (h : checkWrites host target args = [])
    (index : Nat)
    (name : String) :
    ¬ NamesReadOnly host args index name := by
  rw [checkWrites_eq] at h
  have hnone : namedReadOnly host args = [] := List.map_eq_nil_iff.1 (List.append_eq_nil_iff.1 h).2
  rw [← mem_namedReadOnly_iff, hnone]
  exact List.not_mem_nil

/-- The pairs come by argument, and those of one argument by name. -/
theorem pairwise_namedReadOnly
    (host : TypeHost)
    (args : List DataType) :
    (namedReadOnly host args).Pairwise (Prod.Lex (· < ·) (· < ·)) := by
  unfold namedReadOnly
  split
  · exact .nil
  · rename_i table rest
    split
    · rw [List.pairwise_flatMap]
      constructor
      · intro change _
        rw [List.pairwise_map]
        exact (pairwise_readOnlyNames _ change.1).imp fun h => .right _ h
      · have hplaces : ((rest.drop 1).zipIdx 2).Pairwise (fun c c' => c.2 < c'.2) := by
          rw [← List.pairwise_map (f := Prod.snd), List.zipIdx_map_snd]
          exact List.pairwise_lt_range' 1
        refine hplaces.imp fun {c c'} hlt p hp p' hp' => ?_
        obtain ⟨n, -, rfl⟩ := List.mem_map.1 hp
        obtain ⟨n', -, rfl⟩ := List.mem_map.1 hp'
        exact .left _ _ hlt
    · exact .nil

/-- What is reported about the writes of a call, for every host: that the target cannot change, if it
cannot, and then each read-only column that a change names, by argument and by name, each once.  No
more is reported, and never anything about the base record. -/
theorem writes_reported_exactly
    (host : TypeHost)
    (target : Target)
    (args : List DataType) :
    (∀ found, checkWrites host target args = found ↔
        ∃ named : List (Nat × String),
          named.Pairwise (Prod.Lex (· < ·) (· < ·)) ∧
          (∀ index name, (index, name) ∈ named ↔ NamesReadOnly host args index name) ∧
          found = (if target.isMutable then [] else [.immutable target]) ++
            named.map fun p => .readOnly p.1 p.2) ∧
      1 ∉ (checkWrites host target args).map Diagnostic.argument := by
  rw [checkWrites_eq]
  constructor
  · intro found
    constructor
    · rintro rfl
      exact ⟨_, pairwise_namedReadOnly host args, mem_namedReadOnly_iff host args, rfl⟩
    · rintro ⟨named, hordered, hmem, rfl⟩
      -- an ordered list of pairs is determined by which pairs are in it
      have hsame : namedReadOnly host args = named :=
        (pairwise_namedReadOnly host args).eq_of_mem_iff hordered fun p =>
          (mem_namedReadOnly_iff host args p.1 p.2).trans (hmem p.1 p.2).symm
      rw [hsame]
  · rw [List.mem_map]
    rintro ⟨f, hf, hindex⟩
    rcases List.mem_append.1 hf with hf | hf
    · split at hf
      · exact absurd hf (by simp)
      · rw [List.mem_singleton.1 hf] at hindex
        exact absurd hindex (by simp [Diagnostic.immutable, Diagnostic.error])
    · obtain ⟨⟨index, name⟩, hpair, rfl⟩ := List.mem_map.1 hf
      obtain ⟨-, -, -, -, hle, -⟩ := (mem_namedReadOnly_iff host args index name).1 hpair
      exact absurd (hindex ▸ hle : 2 ≤ 1) (by decide)

/-- Two data sources of one name refuse different columns, and one column both.  A change that is a
table is passed over, and the base record may name what it likes. -/
example :
    let orders : List Origin := [⟨"orders", .ofList ["id", "day"]⟩, ⟨"orders", .ofList ["day", "sum"]⟩]
    let names (l : List String) : Fields none := .ofList (l.map fun n => (n, .scalar .text))
    let args : List DataType := [.record ∅ .nil, .record ∅ (names ["id"]),
      .record ∅ (names ["sum", "note", "day"]), .table false ∅ (names ["id"]),
      .record ∅ (names ["id"])]
    checkWrites (.fixed (some true) none (some (.ofList orders))) .expression args =
      [.immutable .expression, .readOnly 2 "day", .readOnly 2 "sum", .readOnly 4 "id"] := by
  decide +kernel

end RowPatch
