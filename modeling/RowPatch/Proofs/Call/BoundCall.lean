import RowPatch.Call.Session
import RowPatch.Proofs.Binding.Writes
import RowPatch.Proofs.Table.Rows

/-!
# Bound calls do not go wrong

A call that was bound without a finding, and runs on values that agree with the types it was bound
with, is answered by its table: with the row that it changed, or with the error that there is no
such row.

**Results.**
* `runCall_of_records`: a call on a sheet and records is one update with the merged changes.
* `bound_call_writable`: all columns in the merged changes of a bound call may be written.
* `bound_call_answers`: the two answers of a bound call.
-/

namespace RowPatch

/-- The values that a call runs on agree with its types.  The types are read for names alone. -/
structure AgreesWith (types : List DataType) (args : CallArguments Store) (s : Store)
    (ref : TableRef) (sheet : Sheet) (base : Record) (changes : List Record) : Prop where
  /-- Nothing asks the call to stop, neither before nor while its table is evaluated. -/
  running : s.cancelled = false ∧ (args.table s).2.cancelled = false
  evaluates : (args.table s).1 = .table ref
  /-- The sheet is the one that the reference leads to once the table was evaluated. -/
  stored : (args.table s).2.tables[ref.id]? = some (.sheet sheet)
  baseRecord : args.base = .record base
  changeRecords : args.changes = changes.map .record
  columns : ∀ t, types[0]? = some t → ∀ n ∈ t.fieldNames, n ∈ sheet.columns
  readOnly : ∀ t, types[0]? = some t →
    ∀ n ∈ sheet.columns, n ∈ sheet.readOnly → ∃ o ∈ t.origins, n ∈ o.readOnly
  count : changes.length + 2 = types.length
  names : ∀ (k : Nat) (r : Record) (t : DataType), changes[k]? = some r → types[k + 2]? = some t →
    ∀ n ∈ r.names, n ∈ t.fieldNames

/-- A call on a sheet and records is one update with the merged changes. -/
theorem runCall_of_records
    (args : CallArguments Store)
    (s : Store)
    (stage : Stage)
    (ref : TableRef)
    (sheet : Sheet)
    (base : Record)
    (changes : List Record)
    (hrunning : s.cancelled = false ∧ (args.table s).2.cancelled = false)
    (htable : (args.table s).1 = .table ref)
    (hsheet : (args.table s).2.tables[ref.id]? = some (.sheet sheet))
    (hbase : args.base = .record base)
    (hchanges : args.changes = changes.map .record) :
    (runCall storeHost stage args s).answer =
      .ok (replyValue (sheet.update base (.mergeAll changes)).1) := by
  simp only [runCall, storeHost, hrunning.1, hrunning.2, htable, tableArgument, hbase, baseArgument,
    delegate, hchanges, mergeRecords_records, Store.update, hsheet, Bool.false_eq_true, if_false]

/-- All columns in the merged changes of a bound call may be written. -/
theorem bound_call_writable
    (d : Dialect)
    (target : Target)
    (types : List DataType)
    (hbound : (bindCall d .structural target types).found = [])
    (args : CallArguments Store)
    (s : Store)
    (ref : TableRef)
    (sheet : Sheet)
    (base : Record)
    (changes : List Record)
    (h : AgreesWith types args s ref sheet base changes) :
    ∀ n ∈ (Record.mergeAll changes).names, sheet.refusal? n = none := by
  intro n hn
  obtain ⟨failed, origins, fields, rest, rfl, hnames⟩ := bound_call_names d target types hbound
  obtain ⟨r, hr, hnr⟩ := (Record.mem_names_mergeAll n changes).1 hn
  obtain ⟨k, hk⟩ := List.mem_iff_getElem?.1 hr
  obtain ⟨hlt, -⟩ := List.getElem?_eq_some_iff.1 hk
  have hcount := h.count
  rw [List.length_cons] at hcount
  -- the type of the change that brought in the name
  obtain ⟨t, ht⟩ : ∃ t, rest[k + 1]? = some t :=
    ⟨rest[k + 1], List.getElem?_eq_getElem (by omega)⟩
  obtain ⟨hfield, hwritable⟩ := hnames k t ht n (h.names k r t hk ht n hnr)
  have hcolumn : n ∈ sheet.columns := h.columns _ rfl n hfield
  rw [Sheet.refusal?_eq_none_iff]
  refine ⟨hcolumn, ?_⟩
  intro hreadOnly
  obtain ⟨o, ho, hrefuses⟩ := h.readOnly _ rfl n hcolumn hreadOnly
  exact hwritable o ho hrefuses

/-- A bound call is answered with a record if some row matches its base record, and with the error
that there is no such row otherwise. -/
theorem bound_call_answers
    (d : Dialect)
    (target : Target)
    (types : List DataType)
    (hbound : (bindCall d .structural target types).found = [])
    (args : CallArguments Store)
    (s : Store)
    (ref : TableRef)
    (sheet : Sheet)
    (base : Record)
    (changes : List Record)
    (h : AgreesWith types args s ref sheet base changes) :
    ((∃ r ∈ sheet.records, r.covers base = true) →
      ∃ r, (runCall storeHost .start args s).answer = .ok (.record r)) ∧
    ((¬ ∃ r ∈ sheet.records, r.covers base = true) →
      ∃ f, (runCall storeHost .start args s).answer = .ok (.fault f) ∧ f.kind = .notFound) := by
  rw [runCall_of_records args s .start ref sheet base changes h.running h.evaluates h.stored
    h.baseRecord h.changeRecords]
  have hwritable := bound_call_writable d target types hbound args s ref sheet base changes h
  rcases sheet.update_of_writable base (.mergeAll changes) hwritable with
    ⟨hrow, r, hr⟩ | ⟨hrow, hr⟩
  · rw [hr]
    exact ⟨fun _ => ⟨r, rfl⟩, fun hno => absurd hrow hno⟩
  · rw [hr]
    exact ⟨fun hrow' => absurd hrow' hrow, fun _ => ⟨sheet.noMatch base, rfl, rfl⟩⟩

/-- A bound call that changes a price, in a table whose keys are read-only. -/
theorem bound_call_changes_price :
    let crm : Origin := ⟨"crm", .ofList ["id"]⟩
    let fields := Fields.ofList [("id", .scalar .text), ("price", .scalar .text)]
    let sheet : Sheet :=
      ⟨"crm", ["id", "price"], .ofList ["id"], [#v[.string "7", .string "low"]], 0⟩
    let base := Record.ofList [("id", .string "7")]
    let change := Record.ofList [("price", .string "high")]
    let types := [.table false (.ofList [crm]) fields, .record ∅ (.ofList [("id", .scalar .text)]),
      .record ∅ (.ofList [("price", .scalar .text)])]
    let args : CallArguments Store :=
      ⟨fun s => (.table ⟨0, "crm"⟩, s), .record base, [.record change]⟩
    (bindCall .standard .structural (.dataSource "crm" true) types).found = [] ∧
      AgreesWith types args (.ofTables [.sheet sheet]) ⟨0, "crm"⟩ sheet base [change] ∧
      ∃ r, (runCall storeHost .start args (.ofTables [.sheet sheet])).answer = .ok (.record r) := by
  intro crm fields sheet base change types args
  have hbound : (bindCall .standard .structural (.dataSource "crm" true) types).found = [] := by
    decide +kernel
  have hagrees : AgreesWith types args (.ofTables [.sheet sheet]) ⟨0, "crm"⟩ sheet base
      [change] := by
    constructor
    case running => exact ⟨rfl, rfl⟩
    case evaluates => rfl
    case stored => rfl
    case baseRecord => rfl
    case changeRecords => rfl
    case columns =>
      intro t ht
      cases Option.some.inj ht
      decide +kernel
    case readOnly =>
      intro t ht n _ hn
      cases Option.some.inj ht
      exact ⟨crm, by decide +kernel, hn⟩
    case count => rfl
    case names =>
      intro k r t hk ht
      cases k with
      | zero =>
          cases Option.some.inj hk
          cases Option.some.inj ht
          decide +kernel
      | succ k => exact absurd hk (by simp)
  have hrow : ∃ r ∈ sheet.records, r.covers base = true :=
    ⟨sheet.toRecord #v[.string "7", .string "low"], List.mem_singleton.2 rfl, by decide +kernel⟩
  exact ⟨hbound, hagrees, (bound_call_answers .standard (.dataSource "crm" true) types hbound args _
    ⟨0, "crm"⟩ sheet base [change] hagrees).1 hrow⟩

end RowPatch
