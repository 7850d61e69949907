import RowPatch.Call.Session
import RowPatch.Proofs.Call.Outcome
import RowPatch.Proofs.Table.Composition
import RowPatch.Proofs.Table.Stores
import RowPatch.Proofs.Value.FieldList

/-!
# Many changes or many calls

The changes of one call can be given to as many calls, one each, if they leave alone the columns
that the base record names.  The last of these calls answers what the one call answers, and the
rows are the same afterwards.

**Results.**
* `callOn_sheet`: a call on a sheet is an update with the merged changes.
* `callOn_runAfter`, `callEach_runAfter`: one more call, and a series of calls, after some changes.
* `many_changes_eq_many_calls`: one call with many changes against many calls with one.
-/

namespace RowPatch

/-- A call whose table is there already, on a base record and change records. -/
def callOn (ref : TableRef) (base : Record) (changes : List Record) (s : Store) : Run Store :=
  runCall storeHost .start
    ⟨(TableSource.ready (.table ref)).force, .record base, changes.map .record⟩ s

/-- A call on a sheet is an update with the merged changes. -/
theorem callOn_sheet
    (ref : TableRef)
    (base : Record)
    (changes : List Record)
    (s : Store)
    (t : Sheet)
    (hrunning : s.cancelled = false)
    (hsheet : s.tables[ref.id]? = some (.sheet t)) :
    callOn ref base changes s =
      ⟨.ok (replyValue (t.update base (.mergeAll changes)).1), .finished,
        { s with tables := s.tables.set ref.id (.sheet (t.update base (.mergeAll changes)).2) }⟩ := by
  have hupdate := s.update_of_sheet ref.id base (.mergeAll changes) t hsheet
  exact (Outcome.updated hrunning rfl rfl hrunning rfl hupdate).runCall_eq

/-- Runs one call for each change, one after the other, after a call that has run already. -/
def callEach (ref : TableRef) (base : Record) (run : Run Store) (changes : List Record) : Run Store :=
  changes.foldl (fun run change => callOn ref base [change] run.world) run

/-- The run that answers like one update of `t` with `changes` and leaves the sheet that this update
leaves, but with `k` updates counted. -/
def runAfter (ref : TableRef) (base : Record) (s : Store) (t : Sheet) (changes : Record) (k : Nat) :
    Run Store :=
  ⟨.ok (replyValue (t.update base changes).1), .finished,
    { s with tables := s.tables.set ref.id (.sheet ((t.update base changes).2.counting k)) }⟩

section

variable (ref : TableRef) (base : Record) (s : Store) (t : Sheet)
  (hrunning : s.cancelled = false)
  (hsheet : s.tables[ref.id]? = some (.sheet t))
include hrunning hsheet

/-- A call with one change is the first of a series of calls. -/
theorem callOn_eq_runAfter (change : Record) :
    callOn ref base [change] s = runAfter ref base s t change (t.updates + 1) := by
  rw [callOn_sheet ref base [change] s t hrunning hsheet, Record.mergeAll_singleton, runAfter,
    Sheet.counting_update]

/-- After some changes were written, a call with one more change adds that change to them. -/
theorem callOn_runAfter
    (changes change : Record)
    (hchanges : ∀ n ∈ changes.names, t.refusal? n = none)
    (hchange : ∀ n ∈ change.names, t.refusal? n = none)
    (hdisjoint : ∀ n ∈ changes.names, n ∉ base.names)
    (k : Nat) :
    callOn ref base [change] (runAfter ref base s t changes k).world =
      runAfter ref base s t (changes.setAll change.toList) (k + 1) := by
  obtain ⟨hlt, -⟩ := List.getElem?_eq_some_iff.1 hsheet
  have hsheet' : (runAfter ref base s t changes k).world.tables[ref.id]? =
      some (.sheet ((t.update base changes).2.counting k)) := by
    simp [runAfter, hlt]
  have hrunning' : (runAfter ref base s t changes k).world.cancelled = false := hrunning
  rw [callOn_sheet ref base [change] _ _ hrunning' hsheet', Record.mergeAll_singleton,
    t.update_update base changes change hchanges hchange hdisjoint k]
  simp only [runAfter, List.set_set]

/-- What a series of calls leaves behind. -/
theorem callEach_runAfter
    (more : List Record)
    (hmore : ∀ r ∈ more, ∀ n ∈ r.names, t.refusal? n = none ∧ n ∉ base.names) :
    ∀ (changes : Record) (k : Nat),
      (∀ n ∈ changes.names, t.refusal? n = none ∧ n ∉ base.names) →
        callEach ref base (runAfter ref base s t changes k) more =
          runAfter ref base s t (more.foldl (fun merged r => merged.setAll r.toList) changes)
            (k + more.length) := by
  induction more with
  | nil =>
      intro changes k _
      rfl
  | cons change more ih =>
      intro changes k hchanges
      obtain ⟨hchange, hrest⟩ := List.forall_mem_cons.1 hmore
      have hboth : ∀ n ∈ (changes.setAll change.toList).names,
          t.refusal? n = none ∧ n ∉ base.names := by
        intro n hn
        rcases (Record.mem_names_setAll n change.toList changes).1 hn with h | h
        · exact hchanges n h
        · exact hchange n h
      rw [callEach, List.foldl_cons,
        callOn_runAfter ref base s t hrunning hsheet changes change (fun n hn => (hchanges n hn).1)
          (fun n hn => (hchange n hn).1) (fun n hn => (hchanges n hn).2) k,
        ← callEach, ih hrest _ _ hboth, List.foldl_cons, List.length_cons]
      congr 1
      omega

end

/-- One call with many changes answers what the last of many calls answers, each with one of the
changes, and leaves the same rows: the stores differ in how many updates of the sheet were counted.
The answer is a row, or the error that no row matches. -/
theorem many_changes_eq_many_calls
    (ref : TableRef)
    (base : Record)
    (s : Store)
    (t : Sheet)
    (hrunning : s.cancelled = false)
    (hsheet : s.tables[ref.id]? = some (.sheet t))
    (change : Record)
    (more : List Record)
    (hchanges : ∀ r ∈ change :: more, ∀ n ∈ r.names,
      n ∈ t.columns ∧ n ∉ t.readOnly ∧ n ∉ base.names) :
    let one := callOn ref base (change :: more) s
    let last := callEach ref base (callOn ref base [change] s) more
    ((∃ r, one.answer = .ok (.record r)) ∨ one.answer = .ok (.fault (t.noMatch base))) ∧
      last.answer = one.answer ∧
      ∃ t' : Sheet,
        one.world = { s with tables := s.tables.set ref.id (.sheet t') } ∧
        last.world = { s with
          tables := s.tables.set ref.id
            (.sheet (t'.counting (t.updates + (change :: more).length))) } := by
  intro one last
  have hwritable : ∀ r ∈ change :: more, ∀ n ∈ r.names, t.refusal? n = none ∧ n ∉ base.names := by
    intro r hr n hn
    obtain ⟨hcolumn, hreadOnly, hbase⟩ := hchanges r hr n hn
    exact ⟨(t.refusal?_eq_none_iff n).2 ⟨hcolumn, hreadOnly⟩, hbase⟩
  obtain ⟨hfirst, hmore⟩ := List.forall_mem_cons.1 hwritable
  have hone : one = _ := callOn_sheet ref base (change :: more) s t hrunning hsheet
  have hlast : last = runAfter ref base s t (.mergeAll (change :: more))
      (t.updates + (change :: more).length) := by
    show callEach ref base (callOn ref base [change] s) more = _
    rw [callOn_eq_runAfter ref base s t hrunning hsheet change,
      callEach_runAfter ref base s t hrunning hsheet more hmore change _ hfirst,
      Record.mergeAll_cons, List.length_cons, Nat.add_assoc, Nat.add_comm 1]
  refine ⟨?_, by rw [hone, hlast, runAfter], _, by rw [hone], by rw [hlast, runAfter]⟩
  have hmerged : ∀ n ∈ (Record.mergeAll (change :: more)).names, t.refusal? n = none := by
    intro n hn
    obtain ⟨r, hr, hnr⟩ := (Record.mem_names_mergeAll n _).1 hn
    exact (hwritable r hr n hnr).1
  rw [hone]
  rcases t.update_of_writable base _ hmerged with ⟨-, r, hr⟩ | ⟨-, hf⟩
  · exact Or.inl ⟨r, by rw [hr]; rfl⟩
  · exact Or.inr (by rw [hf]; rfl)

/-- Three changes of a row that is found by minus zero, on a sheet with a repeated column. -/
theorem three_changes_in_one_call :
    let zero : Value := .number ⟨0⟩
    let t : Sheet := ⟨"items", ["id", "name", "name", "price"], .ofList ["id"],
      [#v[.number ⟨1⟩, .blank, .blank, .blank], #v[zero, .blank, .string "a", zero]], 0⟩
    let s : Store := .ofTables [.sheet t]
    let base := Record.ofList [("id", .number ⟨0x8000000000000000⟩)]
    let change := Record.ofList [("name", .string "x")]
    let more := [Record.ofList [("price", .blank), ("name", .string "y")],
      Record.ofList [("name", .string "z")]]
    (∀ r ∈ change :: more, ∀ n ∈ r.names, n ∈ t.columns ∧ n ∉ t.readOnly ∧ n ∉ base.names) ∧
      (callEach ⟨0, "items"⟩ base (callOn ⟨0, "items"⟩ base [change] s) more).answer =
        .ok (.record (Record.ofList [("id", zero), ("name", .string "z"), ("price", .blank)])) := by
  intro zero t s base change more
  have hchanges : ∀ r ∈ change :: more, ∀ n ∈ r.names,
      n ∈ t.columns ∧ n ∉ t.readOnly ∧ n ∉ base.names := by
    simp only [more, List.forall_mem_cons]
    decide +kernel
  obtain ⟨-, hlast, -⟩ :=
    many_changes_eq_many_calls ⟨0, "items"⟩ base s t rfl rfl change more hchanges
  have hone : (callOn ⟨0, "items"⟩ base (change :: more) s).answer =
      .ok (.record (Record.ofList [("id", zero), ("name", .string "z"), ("price", .blank)])) := rfl
  exact ⟨hchanges, hlast.trans hone⟩

end RowPatch
