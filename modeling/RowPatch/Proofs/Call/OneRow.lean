import RowPatch.Call.Session
import RowPatch.Proofs.Call.Outcome
import RowPatch.Proofs.Table.Stores

/-!
# A call changes one row or none

What a call does to the tables of a store once its own table was evaluated: the answer is a record
when one row was changed, and that row shows the record; with every other answer the tables show
what they showed.

**Results.**
* `runCall_updates_or_stops`: a run hands its merged changes to one table, or stops before.
* `call_patches_first_row_or_nothing`: the two ways in which the tables can look afterwards.
-/

namespace RowPatch

/-- A run hands its merged changes to one table, or stops before and answers with no record. -/
theorem runCall_updates_or_stops
    {σ : Type}
    (host : CallHost σ)
    (stage : Stage)
    (args : CallArguments σ)
    (s : σ) :
    let run := runCall host stage args s
    let s' := if host.isCancelled s then s else (args.table s).2
    (run.world = s' ∧ ∀ r, run.answer ≠ .ok (.record r)) ∨
      ∃ ref base changes, (args.table s).1 = .table ref ∧ args.base = .record base ∧
        args.changes = changes.map .record ∧
        run.answer = .ok (replyValue (host.update ref base (.mergeAll changes) s').1) ∧
        run.world = (host.update ref base (.mergeAll changes) s').2 := by
  intro run s'
  have hends : ∀ v : Value, v.EndsCall → ∀ r, v ≠ .record r := by
    rintro v hv r rfl
    simp [Value.EndsCall, Value.kind] at hv
  have houtcome := outcome_runCall host stage args s
  generalize actsOfRun host stage args s = acts at houtcome
  change Outcome host stage args s run acts at houtcome
  generalize run = run at houtcome ⊢
  cases houtcome with
  | cancelledAtOnce hcancelled => exact Or.inl ⟨by simp [s', hcancelled], by simp⟩
  | tableEnds hrunning htable hv =>
      exact Or.inl ⟨by simp [s', hrunning, htable], by simpa using hends _ hv⟩
  | notTable hrunning htable => exact Or.inl ⟨by simp [s', hrunning, htable], by simp⟩
  | baseEnds hrunning htable _ hb =>
      exact Or.inl ⟨by simp [s', hrunning, htable], by simpa using hends _ hb⟩
  | baseNotRecord hrunning htable => exact Or.inl ⟨by simp [s', hrunning, htable], by simp⟩
  | cancelledMeanwhile hrunning htable => exact Or.inl ⟨by simp [s', hrunning, htable], by simp⟩
  | changeNotRecord hrunning htable => exact Or.inl ⟨by simp [s', hrunning, htable], by simp⟩
  | snapshot hrunning htable => exact Or.inl ⟨by simp [s', hrunning, htable], by simp⟩
  | @updated ref base changes _ _ _ hrunning htable hbase _ hchanges hupdate =>
      refine Or.inr ⟨ref, base, changes, by rw [htable], hbase, hchanges, ?_⟩
      simp [s', hrunning, htable, hupdate]

/-- The value that stands under a name in the last of some records that has the name. -/
def lastWritten (changes : List Record) (n : String) : Option Value :=
  changes.reverse.findSome? (fun r => r.get? n)

/-- A call that answers with a record has changed the first row that matches its base record, and
the row shows that record.  A call that answers in any other way has changed no row. -/
theorem call_patches_first_row_or_nothing
    (stage : Stage)
    (args : CallArguments Store)
    (s : Store) :
    let run := runCall storeHost stage args s
    let evaluated := if s.cancelled then s else (args.table s).2
    (∀ r ref before, run.answer = .ok (.record r) → (args.table s).1 = .table ref →
      evaluated.records? ref.id = some before →
        ∃ base changes after i old,
          args.base = .record base ∧ args.changes = changes.map .record ∧
          run.world.records? ref.id = some after ∧
          PatchesFirst base (lastWritten changes) before i old r after ∧
          ∀ k, k ≠ ref.id → run.world.records? k = evaluated.records? k) ∧
      ((∀ r, run.answer ≠ .ok (.record r)) →
        ∀ k, run.world.records? k = evaluated.records? k) := by
  intro run evaluated
  rcases runCall_updates_or_stops storeHost stage args s with
    ⟨hworld, hanswer⟩ | ⟨ref, base, changes, htable, hbase, hchanges, hanswer, hworld⟩
  · refine ⟨?_, ?_⟩
    · intro r _ _ hr
      exact absurd hr (hanswer r)
    · intro _ k
      exact congrArg (Store.records? · k) hworld
  · change run.answer = .ok (replyValue (evaluated.update ref.id base (.mergeAll changes)).1)
      at hanswer
    change run.world = (evaluated.update ref.id base (.mergeAll changes)).2 at hworld
    rw [hanswer, hworld]
    cases hreply : (evaluated.update ref.id base (.mergeAll changes)).1 with
    | error f =>
        refine ⟨?_, ?_⟩
        · intro r _ _ hr
          exact absurd hr (by simp [replyValue])
        · intro _ k
          exact evaluated.records?_update_of_error ref.id base _ f hreply k
    | ok r =>
        refine ⟨?_, ?_⟩
        · intro r' ref' before hr href hbefore
          obtain rfl : r = r' := by simpa [replyValue] using hr
          obtain rfl : ref = ref' := by simpa using htable.symm.trans href
          obtain ⟨after, i, old, hafter, hpatches⟩ :=
            evaluated.records?_update_of_ok ref.id base _ before r hbefore hreply
          have hwritten : (Record.mergeAll changes).get? = lastWritten changes :=
            funext fun n => Record.get?_mergeAll n changes
          rw [hwritten] at hpatches
          exact ⟨base, changes, after, i, old, hbase, hchanges, hafter, hpatches,
            evaluated.records?_update_of_ne ref.id base _⟩
        · intro hno
          exact absurd rfl (hno r)

/-- A call on a sheet with a repeated column and two rows that match.  Evaluating its table writes to
another sheet, which then stays as it is. -/
theorem call_patches_first_of_two :
    let items : Sheet := ⟨"items", ["id", "name", "name"], ∅,
      [#v[.string "6", .blank, .string "a"], #v[.string "7", .blank, .string "b"],
        #v[.string "7", .blank, .string "c"]], 0⟩
    let users : Sheet := ⟨"users", ["id"], ∅, [#v[.string "6"]], 0⟩
    let s : Store := .ofTables [.sheet items, .sheet users]
    let effect : Effect := ⟨1, .empty, .ofList [("id", .string "8")]⟩
    let base := Record.ofList [("id", .string "7")]
    let changes := [Record.ofList [("name", .string "x")], Record.ofList [("name", .string "y")]]
    let args : CallArguments Store :=
      ⟨(TableSource.deferred (.table ⟨0, "items"⟩) [effect] false).force, .record base,
        changes.map .record⟩
    let run := runCall storeHost .start args s
    let r := Record.ofList [("id", .string "7"), ("name", .string "y")]
    run.answer = .ok (.record r) ∧
      ∃ after i old, run.world.records? 0 = some after ∧
        PatchesFirst base (lastWritten changes) items.records i old r after ∧
        run.world.records? 1 = some [.ofList [("id", .string "8")]] := by
  intro items users s effect base changes args run r
  have hanswer : run.answer = .ok (.record r) := rfl
  obtain ⟨base', changes', after, i, old, hbase, hchanges, hafter, hpatches, hothers⟩ :=
    (call_patches_first_row_or_nothing .start args s).1 r ⟨0, "items"⟩ items.records hanswer rfl rfl
  obtain rfl : base = base' := by simpa [args] using hbase
  obtain rfl : changes = changes' :=
    (List.map_inj_right fun _ _ => Value.record.inj).1 hchanges
  exact ⟨hanswer, after, i, old, hafter, hpatches, hothers 1 (by decide)⟩

end RowPatch
