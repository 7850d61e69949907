import RowPatch.Call.Run
import RowPatch.Proofs.Value.Merge

/-!
# The outcomes of a run

A run can end in nine ways.  Which one it is depends on the arguments and on when the call is asked
to stop; what the run did on its way, evaluating its table and asking for an update, is kept in a
record of acts.

**Results.**
* `Outcome.runCall_eq`, `exists_outcome`: a run ends in one of the nine ways, and in no other.
* `Outcome.recorded`: keeping a record of the acts does not change how a run ends.
* `outcome_iff_runCall`: the outcomes describe the runs of a fresh call, with their acts.
-/

namespace RowPatch

/-- Something that a run does to the world around it. -/
inductive Act where
  /-- It evaluates its table. -/
  | evaluate
  /-- It asks a table for an update. -/
  | update (ref : TableRef) (base changes : Record)

/-- A world, and what was done to it so far. -/
structure Recorded (σ : Type) where
  world : σ
  acts : List Act

section

variable {σ : Type}

/-- The host that keeps a record of the updates it is asked for. -/
def CallHost.recorded (host : CallHost σ) : CallHost (Recorded σ) where
  isCancelled s := host.isCancelled s.world
  update ref base changes s :=
    let r := host.update ref base changes s.world
    (r.1, ⟨r.2, s.acts ++ [.update ref base changes]⟩)

/-- The arguments that keep a record of when the table is evaluated. -/
def CallArguments.recorded (args : CallArguments σ) : CallArguments (Recorded σ) where
  table s :=
    let r := args.table s.world
    (r.1, ⟨r.2, s.acts ++ [.evaluate]⟩)
  base := args.base
  changes := args.changes

/-- What a run does, in order. -/
def actsOfRun (host : CallHost σ) (stage : Stage) (args : CallArguments σ) (s : σ) : List Act :=
  (runCall host.recorded stage args.recorded ⟨s, []⟩).world.acts

/-- A blank or an error.  In place of the table or of the base record it ends the call. -/
def Value.EndsCall (v : Value) : Prop := v.kind = .blank ∨ v.kind = .error

/-- How a call that stood at `stage` ends, and what it does before.  Each case leaves out those
above it. -/
inductive Outcome (host : CallHost σ) (stage : Stage) (args : CallArguments σ) (s : σ) :
    Run σ → List Act → Prop
  | cancelledAtOnce
      (hcancelled : host.isCancelled s = true) :
      Outcome host stage args s ⟨.error .cancelled, stage, s⟩ []
  | tableEnds
      {v : Value} {s' : σ}
      (hrunning : host.isCancelled s = false)
      (htable : args.table s = (v, s'))
      (hends : v.EndsCall) :
      Outcome host stage args s ⟨.ok v, .tableReady, s'⟩ [.evaluate]
  | notTable
      {v : Value} {s' : σ}
      (hrunning : host.isCancelled s = false)
      (htable : args.table s = (v, s'))
      (hgoes : ¬ v.EndsCall)
      (hkind : v.kind ≠ .table) :
      Outcome host stage args s ⟨.error (.notTable v.kind), .tableReady, s'⟩ [.evaluate]
  | baseEnds
      {v : Value} {s' : σ}
      (hrunning : host.isCancelled s = false)
      (htable : args.table s = (v, s'))
      (hkind : v.kind = .table)
      (hends : args.base.EndsCall) :
      Outcome host stage args s ⟨.ok args.base, .tableReady, s'⟩ [.evaluate]
  | baseNotRecord
      {v : Value} {s' : σ}
      (hrunning : host.isCancelled s = false)
      (htable : args.table s = (v, s'))
      (hkind : v.kind = .table)
      (hgoes : ¬ args.base.EndsCall)
      (hbase : args.base.kind ≠ .record) :
      Outcome host stage args s ⟨.error (.baseNotRecord args.base.kind), .tableReady, s'⟩ [.evaluate]
  | cancelledMeanwhile
      {v : Value} {s' : σ}
      (hrunning : host.isCancelled s = false)
      (htable : args.table s = (v, s'))
      (hkind : v.kind = .table)
      (hbase : args.base.kind = .record)
      (hcancelled : host.isCancelled s' = true) :
      Outcome host stage args s ⟨.error .cancelled, .argumentsReady, s'⟩ [.evaluate]
  | changeNotRecord
      {v w : Value} {s' : σ} {records : List Record} {rest : List Value}
      (hrunning : host.isCancelled s = false)
      (htable : args.table s = (v, s'))
      (hkind : v.kind = .table)
      (hbase : args.base.kind = .record)
      (hrunning' : host.isCancelled s' = false)
      (hchanges : args.changes = records.map .record ++ w :: rest)
      (hchange : w.kind ≠ .record) :
      Outcome host stage args s
        ⟨.error (.changeNotRecord ⟨2 + records.length, w.kind⟩), .argumentsReady, s'⟩ [.evaluate]
  | snapshot
      {rows records : List Record} {s' : σ}
      (hrunning : host.isCancelled s = false)
      (htable : args.table s = (.snapshot rows, s'))
      (hbase : args.base.kind = .record)
      (hrunning' : host.isCancelled s' = false)
      (hchanges : args.changes = records.map .record) :
      Outcome host stage args s ⟨.error .tableNotMutable, .merged, s'⟩ [.evaluate]
  | updated
      {ref : TableRef} {base : Record} {records : List Record} {reply : Except Fault Record}
      {s' s'' : σ}
      (hrunning : host.isCancelled s = false)
      (htable : args.table s = (.table ref, s'))
      (hbase : args.base = .record base)
      (hrunning' : host.isCancelled s' = false)
      (hchanges : args.changes = records.map .record)
      (hupdate : host.update ref base (.mergeAll records) s' = (reply, s'')) :
      Outcome host stage args s ⟨.ok (replyValue reply), .finished, s''⟩
        [.evaluate, .update ref base (.mergeAll records)]

end

theorem tableArgument_of_endsCall
    (v : Value)
    (h : v.EndsCall) :
    tableArgument v = .error (.ok v) := by
  cases v <;> simp [Value.EndsCall, Value.kind] at h <;> rfl

theorem tableArgument_of_kind_ne
    (v : Value)
    (hgoes : ¬ v.EndsCall)
    (hkind : v.kind ≠ .table) :
    tableArgument v = .error (.error (.notTable v.kind)) := by
  cases v <;> simp [Value.EndsCall, Value.kind] at hgoes hkind <;> rfl

theorem tableArgument_of_kind
    (v : Value)
    (h : v.kind = .table) :
    ∃ ref?, tableArgument v = .ok ref? := by
  cases v <;> simp [Value.kind] at h <;> exact ⟨_, rfl⟩

theorem baseArgument_of_endsCall
    (v : Value)
    (h : v.EndsCall) :
    baseArgument v = .error (.ok v) := by
  cases v <;> simp [Value.EndsCall, Value.kind] at h <;> rfl

theorem baseArgument_of_kind_ne
    (v : Value)
    (hgoes : ¬ v.EndsCall)
    (hkind : v.kind ≠ .record) :
    baseArgument v = .error (.error (.baseNotRecord v.kind)) := by
  cases v <;> simp [Value.EndsCall, Value.kind] at hgoes hkind <;> rfl

section

variable {σ : Type} {host : CallHost σ} {stage : Stage} {args : CallArguments σ} {s : σ}
  {r : Run σ} {acts : List Act}

/-- A run has no outcome but its own. -/
theorem Outcome.runCall_eq (h : Outcome host stage args s r acts) :
    runCall host stage args s = r := by
  cases h with
  | cancelledAtOnce hcancelled => simp [runCall, hcancelled]
  | tableEnds hrunning htable hends =>
      simp [runCall, hrunning, htable, tableArgument_of_endsCall _ hends]
  | notTable hrunning htable hgoes hkind =>
      simp [runCall, hrunning, htable, tableArgument_of_kind_ne _ hgoes hkind]
  | baseEnds hrunning htable hkind hends =>
      obtain ⟨ref?, hv⟩ := tableArgument_of_kind _ hkind
      simp [runCall, hrunning, htable, hv, baseArgument_of_endsCall _ hends]
  | baseNotRecord hrunning htable hkind hgoes hbase =>
      obtain ⟨ref?, hv⟩ := tableArgument_of_kind _ hkind
      simp [runCall, hrunning, htable, hv, baseArgument_of_kind_ne _ hgoes hbase]
  | cancelledMeanwhile hrunning htable hkind hbase hcancelled =>
      obtain ⟨ref?, hv⟩ := tableArgument_of_kind _ hkind
      obtain ⟨base, hb⟩ := Value.eq_record_of_kind _ hbase
      simp [runCall, hrunning, htable, hv, hb, baseArgument, hcancelled]
  | changeNotRecord hrunning htable hkind hbase hrunning' hchanges hchange =>
      obtain ⟨ref?, hv⟩ := tableArgument_of_kind _ hkind
      obtain ⟨base, hb⟩ := Value.eq_record_of_kind _ hbase
      simp [runCall, hrunning, htable, hv, hb, baseArgument, hrunning', delegate, hchanges,
        mergeRecords, mergeInto_of_not_record _ _ hchange, firstChange]
  | snapshot hrunning htable hbase hrunning' hchanges =>
      obtain ⟨base, hb⟩ := Value.eq_record_of_kind _ hbase
      simp [runCall, hrunning, htable, tableArgument, hb, baseArgument, hrunning', delegate,
        hchanges, mergeRecords_records]
  | updated hrunning htable hbase hrunning' hchanges hupdate =>
      simp [runCall, hrunning, htable, tableArgument, hbase, baseArgument, hrunning', delegate,
        hchanges, mergeRecords_records, hupdate]

/-- Keeping a record does not change the outcome, and the record grows by the acts. -/
theorem Outcome.recorded
    (h : Outcome host stage args s r acts)
    (before : List Act) :
    Outcome host.recorded stage args.recorded ⟨s, before⟩
      ⟨r.answer, r.stage, ⟨r.world, before ++ acts⟩⟩ acts := by
  have htable' : ∀ {v : Value} {s' : σ}, args.table s = (v, s') →
      args.recorded.table ⟨s, before⟩ = (v, ⟨s', before ++ [.evaluate]⟩) := by
    intro v s' htable
    simp [CallArguments.recorded, htable]
  cases h with
  | cancelledAtOnce hcancelled =>
      rw [List.append_nil]
      exact .cancelledAtOnce hcancelled
  | tableEnds hrunning htable hends => exact .tableEnds hrunning (htable' htable) hends
  | notTable hrunning htable hgoes hkind => exact .notTable hrunning (htable' htable) hgoes hkind
  | baseEnds hrunning htable hkind hends => exact .baseEnds hrunning (htable' htable) hkind hends
  | baseNotRecord hrunning htable hkind hgoes hbase =>
      exact .baseNotRecord hrunning (htable' htable) hkind hgoes hbase
  | cancelledMeanwhile hrunning htable hkind hbase hcancelled =>
      exact .cancelledMeanwhile hrunning (htable' htable) hkind hbase hcancelled
  | changeNotRecord hrunning htable hkind hbase hrunning' hchanges hchange =>
      exact .changeNotRecord hrunning (htable' htable) hkind hbase hrunning' hchanges hchange
  | snapshot hrunning htable hbase hrunning' hchanges =>
      exact .snapshot hrunning (htable' htable) hbase hrunning' hchanges
  | updated hrunning htable hbase hrunning' hchanges hupdate =>
      refine .updated hrunning (htable' htable) hbase hrunning' hchanges ?_
      simp [CallHost.recorded, hupdate]

theorem Outcome.actsOfRun_eq (h : Outcome host stage args s r acts) :
    actsOfRun host stage args s = acts := by
  rw [actsOfRun, (h.recorded []).runCall_eq]
  exact List.nil_append acts

variable (host stage args s)

/-- Every run has an outcome. -/
theorem exists_outcome : ∃ r acts, Outcome host stage args s r acts := by
  cases hcancelled : host.isCancelled s with
  | true => exact ⟨_, _, .cancelledAtOnce hcancelled⟩
  | false =>
      obtain ⟨v, s', htable⟩ : ∃ v s', args.table s = (v, s') := ⟨_, _, rfl⟩
      by_cases hends : v.EndsCall
      · exact ⟨_, _, .tableEnds hcancelled htable hends⟩
      by_cases hkind : v.kind = .table
      · by_cases hbends : args.base.EndsCall
        · exact ⟨_, _, .baseEnds hcancelled htable hkind hbends⟩
        by_cases hbase : args.base.kind = .record
        · cases hcancelled' : host.isCancelled s' with
          | true => exact ⟨_, _, .cancelledMeanwhile hcancelled htable hkind hbase hcancelled'⟩
          | false =>
              rcases records_or_first_not_record args.changes with
                ⟨records, hchanges⟩ | ⟨records, w, rest, hchanges, hw⟩
              · obtain ⟨base, hb⟩ := Value.eq_record_of_kind _ hbase
                cases v <;> simp [Value.kind] at hkind
                · exact ⟨_, _, .snapshot hcancelled htable hbase hcancelled' hchanges⟩
                · exact ⟨_, _, .updated hcancelled htable hb hcancelled' hchanges rfl⟩
              · exact ⟨_, _, .changeNotRecord hcancelled htable hkind hbase hcancelled' hchanges hw⟩
        · exact ⟨_, _, .baseNotRecord hcancelled htable hkind hbends hbase⟩
      · exact ⟨_, _, .notTable hcancelled htable hends hkind⟩

/-- A run and its acts are an outcome. -/
theorem outcome_runCall :
    Outcome host stage args s (runCall host stage args s) (actsOfRun host stage args s) := by
  obtain ⟨r, acts, h⟩ := exists_outcome host stage args s
  rw [h.runCall_eq, h.actsOfRun_eq]
  exact h

end

/-- How a fresh call ends and what it does before: exactly what the outcomes say. -/
theorem outcome_iff_runCall
    {σ : Type}
    (host : CallHost σ)
    (args : CallArguments σ)
    (s : σ)
    (r : Run σ)
    (acts : List Act) :
    Outcome host .start args s r acts ↔
      runCall host .start args s = r ∧ actsOfRun host .start args s = acts := by
  constructor
  · intro h
    exact ⟨h.runCall_eq, h.actsOfRun_eq⟩
  · rintro ⟨rfl, rfl⟩
    exact outcome_runCall host .start args s

end RowPatch
