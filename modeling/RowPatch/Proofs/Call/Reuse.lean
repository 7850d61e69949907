import RowPatch.Call.Session
import RowPatch.Proofs.Call.Outcome

/-!
# Calls that are run again

A call that is kept between its runs keeps the stage it came to.  A run that begins takes it to the
stage that a new call would come to.  A run that is cancelled at once leaves the stage alone, so that
the call then stands where its last run that began had left it, which need not be where a new call
would stand.

**Results.**
* `Occasion.stage_run_of_begins`, `Occasion.stage_run_of_not_begins`: what one run does to the stage.
* `Occasion.stage_run_eq_finished_iff`: a run that begins finishes exactly when it asks for an update.
* `stageAfter_eq`: the stage after many runs is that of the last one that began.
* `Session.kept_run`: the kept call of a session.
* `kept_call_tells_last_run_that_began`: when the stage tells of the latest run.
-/

namespace RowPatch

/-- One run of a call: the arguments, and the host and the world as the run finds them. -/
structure Occasion (σ : Type) where
  host : CallHost σ
  arguments : CallArguments σ
  world : σ

namespace Occasion

variable {σ : Type} (o : Occasion σ)

/-- Whether the run is not cancelled at once. -/
def begins : Bool := !o.host.isCancelled o.world

/-- The run of a call that stands at `stage`. -/
def run (stage : Stage) : Run σ := runCall o.host stage o.arguments o.world

/-- The stage that a new call comes to. -/
def freshStage : Stage := (o.run .start).stage

/-- The run of a call that stands at `stage` asks a table for an update. -/
def Updates (stage : Stage) : Prop :=
  ∃ ref base changes, Act.update ref base changes ∈ actsOfRun o.host stage o.arguments o.world

theorem outcome_run (stage : Stage) :
    Outcome o.host stage o.arguments o.world (o.run stage)
      (actsOfRun o.host stage o.arguments o.world) :=
  outcome_runCall o.host stage o.arguments o.world

variable {o}

/-- A run that begins takes the call to where a new call would be. -/
theorem stage_run_of_begins
    (hbegins : o.begins = true)
    (stage : Stage) :
    (o.run stage).stage = o.freshStage := by
  have hrunning : o.host.isCancelled o.world = false := by simpa [begins] using hbegins
  simp [freshStage, run, runCall, hrunning]

/-- A run that is cancelled at once leaves the call where it stood. -/
theorem stage_run_of_not_begins
    (hbegins : o.begins = false)
    (stage : Stage) :
    (o.run stage).stage = stage := by
  have hcancelled : o.host.isCancelled o.world = true := by simpa [begins] using hbegins
  simp [run, runCall, hcancelled]

/-- A run that is cancelled at once asks for no update. -/
theorem not_updates_of_not_begins
    (hbegins : o.begins = false)
    (stage : Stage) :
    ¬ o.Updates stage := by
  have hcancelled : o.host.isCancelled o.world = true := by simpa [begins] using hbegins
  have hacts : actsOfRun o.host stage o.arguments o.world = [] :=
    (Outcome.cancelledAtOnce hcancelled).actsOfRun_eq
  simp [Updates, hacts]

/-- A new call leaves the start exactly when its run begins. -/
theorem freshStage_eq_start_iff : o.freshStage = .start ↔ o.begins = false := by
  constructor
  · intro hstart
    have houtcome := o.outcome_run .start
    rw [freshStage] at hstart
    generalize o.run .start = run at houtcome hstart
    generalize actsOfRun o.host .start o.arguments o.world = acts at houtcome
    cases houtcome with
    | cancelledAtOnce hcancelled => simp [begins, hcancelled]
    | _ => exact absurd hstart (by simp)
  · intro hbegins
    exact stage_run_of_not_begins hbegins .start

/-- A run that begins finishes exactly when it asks for an update. -/
theorem stage_run_eq_finished_iff
    (hbegins : o.begins = true)
    (stage : Stage) :
    (o.run stage).stage = .finished ↔ o.Updates stage := by
  have hrunning : o.host.isCancelled o.world = false := by simpa [begins] using hbegins
  have houtcome := o.outcome_run stage
  rw [Updates]
  generalize o.run stage = run at houtcome ⊢
  generalize actsOfRun o.host stage o.arguments o.world = acts at houtcome ⊢
  cases houtcome with
  | cancelledAtOnce hcancelled => exact absurd (hrunning.symm.trans hcancelled) (by simp)
  | updated => simp
  | _ => simp

end Occasion

section

variable {σ : Type}

/-- Where a call stands after runs on some occasions, one after the other. -/
def stageAfter (stage : Stage) (occasions : List (Occasion σ)) : Stage :=
  occasions.foldl (fun stage o => (o.run stage).stage) stage

/-- Where a new call comes to on the last of some occasions on which it begins, and `stage` if there
is none. -/
def lastBegun (stage : Stage) (occasions : List (Occasion σ)) : Stage :=
  ((occasions.reverse.find? Occasion.begins).map Occasion.freshStage).getD stage

theorem stageAfter_concat
    (stage : Stage)
    (earlier : List (Occasion σ))
    (o : Occasion σ) :
    stageAfter stage (earlier ++ [o]) = (o.run (stageAfter stage earlier)).stage := by
  simp [stageAfter]

/-- A call that was run many times stands where the last run that began has left it. -/
theorem stageAfter_eq (occasions : List (Occasion σ)) :
    ∀ stage : Stage, stageAfter stage occasions = lastBegun stage occasions := by
  induction occasions with
  | nil => exact fun stage => rfl
  | cons o occasions ih =>
      intro stage
      show stageAfter (o.run stage).stage occasions = _
      rw [ih, lastBegun, lastBegun, List.reverse_cons, List.find?_append]
      cases hlater : occasions.reverse.find? Occasion.begins with
      | some p => rfl
      | none =>
          cases hbegins : o.begins with
          | true => simp [hbegins, Occasion.stage_run_of_begins hbegins]
          | false => simp [hbegins, Occasion.stage_run_of_not_begins hbegins]

/-- A call still stands at the start exactly when none of its runs began. -/
theorem stageAfter_eq_start_iff (occasions : List (Occasion σ)) :
    stageAfter .start occasions = .start ↔ ∀ o ∈ occasions, o.begins = false := by
  rw [stageAfter_eq, lastBegun]
  cases hlast : occasions.reverse.find? Occasion.begins with
  | none =>
      have hnone : ∀ o ∈ occasions, o.begins = false := by simpa using hlast
      simpa using hnone
  | some p =>
      have hbegins : p.begins = true := List.find?_some hlast
      have hmem : p ∈ occasions := by simpa using List.mem_of_find?_eq_some hlast
      have hstage : p.freshStage ≠ .start := by
        rw [Ne, Occasion.freshStage_eq_start_iff, hbegins]
        simp
      constructor
      · intro hstart
        exact absurd hstart hstage
      · intro hnone
        exact absurd (hbegins.symm.trans (hnone p hmem)) (by simp)

end

namespace Session

/-- The run of the kept call that a step brings about, if it does. -/
def occasion? (s : Session) : Step → Option (Occasion Store)
  | .call true table base changes =>
      some ⟨storeHost, ⟨table.force, base, changes⟩, s.store.quiet⟩
  | _ => none

/-- The runs of the kept call that steps bring about, in order. -/
def occasions (s : Session) : List Step → List (Occasion Store)
  | [] => []
  | step :: steps => (s.occasion? step).toList ++ (s.step step).2.occasions steps

theorem kept_step
    (s : Session)
    (step : Step) :
    (s.step step).2.kept = stageAfter s.kept (s.occasion? step).toList := by
  cases step with
  | call kept table base changes => cases kept <;> rfl
  | _ => rfl

/-- The kept call of a session stands where its runs have left it, whatever else the steps did. -/
theorem kept_run (steps : List Step) :
    ∀ s : Session, (s.run steps).kept = stageAfter s.kept (s.occasions steps) := by
  induction steps with
  | nil => exact fun s => rfl
  | cons step steps ih =>
      intro s
      show ((s.step step).2.run steps).kept = _
      rw [ih, kept_step, occasions, stageAfter, stageAfter, stageAfter, List.foldl_append]

end Session

/-- After a run that began, the stage of a kept call is the one that a new call would come to, and it is
the last one exactly when the run has asked for its update.  After a run that was cancelled at once,
which has asked for none, the stage is still that of the last run before it that began.  So the stage
tells of the latest run exactly when this run began or none before it did; and the last stage tells of
an update exactly when the run began or the call had not come that far. -/
theorem kept_call_tells_last_run_that_began
    {σ : Type}
    (earlier : List (Occasion σ))
    (o : Occasion σ) :
    let before := stageAfter .start earlier
    let after := stageAfter .start (earlier ++ [o])
    (o.begins = true → after = o.freshStage ∧ (after = .finished ↔ o.Updates before)) ∧
      (o.begins = false →
        o.freshStage = .start ∧ ¬ o.Updates before ∧ after = lastBegun .start earlier) ∧
      (after = o.freshStage ↔ o.begins = true ∨ ∀ p ∈ earlier, p.begins = false) ∧
      ((after = .finished ↔ o.Updates before) ↔ o.begins = true ∨ before ≠ .finished) := by
  intro before after
  have hafter : after = (o.run before).stage := stageAfter_concat .start earlier o
  rw [hafter]
  refine ⟨?begun, ?stopped, ?tellsStage, ?tellsUpdate⟩
  case begun =>
    intro hbegins
    exact ⟨Occasion.stage_run_of_begins hbegins before,
      Occasion.stage_run_eq_finished_iff hbegins before⟩
  case stopped =>
    intro hbegins
    exact ⟨Occasion.freshStage_eq_start_iff.2 hbegins,
      Occasion.not_updates_of_not_begins hbegins before,
      (Occasion.stage_run_of_not_begins hbegins before).trans (stageAfter_eq earlier .start)⟩
  case tellsStage =>
    cases hbegins : o.begins with
    | true => simp [Occasion.stage_run_of_begins hbegins]
    | false =>
        -- a new call is still at the start here, and so is this one if no run has begun
        rw [Occasion.stage_run_of_not_begins hbegins, Occasion.freshStage_eq_start_iff.2 hbegins,
          stageAfter_eq_start_iff]
        simp
  case tellsUpdate =>
    cases hbegins : o.begins with
    | true => simp [Occasion.stage_run_eq_finished_iff hbegins]
    | false =>
        have hquiet := Occasion.not_updates_of_not_begins hbegins before
        rw [Occasion.stage_run_of_not_begins hbegins]
        simp [hquiet]

/-- A call that has updated its table meets a blank in place of the table, and is cancelled at once
after that.  The second run takes it back to the stage of a call without a table, where the third one
leaves it. -/
theorem blank_table_told_after_update :
    let items : Sheet := ⟨"items", ["id"], ∅, [#v[.string "1"]], 0⟩
    let store : Store := .ofTables [.sheet items]
    let base : Value := .record (Record.ofList [("id", .string "1")])
    let change : Value := .record (Record.ofList [("id", .string "2")])
    let updating : Occasion Store :=
      ⟨storeHost, ⟨(TableSource.ready (.table ⟨0, "items"⟩)).force, base, [change]⟩, store⟩
    let blank : Occasion Store :=
      ⟨storeHost, ⟨(TableSource.ready .blank).force, base, [change]⟩, store⟩
    let stopped : Occasion Store := { updating with world := store.cancel }
    updating.begins = true ∧ blank.begins = true ∧ stopped.begins = false ∧
      stageAfter .start [updating] = .finished ∧
      stageAfter .start [updating, blank] = .tableReady ∧ ¬ blank.Updates .finished ∧
      stageAfter .start [updating, blank, stopped] = .tableReady := by
  intro items store base change updating blank stopped
  have hblank := (kept_call_tells_last_run_that_began [updating] blank).1 rfl
  have hstopped := (kept_call_tells_last_run_that_began [updating, blank] stopped).2.1 rfl
  have hstage : stageAfter .start [updating, blank] = .tableReady := hblank.1
  have hquiet : ¬ blank.Updates .finished := fun h => absurd (hstage.symm.trans (hblank.2.2 h)) nofun
  exact ⟨rfl, rfl, rfl, rfl, hstage, hquiet, hstopped.2.2⟩

/-- A session runs its kept call, which updates a table, and runs it again when it is cancelled.  The
second run asks for no update, and a new call would still be at the start, but the kept call stands at
the last stage. -/
theorem cancelled_rerun_tells_earlier_update :
    let items : Sheet := ⟨"items", ["id"], ∅, [#v[.string "1"]], 0⟩
    let base : Value := .record (Record.ofList [("id", .string "1")])
    let change : Value := .record (Record.ofList [("id", .string "2")])
    let call : Step := .call true (.ready (.table ⟨0, "items"⟩)) base [change]
    let session : Session := .ofTables [.sheet items]
    ∃ first again, session.occasions [call, .cancel, call] = [first, again] ∧
      (session.run [call, .cancel, call]).kept = stageAfter .start [first, again] ∧
      stageAfter .start [first, again] = .finished ∧
      again.freshStage = .start ∧ ¬ again.Updates (stageAfter .start [first]) := by
  intro items base change call session
  have hkept := Session.kept_run [call, .cancel, call] session
  exact ⟨_, _, rfl, hkept, rfl, rfl, Occasion.not_updates_of_not_begins rfl _⟩

end RowPatch
