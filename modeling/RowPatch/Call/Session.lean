import RowPatch.Call.Run
import RowPatch.Table.Store

/-!
# Sessions

A session is a store and one call that is kept between its runs.  The steps of a session cancel,
push rows, ask tables for updates and run calls.
-/

namespace RowPatch

/-- An update that evaluating a table brings about. -/
structure Effect where
  table : Nat
  base : Record
  changes : Record

/-- The first argument of a call in a session. -/
inductive TableSource where
  /-- A value that is there already. -/
  | ready (v : Value)
  /-- An expression with effects that may also ask the call to stop. -/
  | deferred (v : Value) (effects : List Effect) (cancels : Bool)

/-- Asks for the updates of some effects, whatever the answers. -/
def Store.apply (s : Store) (effects : List Effect) : Store :=
  effects.foldl (fun s e => (s.update e.table e.base e.changes).2) s

/-- Evaluates the first argument of a call. -/
def TableSource.force : TableSource → Store → Value × Store
  | .ready v, s => (v, s)
  | .deferred v effects cancels, s =>
      let s' := (s.log .forced).apply effects
      (v, if cancels then s'.cancel else s')

/-- A store runs calls. -/
def storeHost : CallHost Store where
  isCancelled s := s.cancelled
  update ref base changes s := s.update ref.id base changes

/-- A store, and how far the kept call has come. -/
structure Session where
  store : Store
  kept : Stage

/-- One step of a session. -/
inductive Step where
  /-- Asks running calls to stop. -/
  | cancel
  /-- Lets calls run again. -/
  | renew
  | push (table : Nat) (row : List Value)
  | update (table : Nat) (base changes : Record)
  /-- Runs a call, the kept one or a new one. -/
  | call (kept : Bool) (table : TableSource) (base : Value) (changes : List Value)

/-- The answer to a step. -/
inductive Answer where
  | cancelled (now : Bool)
  | pushed (refusal : Option Fault)
  | updated (reply : Except Fault Record)
  | called (answer : Except CallError Value) (stage : Stage) (forced cancelled : Bool)

namespace Session

/-- The session of some tables. -/
def ofTables (tables : List Table) : Session := ⟨.ofTables tables, .start⟩

/-- Runs one step.  The log holds the events of this step afterwards. -/
def step (s : Session) (step : Step) : Answer × Session :=
  let store := s.store.quiet
  match step with
  | .cancel => (.cancelled true, { s with store := store.cancel })
  | .renew => (.cancelled false, { s with store := store.renew })
  | .push table row =>
      let r := store.push table row
      (.pushed r.1, { s with store := r.2 })
  | .update table base changes =>
      let r := store.update table base changes
      (.updated r.1, { s with store := r.2 })
  | .call kept table base changes =>
      let r := runCall storeHost (if kept then s.kept else .start) ⟨table.force, base, changes⟩ store
      (.called r.answer r.stage (r.world.events.any Event.isForced) r.world.cancelled,
        ⟨r.world, if kept then r.stage else s.kept⟩)

/-- Runs steps one after the other. -/
def run (s : Session) (steps : List Step) : Session :=
  steps.foldl (fun s step => (s.step step).2) s

end Session

end RowPatch
