import RowPatch.Call.Token
import RowPatch.Value.Merge

/-!
# Running a call

A call evaluates its table, looks at its base record, merges its change records and asks the table
for one update.  A blank or an error in place of the table or the base record ends the call with
that value.  Cancellation is looked for before the table is evaluated and again before the merge;
nothing after that can bring it about, so an update is asked for only by a call that goes on.
-/

namespace RowPatch

/-- What a call needs of the world around it. -/
structure CallHost (σ : Type) where
  /-- Whether the call is asked to stop. -/
  isCancelled : σ → Bool
  /-- Asks a table to write changes to the row that a base record describes. -/
  update : TableRef → Record → Record → σ → Except Fault Record × σ

/-- The arguments of a call.  The table is evaluated by the call itself, the others are values. -/
structure CallArguments (σ : Type) where
  table : σ → Value × σ
  base : Value
  changes : List Value

/-- How far a call has come. -/
inductive Stage where
  /-- Nothing was done yet. -/
  | start
  /-- The table was evaluated. -/
  | tableReady
  /-- The table and the base record are usable. -/
  | argumentsReady
  /-- The changes were merged. -/
  | merged
  /-- The table has answered. -/
  | finished
deriving DecidableEq

/-- Why a call gives no value. -/
inductive CallError where
  | cancelled
  /-- A change is no record. -/
  | changeNotRecord (e : MergeError)
  /-- The base is no record. -/
  | baseNotRecord (found : ValueKind)
  /-- The first argument is no table. -/
  | notTable (found : ValueKind)
  /-- The table cannot be written to. -/
  | tableNotMutable
deriving DecidableEq

/-- What a failed call says. -/
def CallError.message : CallError → String
  | cancelled => cancelledMessage
  | changeNotRecord e => "internal error: " ++ e.message
  | baseNotRecord found =>
      "internal error: base record is a " ++ found.word ++ ", expected a record"
  | notTable found => "internal error: argument 0 is a " ++ found.word ++ ", expected a table"
  | tableNotMutable => "internal error: table is not mutable"

/-- The outcome of a run. -/
structure Run (σ : Type) where
  answer : Except CallError Value
  stage : Stage
  world : σ

/-- The table that a call writes to, `none` for a snapshot, or the answer that ends the call. -/
def tableArgument : Value → Except (Except CallError Value) (Option TableRef)
  | .table ref => .ok (some ref)
  | .snapshot _ => .ok none
  | .blank => .error (.ok .blank)
  | .fault f => .error (.ok (.fault f))
  | v => .error (.error (.notTable v.kind))

/-- The base record of a call, or the answer that ends the call. -/
def baseArgument : Value → Except (Except CallError Value) Record
  | .record r => .ok r
  | .blank => .error (.ok .blank)
  | .fault f => .error (.ok (.fault f))
  | v => .error (.error (.baseNotRecord v.kind))

/-- The value of an answered update. -/
def replyValue : Except Fault Record → Value
  | .ok r => .record r
  | .error f => .fault f

/-- The change records follow the table and the base record. -/
def firstChange : Nat := 2

/-- Merges the changes and asks the table for the update. -/
def delegate {σ : Type} (host : CallHost σ) (ref? : Option TableRef) (base : Record)
    (changes : List Value) (s : σ) : Run σ :=
  match mergeRecords firstChange changes with
  | .error e => ⟨.error (.changeNotRecord e), .argumentsReady, s⟩
  | .ok merged =>
      match ref? with
      | none => ⟨.error .tableNotMutable, .merged, s⟩
      | some ref =>
          let r := host.update ref base merged s
          ⟨.ok (replyValue r.1), .finished, r.2⟩

/-- Runs a call that stood at `stage`.  A call that is cancelled at once stays where it stood. -/
def runCall {σ : Type} (host : CallHost σ) (stage : Stage) (args : CallArguments σ) (s : σ) :
    Run σ :=
  if host.isCancelled s then ⟨.error .cancelled, stage, s⟩
  else
    let forced := args.table s
    match tableArgument forced.1 with
    | .error answer => ⟨answer, .tableReady, forced.2⟩
    | .ok ref? =>
        match baseArgument args.base with
        | .error answer => ⟨answer, .tableReady, forced.2⟩
        | .ok base =>
            if host.isCancelled forced.2 then ⟨.error .cancelled, .argumentsReady, forced.2⟩
            else delegate host ref? base args.changes forced.2

end RowPatch
