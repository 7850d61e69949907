import RowPatch.Table.Sheet

/-!
# Stores

The tables that calls write to, together with the flag that asks running calls to stop and the log
of what the tables were asked for.  Besides sheets there are responders, tables kept elsewhere that
give the same answer to every update and may ask the running call to stop.
-/

namespace RowPatch

/-- A table kept elsewhere, known by its answer to updates. -/
structure Responder where
  name : String
  reply : Except Fault Record
  /-- Whether an update asks the running call to stop. -/
  cancels : Bool
  updates : Nat

/-- A table that can be written to. -/
inductive Table where
  | sheet (s : Sheet)
  | responder (r : Responder)

namespace Table

/-- The name of a table. -/
def name : Table → String
  | .sheet s => s.name
  | .responder r => r.name

/-- How many updates a table was asked for. -/
def updates : Table → Nat
  | .sheet s => s.updates
  | .responder r => r.updates

/-- The records of a table that shows them. -/
def records? : Table → Option (List Record)
  | .sheet s => some s.records
  | .responder _ => none

end Table

/-- Something worth telling about a run. -/
inductive Event where
  /-- The table of a call was evaluated. -/
  | forced
  /-- A responder was asked for an update. -/
  | update (table : String) (base changes : Record)

/-- The line of an event. -/
def Event.text : Event → String
  | .forced => "forced"
  | .update table base changes => "update " ++ table ++ " " ++ base.text ++ " with " ++ changes.text

/-- Whether the table of a call was evaluated. -/
def Event.isForced : Event → Bool
  | .forced => true
  | .update .. => false

/-- The tables, the flag that stops running calls, and the log. -/
structure Store where
  tables : List Table
  cancelled : Bool
  events : List Event

namespace Store

/-- The store of some tables. -/
def ofTables (tables : List Table) : Store := ⟨tables, false, []⟩

/-- Asks running calls to stop. -/
def cancel (s : Store) : Store := { s with cancelled := true }

/-- Lets calls run again. -/
def renew (s : Store) : Store := { s with cancelled := false }

/-- Empties the log. -/
def quiet (s : Store) : Store := { s with events := [] }

/-- Adds an event to the log. -/
def log (s : Store) (e : Event) : Store := { s with events := s.events ++ [e] }

/-- Asks the table of a reference for an update.  A reference to no table is answered by an
error. -/
def update (s : Store) (id : Nat) (base changes : Record) : Except Fault Record × Store :=
  match s.tables[id]? with
  | none => (.error ⟨.reference, none⟩, s)
  | some (.sheet t) =>
      let r := t.update base changes
      (r.1, { s with tables := s.tables.set id (.sheet r.2) })
  | some (.responder t) =>
      (t.reply,
        { tables := s.tables.set id (.responder { t with updates := t.updates + 1 })
          cancelled := s.cancelled || t.cancels
          events := s.events ++ [.update t.name base changes] })

/-- Adds a row to a sheet. -/
def push (s : Store) (id : Nat) (row : List Value) : Option Fault × Store :=
  match s.tables[id]? with
  | some (.sheet t) =>
      match t.push row with
      | .ok t' => (none, { s with tables := s.tables.set id (.sheet t') })
      | .error f => (some f, s)
  | _ => (some ⟨.reference, none⟩, s)

end Store

end RowPatch
