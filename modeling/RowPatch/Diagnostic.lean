import RowPatch.Json

/-!
# Diagnostics

What is reported about the arguments of a call, and the reports that collect it.

A diagnostic document is an object, whose names may come in any order among others, or a list of
its parts in order.  The field may be left out or `null`.  A report document is an object whose
`items` are diagnostic documents, or a list that holds just that list.

**Results.**
* `Diagnostic.ofJson?_toJson`: a written diagnostic reads back.
-/

namespace RowPatch

/-- How bad a finding is. -/
inductive Severity where
  | error
deriving DecidableEq

namespace Severity

/-- The written name. -/
def name : Severity → String
  | error => "error"

/-- The severity of a written name. -/
def ofName? (s : String) : Option Severity :=
  if s = "error" then some error else none

end Severity

/-- What is wrong with an argument. -/
inductive DiagnosticKind where
  /-- The call has too few or too many arguments. -/
  | invalidArity
  /-- The first argument is not a table. -/
  | needsTable
  /-- A later argument is not a record. -/
  | needsRecord
  /-- A field is not a column of the table. -/
  | unknownField
  /-- A record cannot be converted to the row type. -/
  | coercionFailed
  /-- A record does not agree with the types of the table. -/
  | incompatibleRecord
  /-- The first argument cannot be written to. -/
  | notMutable
  /-- A change names a column that must not change. -/
  | readOnlyField
deriving DecidableEq

namespace DiagnosticKind

/-- The written name. -/
def name : DiagnosticKind → String
  | invalidArity => "invalidArity"
  | needsTable => "needsTable"
  | needsRecord => "needsRecord"
  | unknownField => "unknownField"
  | coercionFailed => "coercionFailed"
  | incompatibleRecord => "incompatibleRecord"
  | notMutable => "notMutable"
  | readOnlyField => "readOnlyField"

/-- All kinds. -/
def all : List DiagnosticKind :=
  [invalidArity, needsTable, needsRecord, unknownField, coercionFailed, incompatibleRecord,
    notMutable, readOnlyField]

/-- The kind of a written name. -/
def ofName? (s : String) : Option DiagnosticKind := all.find? (fun k => k.name = s)

end DiagnosticKind

/-- One finding about one argument. -/
structure Diagnostic where
  severity : Severity
  /-- The position of the argument, counted from zero. -/
  argument : Nat
  kind : DiagnosticKind
  message : String
  /-- The field that the finding is about, if it is about one. -/
  field? : Option String
deriving DecidableEq

namespace Diagnostic

/-- An error about an argument as a whole. -/
def error (argument : Nat) (kind : DiagnosticKind) (message : String) : Diagnostic :=
  ⟨.error, argument, kind, message, none⟩

/-- An error about one field of an argument. -/
def fieldError (argument : Nat) (kind : DiagnosticKind) (field message : String) : Diagnostic :=
  ⟨.error, argument, kind, message, some field⟩

/-- The finding as it is shown; arguments are counted from one. -/
def text (d : Diagnostic) : String :=
  "argument " ++ toString (d.argument + 1) ++ ": " ++ d.message

/-- The document of a diagnostic. -/
def toJson (d : Diagnostic) : Json :=
  .object ([
    ("severity", .string d.severity.name),
    ("argIndex", .natural d.argument),
    ("kind", .string d.kind.name),
    ("message", .string d.message)] ++
    match d.field? with
    | none => []
    | some f => [("field", .string f)])

/-- The diagnostic of its five parts, the last of which may be absent. -/
def ofParts? (severity argument kind message : Json) (field? : Option Json) :
    Option Diagnostic := do
  let severity ← severity.variant? >>= Severity.ofName?
  let argument ← argument.position?
  let kind ← kind.variant? >>= DiagnosticKind.ofName?
  let message ← message.string?
  let field ← match field? with
    | none => some none
    | some j => j.optionalString?
  some ⟨severity, argument, kind, message, field⟩

/-- Reads a diagnostic document. -/
def ofJson? : Json → Option Diagnostic
  | .object members => do
      let severity ← Json.member? "severity" members
      let argument ← Json.member? "argIndex" members
      let kind ← Json.member? "kind" members
      let message ← Json.member? "message" members
      ofParts? severity argument kind message (Json.member? "field" members)
  | .array [severity, argument, kind, message] => ofParts? severity argument kind message none
  | .array [severity, argument, kind, message, field] =>
      ofParts? severity argument kind message (some field)
  | _ => none

/-- A written diagnostic reads back, when its argument can be written. -/
theorem ofJson?_toJson
    (d : Diagnostic)
    (h : d.argument < Json.positionLimit) :
    ofJson? d.toJson = some d := by
  obtain ⟨severity, argument, kind, message, field⟩ := d
  have hp : (Json.natural argument).position? = some argument := by
    rw [Json.natural, Json.position?, if_pos ⟨Int.natCast_nonneg argument, h⟩]
    rfl
  cases severity
  cases kind <;> cases field <;>
    simp [toJson, ofJson?, ofParts?, Json.member?, Json.variant?, Json.string?,
      Json.optionalString?, hp, Severity.name, Severity.ofName?, DiagnosticKind.name,
      DiagnosticKind.ofName?, DiagnosticKind.all]

end Diagnostic

/-- The findings about one or more calls, in the order in which they were made. -/
structure Report where
  items : List Diagnostic
deriving DecidableEq

namespace Report

/-- The report without findings. -/
def empty : Report := ⟨[]⟩

/-- Adds findings at the end. -/
def add (r : Report) (found : List Diagnostic) : Report := ⟨r.items ++ found⟩

/-- How many findings there are. -/
def size (r : Report) : Nat := r.items.length

/-- Whether there are no findings. -/
def isEmpty (r : Report) : Bool := r.items.isEmpty

/-- Whether some finding is an error. -/
def hasErrors (r : Report) : Bool := r.items.any (fun d => d.severity = .error)

/-- The kinds of the findings, in order. -/
def kinds (r : Report) : List DiagnosticKind := r.items.map Diagnostic.kind

/-- The findings about one argument. -/
def forArgument (r : Report) (argument : Nat) : List Diagnostic :=
  r.items.filter (fun d => d.argument = argument)

/-- The document of a report. -/
def toJson (r : Report) : Json := .object [("items", .array (r.items.map Diagnostic.toJson))]

/-- Reads the list of diagnostic documents in a report document. -/
def itemsOfJson? : Json → Option Report
  | .array items => (items.mapM Diagnostic.ofJson?).map Report.mk
  | _ => none

/-- Reads a report document. -/
def ofJson? : Json → Option Report
  | .object members => Json.member? "items" members >>= itemsOfJson?
  | .array [items] => itemsOfJson? items
  | _ => none

end Report

end RowPatch
