import RowPatch.Binding.TypeHost
import RowPatch.Diagnostic
import RowPatch.Schema.Coercion
import RowPatch.Schema.MissingFields
import RowPatch.Schema.Text

/-!
# Checking the arguments of a call

The first argument has to be a table.  Each later one has to be a record whose fields are columns
of the table and whose types fit the columns or can be converted to them.  An argument is inspected
by itself, against the row type of the table; only then is what it contributes united with the
return type.  A wrong argument count or a first argument that is no table ends the check, all other
faults are reported together.
-/

namespace RowPatch

/-- The outcome of checking the arguments of a call. -/
structure Verdict where
  /-- Whether the call may be made. -/
  valid : Bool
  /-- The type of the row that the call gives; it has a meaning when the call is valid. -/
  returnType : DataType
  /-- The arguments to convert, in order, each with the type to convert it to. -/
  coercions : List (Nat × DataType)
  /-- The findings, in order. -/
  found : List Diagnostic
deriving DecidableEq

namespace Verdict

/-- The verdict on a call that is rejected as a whole. -/
def rejected (d : Diagnostic) : Verdict := ⟨false, .error, [], [d]⟩

/-- The type that an argument has to be converted to, if any. -/
def coercionAt? (v : Verdict) (index : Nat) : Option DataType :=
  (v.coercions.find? (fun c => c.1 = index)).map Prod.snd

/-- The findings about one argument. -/
def foundAt (v : Verdict) (index : Nat) : List Diagnostic :=
  v.found.filter (fun d => d.argument = index)

end Verdict

namespace Diagnostic

/-- The call has a number of arguments that the dialect does not allow. -/
def wrongArity (d : Dialect) (count : Nat) : Diagnostic :=
  .error (count - 1) .invalidArity
    (Dialect.functionName ++ " expects " ++
      (match d.maxArity? with
        | some max => toString Dialect.minArity ++ " to " ++ toString max
        | none => "at least " ++ toString Dialect.minArity) ++
      " arguments, got " ++ toString count)

/-- The first argument is no table. -/
def noTable : Diagnostic :=
  .error 0 .needsTable
    (Dialect.functionName ++ " needs a valid table reference as its first argument")

/-- An argument is no record. -/
def noRecord (index : Nat) (found : DataType) : Diagnostic :=
  .error index .needsRecord ("expected a record, found " ++ found.text)

/-- A field of an argument is no column of the table. -/
def noColumn (index : Nat) (field : String) : Diagnostic :=
  .fieldError index .unknownField field ("the table has no column named '" ++ field ++ "'")

/-- An argument cannot be converted to the row type. -/
def notConvertible (index : Nat) (found : DataType) : Diagnostic :=
  .error index .coercionFailed (found.text ++ " cannot be converted to the table's row type")

/-- A field of an argument does not agree with the column. -/
def columnConflict (index : Nat) (field : String) : Diagnostic :=
  .fieldError index .incompatibleRecord field
    ("column '" ++ field ++ "' has a type incompatible with the table")

/-- An argument as a whole does not agree with the row type. -/
def rowConflict (index : Nat) (found : DataType) : Diagnostic :=
  .error index .incompatibleRecord (found.text ++ " is incompatible with the table's row type")

/-- What is reported when the type that an argument contributes does not unite with the others. -/
def ofConflict (index : Nat) (contribution : DataType) (c : Conflict) : List Diagnostic :=
  match c.fields with
  | [] => [rowConflict index contribution]
  | fields => fields.map (columnConflict index)

end Diagnostic

/-- What the inspection of one argument gives. -/
structure Inspection where
  /-- Whether the argument passes the inspection. -/
  valid : Bool
  /-- The type to convert the argument to, if it has to be converted. -/
  coercion? : Option DataType
  /-- What the argument adds to the return type, if it adds anything. -/
  contribution? : Option DataType
  found : List Diagnostic

/-- Inspects one argument after the table, against the row type of the table. -/
def inspectArgument (d : Dialect) (host : TypeHost) (row : DataType) (index : Nat)
    (arg : DataType) : Inspection :=
  if host.isRecord arg then
    let missing := arg.missingNames row
    let known := missing.isEmpty
    let unknown := missing.map (Diagnostic.noColumn index)
    if row.accepts d .exact arg || !d.coercion then
      ⟨known, none, if known then some arg else none, unknown⟩
    else
      match row.coerce? d arg with
      | some c =>
          ⟨known, if c = arg then none else some c, if known then some c else none, unknown⟩
      | none =>
          ⟨false, none, none, if known then [.notConvertible index arg] else unknown⟩
  else
    ⟨false, none, none, [.noRecord index arg]⟩

/-- What a union reports about the argument that it absorbs. -/
def unionFindings (d : Dialect) (index : Nat) (soFar contribution : DataType) : List Diagnostic :=
  match soFar.union d contribution with
  | .ok _ => []
  | .error c => Diagnostic.ofConflict index contribution c

/-- Adds one more argument to the verdict on those before it. -/
def Verdict.absorb (d : Dialect) (host : TypeHost) (row : DataType) (v : Verdict)
    (arg : DataType × Nat) : Verdict :=
  let i := inspectArgument d host row arg.2 arg.1
  let conflicts :=
    match i.contribution? with
    | none => []
    | some t => unionFindings d arg.2 v.returnType t
  { valid := v.valid && i.valid && conflicts.isEmpty
    returnType :=
      match i.contribution? with
      | none => v.returnType
      | some t => v.returnType.unite d t
    coercions := v.coercions ++ (i.coercion?.map (fun c => (arg.2, c))).toList
    found := v.found ++ i.found ++ conflicts }

/-- Gives the return type the origins that the host sees in the table. -/
def Verdict.addOrigins (v : Verdict) (origins : SortedSet Origin) : Verdict :=
  { v with returnType := v.returnType.addOrigins origins }

/-- The return type before any argument has been seen: a failed table has no columns to give. -/
def initialRow (failed : Bool) (origins : SortedSet Origin) (fields : Fields none) : DataType :=
  if failed then .record ∅ .nil else .record origins fields

/-- Checks the arguments of a call. -/
def checkArguments (d : Dialect) (host : TypeHost) (args : List DataType) : Verdict :=
  if d.acceptsArity args.length then
    match args with
    | .table failed origins fields :: rest =>
        if host.isTable (.table failed origins fields) then
          let start : Verdict := ⟨true, initialRow failed origins fields, [], []⟩
          ((rest.zipIdx 1).foldl (Verdict.absorb d host (.record origins fields)) start).addOrigins
            (host.origins (.table failed origins fields))
        else .rejected .noTable
    | _ => .rejected .noTable
  else .rejected (.wrongArity d args.length)

end RowPatch
