/-!
# JSON documents

The documents that settings and diagnostics are read from and written to.  Whole numbers are kept
apart from numbers written with a fraction or an exponent, since only the former can be positions.
-/

namespace RowPatch

/-- A JSON document. -/
inductive Json where
  | null
  | bool (b : Bool)
  /-- A number written as digits only. -/
  | whole (n : Int)
  /-- Any other number: `digits · 10^(-scale)`, with its sign. -/
  | decimal (negative : Bool) (digits : Nat) (scale : Int)
  | string (s : String)
  | array (items : List Json)
  | object (members : List (String × Json))

namespace Json

instance : Inhabited Json := ⟨null⟩

/-- Whether the document is `null`. -/
def isNull : Json → Bool
  | null => true
  | _ => false

/-- The document under a name among the members of an object. -/
def member? (name : String) : List (String × Json) → Option Json
  | [] => none
  | (n, j) :: rest => if n = name then some j else member? name rest

/-- A truth value. -/
def bool? : Json → Option Bool
  | bool b => some b
  | _ => none

/-- A text. -/
def string? : Json → Option String
  | string s => some s
  | _ => none

/-- Positions lie below 2^64. -/
def positionLimit : Nat := 0x10000000000000000

/-- A position: a whole number that is not negative and below the limit. -/
def position? : Json → Option Nat
  | whole n => if 0 ≤ n ∧ n.toNat < positionLimit then some n.toNat else none
  | _ => none

/-- A text that may be absent: `null` is the absent one. -/
def optionalString? : Json → Option (Option String)
  | null => some none
  | string s => some (some s)
  | _ => none

/-- A name out of a fixed set, written as a string or as an object that maps it to `null`. -/
def variant? : Json → Option String
  | string s => some s
  | object [(name, null)] => some name
  | _ => none

/-- The document of a list of texts. -/
def strings (l : List String) : Json := array (l.map string)

/-- The document of a number that counts or numbers something. -/
def natural (n : Nat) : Json := whole n

end Json

end RowPatch
