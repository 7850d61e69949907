/-!
# Cancellation tokens

A token asks running calls to stop.  Copies of a token share one flag, so cancelling one of them is
seen by all.
-/

namespace RowPatch

/-- What a cancelled call says. -/
def cancelledMessage : String := "operation cancelled"

/-- Some tokens, numbered in the order in which they were made, and the flags that they share. -/
structure Tokens where
  /-- The flags; `true` once cancelled. -/
  flags : List Bool
  /-- For each token the number of its flag. -/
  holders : List Nat
deriving DecidableEq

namespace Tokens

/-- No tokens. -/
def empty : Tokens := ⟨[], []⟩

/-- Makes a token with a flag of its own. -/
def fresh (t : Tokens) : Tokens := ⟨t.flags ++ [false], t.holders ++ [t.flags.length]⟩

/-- Makes a copy of a token, if there is such a token. -/
def copy (t : Tokens) (token : Nat) : Tokens :=
  { t with holders := t.holders ++ t.holders[token]?.toList }

/-- Cancels a token and its copies. -/
def cancel (t : Tokens) (token : Nat) : Tokens :=
  match t.holders[token]? with
  | none => t
  | some flag => { t with flags := t.flags.set flag true }

/-- Whether the token of a flag is cancelled. -/
def isCancelled (t : Tokens) (flag : Nat) : Bool := t.flags[flag]?.getD false

/-- For each token whether it is cancelled. -/
def states (t : Tokens) : List Bool := t.holders.map t.isCancelled

end Tokens

/-- What checking a token gives: nothing, or what a cancelled call says. -/
def checkToken (cancelled : Bool) : Option String :=
  if cancelled then some cancelledMessage else none

end RowPatch
