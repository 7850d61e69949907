import RowPatch.Number.Binary64

/-!
# The shortest decimal of a number

A finite number other than zero is nearer to some decimals than any other number is; among these
the text of the number is one with the fewest digits.  Of two such decimals next to the number the
nearer one is taken, and halfway between them the one farther from zero.

The number and the two ends of its interval are written over one power of ten, so that the search
for the coarsest decimal grid that meets the interval runs on naturals.
-/

namespace RowPatch

/-- The number `digits · 10^exponent`. -/
structure Decimal where
  digits : Nat
  exponent : Int
deriving DecidableEq

/-- The reals that round to a number: `lower` to `upper` over `10^scale`, around `value`. -/
structure Rounding where
  lower : Nat
  value : Nat
  upper : Nat
  /-- Whether the ends belong to the interval. -/
  closed : Bool
  scale : Nat

namespace Rounding

/-- Whether `x` over `10^scale` rounds to the number. -/
def holds (r : Rounding) (x : Nat) : Bool :=
  if r.closed then decide (r.lower ≤ x ∧ x ≤ r.upper)
  else decide (r.lower < x ∧ x < r.upper)

/-- The multiple of `10^j` that is taken for the number, over the coarsest grid from `10^j` down
that meets the interval. -/
def search (r : Rounding) : Nat → Decimal
  | 0 => ⟨r.value, -(r.scale : Int)⟩
  | j + 1 =>
      let step := Nat.pow 10 (j + 1)
      let below := r.value / step
      let low := r.holds (below * step)
      let high := r.holds ((below + 1) * step)
      if high && (!low || decide (step ≤ 2 * (r.value % step))) then
        ⟨below + 1, (j + 1 : Nat) - (r.scale : Int)⟩
      else if low then ⟨below, (j + 1 : Nat) - (r.scale : Int)⟩
      else search r j

/-- The shortest decimal in the interval. -/
def shortest (r : Rounding) : Decimal := r.search (r.upper.log2 / 3 + 1)

end Rounding

namespace Binary64

/-- The interval of a finite number without its sign.  It reaches half way to either neighbour, and
the neighbour below a power of two is only half as far. -/
def rounding (x : Binary64) : Rounding :=
  let m := x.significand
  let q := x.power - 2
  let gap := if x.fraction = 0 ∧ 1 < x.exponentBits then 1 else 2
  let unit := Nat.pow 2 q.toNat * Nat.pow 5 (-q).toNat
  { lower := (4 * m - gap) * unit
    value := 4 * m * unit
    upper := (4 * m + 2) * unit
    closed := decide (m % 2 = 0)
    scale := (-q).toNat }

end Binary64

namespace Decimal

/-- A decimal in positional notation, without exponent and without a fraction that is zero. -/
def positional (d : Decimal) : String :=
  let ds := Nat.toDigits 10 d.digits
  let zeros (n : Nat) : List Char := List.replicate n '0'
  let places := (-d.exponent).toNat
  String.ofList <|
    if places = 0 then ds ++ zeros d.exponent.toNat
    else if places < ds.length then
      ds.take (ds.length - places) ++ '.' :: ds.drop (ds.length - places)
    else '0' :: '.' :: (zeros (places - ds.length) ++ ds)

end Decimal

/-- The text of a number: the fewest digits that read back, in positional notation. -/
def Binary64.text (x : Binary64) : String :=
  if x.isNaN then "NaN"
  else
    (if x.negative then "-" else "") ++
      if x.isInfinite then "inf"
      else if x.isZero then "0"
      else x.rounding.shortest.positional

end RowPatch
