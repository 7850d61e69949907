/-!
# Binary floating point numbers

A number is a word of 64 bits: a sign, eleven bits of exponent and fifty-two bits of fraction.  All
that is done with a number here is exact arithmetic on naturals and integers.

**Results.**
* `same_comm`, `same_trans`, `same_self_iff`: numerical equality is symmetric and transitive, and a
  number equals itself unless it is not a number.
-/

namespace RowPatch

/-- A number, as its sixty-four bits. -/
structure Binary64 where
  bits : UInt64
deriving DecidableEq

namespace Binary64

/-- The place of the sign bit, 2^63. -/
def signUnit : Nat := 0x8000000000000000

/-- The place of the lowest exponent bit, 2^52. -/
def exponentUnit : Nat := 0x10000000000000

/-- The bits of the largest exponent, which marks infinities and what is not a number. -/
def maxExponent : Nat := 0x7FF

/-- The sign bit. -/
def negative (x : Binary64) : Bool := decide (signUnit ≤ x.bits.toNat)

/-- The eleven bits of exponent. -/
def exponentBits (x : Binary64) : Nat := x.bits.toNat / exponentUnit % (maxExponent + 1)

/-- The fifty-two bits of fraction. -/
def fraction (x : Binary64) : Nat := x.bits.toNat % exponentUnit

/-- Not a number. -/
def isNaN (x : Binary64) : Bool := decide (x.exponentBits = maxExponent ∧ x.fraction ≠ 0)

/-- An infinity of either sign. -/
def isInfinite (x : Binary64) : Bool := decide (x.exponentBits = maxExponent ∧ x.fraction = 0)

/-- Zero of either sign. -/
def isZero (x : Binary64) : Bool := decide (x.exponentBits = 0 ∧ x.fraction = 0)

/-- The integer `m` of a finite number `± m · 2^q`. -/
def significand (x : Binary64) : Nat :=
  if x.exponentBits = 0 then x.fraction else exponentUnit + x.fraction

/-- The exponent `q` of a finite number `± m · 2^q`. -/
def power (x : Binary64) : Int := max (x.exponentBits : Int) 1 - 1075

/-- Numerical equality: nothing equals what is not a number, and the two zeros are equal. -/
def same (x y : Binary64) : Bool :=
  !x.isNaN && !y.isNaN && (decide (x = y) || (x.isZero && y.isZero))

theorem same_iff (x y : Binary64) :
    x.same y = true ↔
      x.isNaN = false ∧ y.isNaN = false ∧ (x = y ∨ (x.isZero = true ∧ y.isZero = true)) := by
  simp [same, and_assoc]

theorem same_comm (x y : Binary64) : x.same y = y.same x := by
  rw [Bool.eq_iff_iff, same_iff, same_iff]
  constructor
  · rintro ⟨hx, hy, h⟩
    exact ⟨hy, hx, h.imp Eq.symm And.symm⟩
  · rintro ⟨hx, hy, h⟩
    exact ⟨hy, hx, h.imp Eq.symm And.symm⟩

theorem same_trans
    {x y z : Binary64}
    (hxy : x.same y = true)
    (hyz : y.same z = true) :
    x.same z = true := by
  rw [same_iff] at hxy hyz ⊢
  obtain ⟨hx, _, hxy⟩ := hxy
  obtain ⟨_, hz, hyz⟩ := hyz
  refine ⟨hx, hz, ?_⟩
  rcases hxy with rfl | ⟨hx, hy⟩
  · exact hyz
  · rcases hyz with rfl | ⟨_, hz⟩
    · exact Or.inr ⟨hx, hy⟩
    · exact Or.inr ⟨hx, hz⟩

theorem same_self_iff (x : Binary64) : x.same x = true ↔ x.isNaN = false := by
  rw [same_iff]
  exact ⟨fun h => h.1, fun h => ⟨h, h, Or.inl rfl⟩⟩

/-- The number of a sign and the other sixty-three bits. -/
def ofMagnitude (negative : Bool) (magnitude : Nat) : Binary64 :=
  ⟨UInt64.ofNat (if negative then signUnit + magnitude else magnitude)⟩

/-- The bits of infinity without its sign. -/
def infinityBits : Nat := maxExponent * exponentUnit

/-- The quotient rounded to the nearest integer, halves to the even one. -/
def roundHalfEven (num den : Nat) : Nat :=
  let q := num / den
  let r := num % den
  if 2 * r < den then q
  else if den < 2 * r then q + 1
  else q + q % 2

/-- The number nearest to `num / den`, halves to the even one, for a positive `den`.  Fifty-three
bits are kept, or fewer where the exponent is the least possible. -/
def nearest (negative : Bool) (num den : Nat) : Binary64 :=
  if num = 0 then ofMagnitude negative 0
  else
    let quotient (p : Int) : Nat × Nat :=
      (num * Nat.pow 2 (-p).toNat, den * Nat.pow 2 p.toNat)
    let guess : Int := (num.log2 : Int) - den.log2 - 53
    let wide := quotient guess
    let p : Int := max (-1074) (if wide.2 * (2 * exponentUnit) ≤ wide.1 then guess + 1 else guess)
    let kept := roundHalfEven (quotient p).1 (quotient p).2
    ofMagnitude negative (min infinityBits ((p + 1074).toNat * exponentUnit + kept))

/-- The number nearest to an integer. -/
def ofInt (n : Int) : Binary64 := nearest (decide (n < 0)) n.natAbs 1

/-- The number nearest to `digits · 10^(-scale)`.  What is far out of range is not computed. -/
def ofDecimal (negative : Bool) (digits : Nat) (scale : Int) : Binary64 :=
  if digits = 0 then ofMagnitude negative 0
  else if scale < -400 then ofMagnitude negative infinityBits
  else if 400 + (digits.log2 : Int) < scale then ofMagnitude negative 0
  else nearest negative (digits * Nat.pow 10 (-scale).toNat) (Nat.pow 10 scale.toNat)

end Binary64

end RowPatch
