import InferenceBatching.Instances

namespace InferenceBatching.Number

/-!
# Rounding to a number of binary digits

Every rounding here goes to the nearest candidate, and a value halfway between
two candidates goes to the even one. `roundQuotient_within_half` bounds the
error of the one primitive that all the others use.
-/

/-- The natural number nearest to a quotient; a tie goes to the even neighbour. -/
def roundQuotient
    (numerator : Nat)
    (denominator : Nat) :
    Nat :=
  let quotient := numerator / denominator
  let twiceRemainder := 2 * (numerator % denominator)
  if twiceRemainder < denominator then
    quotient
  else if denominator < twiceRemainder then
    quotient + 1
  else
    quotient + quotient % 2

/-- A rounded quotient is off by at most half a unit. -/
theorem roundQuotient_within_half
    (numerator denominator : Nat)
    (positive : 0 < denominator) :
    2 * numerator ≤ (2 * roundQuotient numerator denominator + 1) * denominator ∧
      2 * roundQuotient numerator denominator * denominator ≤
        2 * numerator + denominator := by
  have division := Nat.div_add_mod numerator denominator
  have below := Nat.mod_lt numerator positive
  have parity := Nat.mod_two_eq_zero_or_one (numerator / denominator)
  simp only [roundQuotient]
  generalize numerator / denominator = quotient at *
  generalize numerator % denominator = remainder at *
  split
  · constructor <;> grind
  · split
    · constructor <;> grind
    · rcases parity with even | odd
      · rw [even]
        constructor <;> grind
      · rw [odd]
        constructor <;> grind

/-- A natural number rounded to its `precision` leading binary digits. -/
def roundBits
    (precision : Nat)
    (value : Nat) :
    Nat :=
  let excess := value.log2 + 1 - precision
  roundQuotient value (2 ^ excess) * 2 ^ excess

/-- An integer rounded to its `precision` leading binary digits, sign kept. -/
def roundSignedBits
    (precision : Nat)
    (value : Int) :
    Int :=
  if value < 0 then
    -(roundBits precision value.natAbs : Int)
  else
    (roundBits precision value.natAbs : Int)

/-- The number of binary digits of a double-precision significand. -/
def doublePrecision : Nat :=
  53

/-- The number of binary digits of a single-precision significand. -/
def singlePrecision : Nat :=
  24

/-- The least magnitude that no finite double-precision number reaches. -/
def doubleLimit : Nat :=
  2 ^ 1024

/-- The value `numerator / denominator`, kept exact. -/
structure Ratio where
  numerator : Nat
  denominator : Nat
  deriving Repr, DecidableEq

namespace Ratio

/-- Multiply by a power of two that may be negative. -/
def scale
    (ratio : Ratio)
    (twos : Int) :
    Ratio where
  numerator := ratio.numerator * 2 ^ twos.toNat
  denominator := ratio.denominator * 2 ^ (-twos).toNat

/-- The integer nearest to a ratio. -/
def round
    (ratio : Ratio) :
    Nat :=
  roundQuotient ratio.numerator ratio.denominator

/--
The double-precision number nearest to a ratio, as an exact ratio.

The scaling brings the ratio to between `2 ^ 52` and `2 ^ 53`, so rounding it to
an integer keeps exactly the digits that the significand holds. Ratios of
numbers below `2 ^ 64` never leave the range of normal exponents.
-/
def toDouble
    (ratio : Ratio) :
    Ratio :=
  if ratio.numerator = 0 then
    ratio
  else
    let guess : Int :=
      (doublePrecision : Int) - 1 -
        ((ratio.numerator.log2 : Int) - (ratio.denominator.log2 : Int))
    let guessed := ratio.scale guess
    let twos :=
      if guessed.numerator < guessed.denominator * 2 ^ (doublePrecision - 1) then
        guess + 1
      else
        guess
    { numerator := (ratio.scale twos).round, denominator := 1 : Ratio }.scale (-twos)

end Ratio

end InferenceBatching.Number
