/-!
# Fractions and their rounding

Sizes are scaled by ratios of sizes.  A ratio is an exact fraction here; the rounding that a
machine applies to it is a function from fractions to fractions, so the same rules can be read with
exact arithmetic or with the arithmetic of double-precision numbers.
-/

namespace ImageChain

/-- A non-negative number. -/
structure Fraction where
  /-- What is divided. -/
  numerator : Nat
  /-- What it is divided by. -/
  denominator : Nat
  deriving DecidableEq, Repr

namespace Fraction

/-- Whether a number is at most another one. -/
def le (first second : Fraction) : Bool :=
  first.numerator * second.denominator ≤ second.numerator * first.denominator

/-- The lesser of two numbers. -/
def min (first second : Fraction) : Fraction :=
  if first.le second then first else second

/-- The greater of two numbers. -/
def max (first second : Fraction) : Fraction :=
  if first.le second then second else first

/-- A number times a natural one. -/
def times (number : Fraction) (factor : Nat) : Fraction :=
  ⟨number.numerator * factor, number.denominator⟩

/-- The nearest natural number; the greater one of two that are equally near. -/
def round (number : Fraction) : Nat :=
  (2 * number.numerator + number.denominator) / (2 * number.denominator)

/-- The nearest natural number; the even one of two that are equally near. -/
def roundEven (number : Fraction) : Nat :=
  let quotient := number.numerator / number.denominator
  let remainder := number.numerator % number.denominator
  if number.denominator < 2 * remainder then quotient + 1
  else if 2 * remainder = number.denominator && quotient % 2 = 1 then quotient + 1
  else quotient

/-- A number times a power of two. -/
def scale (number : Fraction) (exponent : Int) : Fraction :=
  match exponent with
  | .ofNat n => ⟨number.numerator <<< n, number.denominator⟩
  | .negSucc n => ⟨number.numerator, number.denominator <<< (n + 1)⟩

/-- The power of two that brings a positive number between `2 ^ 52` and `2 ^ 53`. -/
def significandScale (number : Fraction) : Int :=
  let exponent : Int := 53 + number.denominator.log2 - number.numerator.log2
  if (⟨1 <<< 53, 1⟩ : Fraction).le (number.scale exponent) then exponent - 1 else exponent

/-- The double-precision number nearest to a number of ordinary magnitude. -/
def nearestDouble (number : Fraction) : Fraction :=
  if number.numerator = 0 then ⟨0, 1⟩
  else
    let exponent := number.significandScale
    (⟨(number.scale exponent).roundEven, 1⟩ : Fraction).scale (-exponent)

end Fraction

end ImageChain
