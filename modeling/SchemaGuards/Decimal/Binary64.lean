import SchemaGuards.Decimal.Power

/-!
# Rounding to binary floating point

A non-negative rational number is rounded to the nearest number of the form `m * 2 ^ e`
with `m < 2 ^ 53` and `-1074 ≤ e ≤ 971`, ties to even `m`; what lies beyond the largest
such number by half a unit or more is infinite. All arithmetic is exact arithmetic on
natural numbers.

## Implementation notes

The exponent is fixed first, by comparing the fraction with powers of two, so a single
division with remainder decides the significand.
-/

namespace SchemaGuards.Decimal

/-- A non-negative binary floating point number with a significand of 53 bits. -/
inductive Binary64 where
  /-- The number `significand * 2 ^ exponent`. -/
  | finite (significand : Nat) (exponent : Int)
  /-- Larger than every finite number. -/
  | infinite
  deriving DecidableEq, Repr

/-- The quotient of two numbers rounded to the nearest natural number, ties to even. -/
def roundedQuotient (num den : Nat) : Nat :=
  let q := num / den
  let twice := 2 * (num % den)
  if twice < den then q
  else if den < twice then q + 1
  else if q % 2 = 0 then q else q + 1

/-- The fraction `num / den` divided by `2 ^ e`, as a fraction again. -/
def shifted (num den : Nat) (e : Int) : Nat × Nat :=
  if 0 ≤ e then (num, den * twoTo e.toNat) else (num * twoTo (-e).toNat, den)

/-- The largest `k` with `2 ^ k ≤ num / den`. -/
def log2Fraction (num den : Nat) : Int :=
  let k : Int := (Nat.log2 num : Int) - Nat.log2 den
  let scaled := shifted num den k
  if scaled.1 < scaled.2 then k - 1 else k

namespace Binary64

/-- The number zero. -/
def zero : Binary64 := finite 0 (-1074)

/-- The floating point number nearest to `num / den`. -/
def ofFraction (num den : Nat) : Binary64 :=
  if num = 0 then zero
  else
    let e := max (log2Fraction num den - 52) (-1074)
    let scaled := shifted num den e
    let m := roundedQuotient scaled.1 scaled.2
    let rounded := if m = twoTo 53 then (twoTo 52, e + 1) else (m, e)
    if 971 < rounded.2 then infinite else finite rounded.1 rounded.2

/-- The floating point number nearest to `digits * 10 ^ exponent`. Exponents far outside
the range are decided without computing the power. -/
def ofScientific (digits : Nat) (exponent : Int) : Binary64 :=
  if digits = 0 then zero
  else
    let magnitude := exponent + (Nat.toDigits 10 digits).length
    if 310 < magnitude then infinite
    else if magnitude < -330 then zero
    else if 0 ≤ exponent then ofFraction (digits * tenTo exponent.toNat) 1
    else ofFraction digits (tenTo (-exponent).toNat)

end Binary64

end SchemaGuards.Decimal
