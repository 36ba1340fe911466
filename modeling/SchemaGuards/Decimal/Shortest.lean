import SchemaGuards.Decimal.Binary64

/-!
# The shortest decimal text of a floating point number

Among the decimal numbers that round to a given floating point number, the text shows one
with the fewest significant digits, and of those the nearest. It is written positionally,
never with an exponent.

## Implementation notes

The numbers that round to `m * 2 ^ e` form an interval around it, whose ends belong to it
when `m` is even. On a grid of step `10 ^ p` only the two neighbours of the number need to
be tried, so the search walks down the grids until one of the two lies in the interval.
-/

namespace SchemaGuards.Decimal

/-- A decimal number `digits * 10 ^ exponent`. -/
structure Scientific where
  digits : Nat
  exponent : Int
  deriving DecidableEq, Repr

/-- The numbers that round to one floating point number: with `unit = num / den`, all
multiples of the unit between `low` and `high`, and `value` among them. -/
structure Interval where
  num : Nat
  den : Nat
  low : Nat
  value : Nat
  high : Nat
  /-- The ends belong to the interval. -/
  closed : Bool

namespace Interval

/-- The interval of the floating point number `m * 2 ^ e`, in quarters of its unit. Below a
power of two the lower half of the interval is only half as long. -/
def around (m : Nat) (e : Int) : Interval :=
  let below := if m = twoTo 52 && -1074 < e then 1 else 2
  let scale : Int := e - 2
  { num := if 0 ≤ scale then twoTo scale.toNat else 1
    den := if 0 ≤ scale then 1 else twoTo (-scale).toNat
    low := 4 * m - below
    value := 4 * m
    high := 4 * m + 2
    closed := m % 2 == 0 }

/-- The grid point nearest to the value among those of `10 ^ p` that lie in the interval. -/
def gridPoint? (i : Interval) (p : Int) : Option Nat :=
  let grow := if p < 0 then tenTo (-p).toNat * i.num else i.num
  let step := if p < 0 then i.den else tenTo p.toNat * i.den
  let value := i.value * grow
  let below := value / step
  let inside (k : Nat) : Bool :=
    if i.closed then i.low * grow ≤ k * step && k * step ≤ i.high * grow
    else i.low * grow < k * step && k * step < i.high * grow
  let above := below + 1
  match inside below, inside above with
  | true, true => some (if value - below * step ≤ above * step - value then below else above)
  | true, false => some below
  | false, true => some above
  | false, false => none

/-- The first hit on the grids `10 ^ p`, `10 ^ (p - 1)`, and so on, at most `count` of them. -/
def search (i : Interval) : Nat → Int → Option Scientific
  | 0, _ => none
  | count + 1, p =>
    match i.gridPoint? p with
    | some digits => some ⟨digits, p⟩
    | none => search i count (p - 1)

end Interval

/-- The shortest decimal number that rounds to `m * 2 ^ e`. Seventeen digits always suffice. -/
def shortest (m : Nat) (e : Int) : Scientific :=
  if m = 0 then ⟨0, 0⟩
  else
    let top := ((Nat.log2 m : Int) + e) * 30103 / 100000 + 2
    ((Interval.around m e).search 21 top).getD ⟨m * twoTo e.toNat, 0⟩

namespace Scientific

/-- The positional text of a decimal number: no exponent, and a point only between digits. -/
def positional (s : Scientific) : List Char :=
  let digits := Nat.toDigits 10 s.digits
  if 0 ≤ s.exponent then
    if s.digits = 0 then ['0'] else digits ++ List.replicate s.exponent.toNat '0'
  else
    let places := (-s.exponent).toNat
    let padded := List.replicate (places + 1 - digits.length) '0' ++ digits
    padded.take (padded.length - places) ++ '.' :: padded.drop (padded.length - places)

end Scientific

namespace Binary64

/-- The shortest positional text that reads back as the number, or `inf`. -/
def text : Binary64 → String
  | infinite => "inf"
  | finite m e => String.ofList (shortest m e).positional

end Binary64

end SchemaGuards.Decimal
