import SchemaGuards.Decimal.Shortest

/-!
# Values of number literals

A number literal is decimal, with an optional fraction and exponent, or it has a radix
mark `0x`, `0o` or `0b`. Underscores between digits do not count.
-/

namespace SchemaGuards.Decimal

/-- The value of a digit in any base up to sixteen. -/
def digitValue? (c : Char) : Option Nat :=
  if '0' ≤ c && c ≤ '9' then some (c.toNat - '0'.toNat)
  else if 'a' ≤ c && c ≤ 'f' then some (c.toNat - 'a'.toNat + 10)
  else if 'A' ≤ c && c ≤ 'F' then some (c.toNat - 'A'.toNat + 10)
  else none

/-- A digit of the given base. -/
def isDigitOf (base : Nat) (c : Char) : Bool :=
  match digitValue? c with
  | some d => d < base
  | none => false

/-- The number that digits of a base write, most significant digit first. -/
def ofDigits (base : Nat) (cs : List Char) : Nat :=
  cs.foldl (fun n c => n * base + (digitValue? c).getD 0) 0

/-- The value of a decimal literal: whole part, fraction, exponent. -/
def decimalValue (cs : List Char) : Binary64 :=
  let whole := cs.takeWhile (isDigitOf 10)
  let rest := cs.drop whole.length
  let fraction := match rest with
    | '.' :: tail => tail.takeWhile (isDigitOf 10)
    | _ => []
  let rest := match rest with
    | '.' :: tail => tail.drop fraction.length
    | _ => rest
  let exponent : Int := match rest with
    | _ :: '-' :: tail => -(ofDigits 10 tail : Int)
    | _ :: '+' :: tail => ofDigits 10 tail
    | _ :: tail => ofDigits 10 tail
    | [] => 0
  Binary64.ofScientific (ofDigits 10 (whole ++ fraction)) (exponent - fraction.length)

/-- The value of a number literal as it is written. -/
def literalValue (cs : List Char) : Binary64 :=
  match cs.filter (· != '_') with
  | '0' :: mark :: digits =>
    if mark = 'x' || mark = 'X' then Binary64.ofFraction (ofDigits 16 digits) 1
    else if mark = 'o' || mark = 'O' then Binary64.ofFraction (ofDigits 8 digits) 1
    else if mark = 'b' || mark = 'B' then Binary64.ofFraction (ofDigits 2 digits) 1
    else decimalValue ('0' :: mark :: digits)
  | digits => decimalValue digits

end SchemaGuards.Decimal
