import SchemaGuards.Text.Blank
import SchemaGuards.Text.Digit

/-!
# Strings that convert

A string converts to a number when it writes one: blanks, an optional sign, digits with an
optional point before, between or after them, an optional exponent, blanks. Digits of every
script count. A string converts to a truth value when it is `true` or `false` in any case
of its letters.
-/

namespace SchemaGuards.Check

open Text

/-- Drop one leading sign. -/
def dropSign : List Char → List Char
  | '+' :: rest => rest
  | '-' :: rest => rest
  | cs => cs

/-- What follows the digits of a mantissa: digits with an optional fraction, or a point and
digits. -/
def afterMantissa? (cs : List Char) : Option (List Char) :=
  match cs with
  | '.' :: rest =>
    if rest.head?.any isDecimalDigit then some (rest.dropWhile isDecimalDigit) else none
  | _ =>
    if cs.head?.any isDecimalDigit then
      match cs.dropWhile isDecimalDigit with
      | '.' :: rest => some (rest.dropWhile isDecimalDigit)
      | rest => some rest
    else none

/-- What follows an optional exponent; an exponent mark must be followed by digits. -/
def afterExponent? (cs : List Char) : Option (List Char) :=
  match cs with
  | mark :: rest =>
    if mark = 'e' || mark = 'E' then
      let digits := dropSign rest
      if digits.head?.any isDecimalDigit then some (digits.dropWhile isDecimalDigit) else none
    else some cs
  | [] => some []

/-- The characters write a number. -/
def isNumeral (cs : List Char) : Bool :=
  match afterMantissa? (dropSign (cs.dropWhile isBlank)) with
  | some rest =>
    match afterExponent? rest with
    | some rest => rest.all isBlank
    | none => false
  | none => false

/-- The characters write a truth value. -/
def isTruthWord (cs : List Char) : Bool :=
  let lower := cs.map Char.toLower
  lower == ['t', 'r', 'u', 'e'] || lower == ['f', 'a', 'l', 's', 'e']

example : isNumeral [' ', '3', 'e', '2', ' '] = true := by decide +kernel

example : isNumeral ['1', 'x'] = false := by decide +kernel

end SchemaGuards.Check
