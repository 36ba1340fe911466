import SchemaGuards.Syntax.Scan.Basic

/-!
# Number literals

Decimal literals with fraction and exponent, literals with a radix mark, and big integers.
An underscore may stand between two digits of a run. A leading zero makes a literal of digits
below eight an octal one, which strict code refuses; big integers may have it.
-/

namespace SchemaGuards.Syntax.Scan

/-- The length of a run of digits with underscores, and whether an underscore is misplaced. The
flag tells that a digit of the run was read. -/
def digitRun (base : Nat) : Bool → List Char → Nat × Bool
  | _, [] => (0, false)
  | started, c :: rest =>
    if c = '_' then
      let (length, misplaced) := digitRun base started rest
      (length + 1, misplaced || !started || !(rest.head?.any (Decimal.isDigitOf base)))
    else if Decimal.isDigitOf base c then
      let (length, misplaced) := digitRun base true rest
      (length + 1, misplaced)
    else (0, false)

/-- Take a run of digits, which may be empty. -/
def digits (base : Nat) : Scan (List Char) := do
  let start ← place
  let (length, misplaced) := digitRun base false (← following)
  if misplaced then note .misplacedSeparator start
  let cs := (← following).take length
  skip length
  return cs

/-- Take a run of digits with at least one digit. -/
def someDigits (base : Nat) : Scan (List Char) := do
  let start ← place
  let cs ← digits base
  if cs.all (· = '_') then stop (.digitExpected base) start
  return cs

/-- A name must not follow a number at once. -/
def endOfNumber : Scan Unit := do
  match ← peek with
  | some c => if Text.isNameStart c then stop .nameAfterNumber (← place)
  | none => return

/-- The literal after a radix mark. -/
def radixNumber (base : Nat) (before : List Char) : Scan Token := do
  skip 2
  let _ ← someDigits base
  if ← eat 'n' then return .bigint (← since before)
  endOfNumber
  return .number (← since before)

/-- The fraction and the exponent of a decimal literal. -/
def fractionAndExponent (before : List Char) : Scan Token := do
  if ← eat '.' then
    let _ ← digits 10
  let mark ← peek
  if mark = some 'e' || mark = some 'E' then
    skip 1
    match ← peek with
    | none => stop .exponentExpected (← place)
    | some c => if c = '+' || c = '-' then skip 1
    let _ ← someDigits 10
  endOfNumber
  return .number (← since before)

/-- An octal literal without a radix mark, which is always a fault. -/
def legacyOctal (start : Nat) (before : List Char) : Scan Token := do
  endOfNumber
  note .octalLiteral start
  return .number (← since before)

/-- A literal that starts with a digit. -/
def wholeNumber : Scan Token := do
  let start ← place
  let before ← following
  let whole ← someDigits 10
  let zero := whole.head? = some '0'
  if ← eat 'n' then return .bigint (← since before)
  if zero && whole.length > 1 then
    if whole.all (· = '0') then return ← legacyOctal start before
    if whole.any fun c => c = '8' || c = '9' then note .leadingZero start
    else return ← legacyOctal start before
  fractionAndExponent before

/-- A number literal; a digit comes next, or a point before a digit. -/
def number : Scan Token := do
  let before ← following
  match before with
  | '.' :: _ => fractionAndExponent before
  | '0' :: radix :: _ =>
    if radix = 'x' || radix = 'X' then radixNumber 16 before
    else if radix = 'o' || radix = 'O' then radixNumber 8 before
    else if radix = 'b' || radix = 'B' then radixNumber 2 before
    else wholeNumber
  | _ => wholeNumber

end SchemaGuards.Syntax.Scan
