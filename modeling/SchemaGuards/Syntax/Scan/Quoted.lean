import SchemaGuards.Syntax.Scan.Number

/-!
# Strings and templates

Escapes, string literals and the chunks of templates. An escape that writes half of a
surrogate pair stands for its own source text.
-/

namespace SchemaGuards.Syntax.Scan

/-- Hexadecimal digits of an escape. -/
structure HexRun where
  /-- The number of characters, underscores included. -/
  length : Nat := 0
  /-- The number of digits. -/
  count : Nat := 0
  value : Nat := 0
  /-- An underscore does not stand between two digits. -/
  misplaced : Bool := false

/-- The bound on the value of an escape. -/
def hexBound : Nat := Decimal.twoTo 32

/-- Read hexadecimal digits until there are as many as wanted, or their value is out of bounds.
With none wanted, read them all. -/
def hexRun (wanted : Nat) (run : HexRun) : List Char → HexRun
  | [] => run
  | c :: rest =>
    if c = '_' then
      let stray := run.count = 0 || !(rest.head?.any (Decimal.isDigitOf 16))
      hexRun wanted
        { run with length := run.length + 1, misplaced := run.misplaced || stray } rest
    else if Decimal.isDigitOf 16 c then
      let run := { run with
        length := run.length + 1
        count := run.count + 1
        value := run.value * 16 + Decimal.ofDigits 16 [c] }
      if run.count = wanted || run.value ≥ hexBound then run else hexRun wanted run rest
    else run

/-- Take hexadecimal digits, as many as wanted or all; none if they are too few or too many. -/
def hexValue? (wanted : Nat) : Scan (Option Nat) := do
  let start ← place
  let run := hexRun wanted {} (← following)
  if run.misplaced then note .misplacedSeparator start
  skip run.length
  if run.count = 0 || run.count < wanted || run.value ≥ hexBound then return none
  return some run.value

/-- The character of a code point, unless it is half of a surrogate pair. -/
def characterOf? (code : Nat) : Option Char :=
  if code.isValidChar then some (Char.ofNat code) else none

/-- The escape `\xhh` after its mark. -/
def shortHexEscape (start : Nat) : Scan (List Char) := do
  match ← hexValue? 2 with
  | some code => return [Char.ofNat code]
  | none => stop (.shortEscape "2 hex characters") start

/-- Half of a surrogate pair as it is written; its digits are taken again, up to as many as
there may be. -/
def surrogateText (braced : Bool) (before : Cursor) : Scan (List Char) := do
  let text :=
    if braced then (before.rest.take 6).takeWhile (· ≠ '\x7d') else before.rest.take 4
  modify fun s => { s with rest := before.rest, offset := before.offset }
  skip text.length
  return if braced then "\\u\x7b".toList ++ text ++ ['\x7d'] else "\\u".toList ++ text

/-- What an escape `\u` stands for, from after its mark. A fault shows where the reading is. -/
def unicodeEscape : Scan (List Char) := do
  let braced ← eat '\x7b'
  let before ← get
  match ← hexValue? (if braced then 0 else 4) with
  | none =>
    stop (.shortEscape (if braced then "1-6 hex characters" else "4 hex characters")) (← place)
  | some code =>
    if code > 0x10FFFF then
      stop (.shortEscape "1-6 hex characters in the range 0 to 10FFFF.") (← place)
    let cs ← (match characterOf? code with
      | some c => return [c]
      | none => surrogateText braced before)
    if braced && !(← eat '\x7d') then stop .brokenUnicodeEscape before.offset
    return cs

/-- The escapes `\0` to `\377`, of which strict code has only `\0` before no octal digit. -/
def octalEscape (inTemplate : Bool) (start : Nat) : Scan (List Char) := do
  let cs ← following
  let digits := (cs.take 3).takeWhile (Decimal.isDigitOf 8)
  let digits := if Decimal.ofDigits 8 digits > 255 then digits.take 2 else digits
  if digits = ['0'] then
    skip 1
    return ['\x00']
  if inTemplate then stop .octalEscape start
  note .octalEscape start
  skip digits.length
  return [Char.ofNat (Decimal.ofDigits 8 digits)]

/-- An escape; a backslash comes next. An escaped line break stands for nothing. -/
def escape (inTemplate : Bool) : Scan (List Char) := do
  let start ← place
  skip 1
  match ← peek with
  | none => stop .brokenEscape start
  | some c =>
    match c with
    | 'n' => skip 1; return ['\n']
    | 'r' => skip 1; return ['\r']
    | 't' => skip 1; return ['\t']
    | 'b' => skip 1; return ['\x08']
    | 'v' => skip 1; return ['\x0b']
    | 'f' => skip 1; return ['\x0c']
    | '\n' => skip 1; return []
    | '\u2028' => skip 1; return []
    | '\u2029' => skip 1; return []
    | '\r' => skip 1; let _ ← eat '\n'; return []
    | 'x' => skip 1; shortHexEscape start
    | 'u' =>
      skip 1
      tryCatch unicodeEscape fun fault => stop fault.cause start
    | _ =>
      if Decimal.isDigitOf 8 c then octalEscape inTemplate start
      else skip 1; return [c]

/-- The characters of a string up to its closing quote. A line break ends it too, which is
noted. -/
def stringTail (quote : Char) (start : Nat) : Nat → List Char → Scan (List Char)
  | 0, value => return value.reverse
  | budget + 1, value => do
    match ← peek with
    | none =>
      note .openString start
      return value.reverse
    | some c =>
      if c = quote then skip 1; return value.reverse
      else if c = '\n' || c = '\r' then
        note .openString start
        skip 1
        return value.reverse
      else if c = '\\' then
        let cs ← escape false
        stringTail quote start budget (cs.reverse ++ value)
      else
        skip 1
        stringTail quote start budget (c :: value)

/-- A string literal; its quote comes next. -/
def string (quote : Char) : Scan Token := do
  let start ← place
  let before ← following
  skip 1
  let value ← stringTail quote start before.length []
  return .string (String.ofList value) (← since before)

/-- The characters of a template up to its end or to a hole, with the last fault of an
escape. The template started after `start` characters. -/
def chunkTail (start : Nat) : Nat → Option Fault → Scan (Option Fault)
  | 0, fault => return fault
  | budget + 1, fault => do
    match ← following with
    | [] => stop .openTemplate start
    | '`' :: _ => return fault
    | '$' :: '{' :: _ => return fault
    | '\\' :: _ =>
      let found ← tryCatch (do let _ ← escape true; return none) fun f => return some f
      chunkTail start budget (found <|> fault)
    | _ :: _ =>
      skip 1
      chunkTail start budget fault

/-- A chunk of a template. -/
def chunk (start : Nat) : Scan Token := do
  let before ← following
  let fault ← chunkTail start (before.length + 1) none
  return .chunk (← since before) fault

end SchemaGuards.Syntax.Scan
