import SchemaGuards.Json.Basic
import SchemaGuards.Decimal.Literal

/-!
# Reading JSON

A strict reader of JSON documents: one value, blanks around it, nothing else. It refuses
raw controls in strings, unpaired surrogate escapes, numbers beyond the range of a double,
and nesting beyond a given depth. Of a repeated key the last value counts, in the place of
the first.

## Implementation notes

Faults are placed by their byte in the text, since columns of JSON faults count bytes. The
recursion is on a budget of steps that the length of the text bounds; `Json.read` supplies
it, and a document never runs out of it.
-/

namespace SchemaGuards.Json

/-- Why a text is not a JSON document. -/
inductive Cause where
  | endInList
  | endInObject
  | endInString
  | endInValue
  | expectedColon
  | expectedListCommaOrEnd
  | expectedObjectCommaOrEnd
  | expectedWord
  | expectedValue
  | invalidEscape
  | invalidNumber
  | numberOutOfRange
  | controlCharacter
  | keyNotString
  | unpairedSurrogate
  | trailingComma
  | trailingCharacters
  | brokenSurrogatePair
  | tooDeep
  deriving DecidableEq, Repr

/-- The wording of a cause. -/
def Cause.message : Cause → String
  | endInList => "EOF while parsing a list"
  | endInObject => "EOF while parsing an object"
  | endInString => "EOF while parsing a string"
  | endInValue => "EOF while parsing a value"
  | expectedColon => "expected `:`"
  | expectedListCommaOrEnd => "expected `,` or `]`"
  | expectedObjectCommaOrEnd => "expected `,` or `\x7d`"
  | expectedWord => "expected ident"
  | expectedValue => "expected value"
  | invalidEscape => "invalid escape"
  | invalidNumber => "invalid number"
  | numberOutOfRange => "number out of range"
  | controlCharacter => "control character (\\u0000-\\u001F) found while parsing a string"
  | keyNotString => "key must be a string"
  | unpairedSurrogate => "lone leading surrogate in hex escape"
  | trailingComma => "trailing comma"
  | trailingCharacters => "trailing characters"
  | brokenSurrogatePair => "unexpected end of hex escape"
  | tooDeep => "recursion limit exceeded"

/-- A cause and the place where it shows. Columns count bytes and start at zero. -/
structure ReadFault where
  cause : Cause
  line : Nat
  column : Nat
  deriving DecidableEq, Repr

/-- The wording of a fault with its place. -/
def ReadFault.message (fault : ReadFault) : String :=
  s!"{fault.cause.message} at line {fault.line} column {fault.column}"

/-- The unread part of a text and the number of bytes before it. -/
structure Cursor where
  rest : List Char
  offset : Nat

/-- A cause and the byte at which reading stopped. -/
structure Stop where
  cause : Cause
  offset : Nat

/-- Readers consume a prefix of the text or stop. -/
abbrev Reader := StateT Cursor (Except Stop)

namespace Reader

variable {α : Type}

/-- The next character, left in place. -/
def peek : Reader (Option Char) := fun s => .ok (s.rest.head?, s)

/-- The next character, consumed. -/
def next : Reader (Option Char) := fun s =>
  match s.rest with
  | [] => .ok (none, s)
  | c :: rest => .ok (some c, ⟨rest, s.offset + c.utf8Size⟩)

/-- Stop at the bytes consumed so far. -/
def stop (cause : Cause) : Reader α := fun s => .error ⟨cause, s.offset⟩

/-- Stop at the character that comes next, or at the end of the text. -/
def stopAtNext (cause : Cause) : Reader α := fun s =>
  .error ⟨cause, if s.rest.isEmpty then s.offset else s.offset + 1⟩

/-- The blanks of JSON. -/
def isSpace (c : Char) : Bool := c == ' ' || c == '\n' || c == '\t' || c == '\r'

/-- Skip blanks and look at the next character. -/
def skipSpace : Reader (Option Char) := fun s =>
  let rest := s.rest.dropWhile isSpace
  .ok (rest.head?, ⟨rest, s.offset + (s.rest.length - rest.length)⟩)

/-- Consume the remaining letters of a word. -/
def word : List Char → Reader Unit
  | [] => pure ()
  | expected :: more => do
    match ← next with
    | none => stop .endInValue
    | some c => if c = expected then word more else stop .expectedWord

/-! ### Numbers -/

/-- The largest significand that is kept exactly. -/
def maxSignificand : Nat := Decimal.twoTo 64 - 1

/-- The largest exponent that is kept exactly. -/
def maxExponent : Nat := Decimal.twoTo 31 - 1

/-- The value of a decimal digit. -/
def digit? (c : Char) : Option Nat :=
  if '0' ≤ c && c ≤ '9' then some (c.toNat - '0'.toNat) else none

/-- Consume digits and return how many. -/
def skipDigits : Reader Nat := fun s =>
  let rest := s.rest.dropWhile Char.isDigit
  let count := s.rest.length - rest.length
  .ok (count, ⟨rest, s.offset + count⟩)

/-- Digits appended to a significand as long as it fits: the significand, how many digits
were taken, and whether a digit was left that no longer fits. -/
def absorb (significand taken : Nat) : List Char → Nat × Nat × Bool
  | [] => (significand, taken, false)
  | c :: rest =>
    match digit? c with
    | none => (significand, taken, false)
    | some d =>
      if maxSignificand < significand * 10 + d then (significand, taken, true)
      else absorb (significand * 10 + d) (taken + 1) rest

/-- Consume digits into a significand as long as it fits. -/
def significandDigits (significand : Nat) : Reader (Nat × Nat × Bool) := fun s =>
  let (value, taken, more) := absorb significand 0 s.rest
  .ok ((value, taken, more), ⟨s.rest.drop taken, s.offset + taken⟩)

/-- A finite floating point number that is whole, as a natural number. -/
def wholeValue (x : Decimal.Binary64) : Nat :=
  match x with
  | .infinite => 0
  | .finite m e => if 0 ≤ e then m * Decimal.twoTo e.toNat else m / Decimal.twoTo (-e).toNat

/-- The significand times the power of ten stays below infinity, where both factors and
their product are rounded to doubles. -/
def inRange (significand : Nat) (exponent : Int) : Bool :=
  significand == 0 || exponent < 0 ||
    (exponent ≤ 308 &&
      wholeValue (Decimal.Binary64.ofFraction significand 1) *
        wholeValue (Decimal.Binary64.ofFraction (Decimal.tenTo exponent.toNat) 1) <
          Decimal.twoTo 1024 - Decimal.twoTo 970)

/-- Accept a number that is in range. -/
def checkRange (significand : Nat) (exponent : Int) : Reader Unit :=
  if inRange significand exponent then pure () else stop .numberOutOfRange

/-- The digits of an exponent after its first one. Past the largest exponent the number is
zero or out of range, whatever follows. -/
def exponentDigits (significand : Nat) (start : Int) (positive : Bool) (exponent : Nat) :
    List Char → Nat → Except Stop (Unit × Cursor)
  | [], offset => checkRange significand (total exponent) ⟨[], offset⟩
  | c :: rest, offset =>
    match digit? c with
    | none => checkRange significand (total exponent) ⟨c :: rest, offset⟩
    | some d =>
      if maxExponent < exponent * 10 + d then
        if significand ≠ 0 && positive then .error ⟨.numberOutOfRange, offset + 1⟩
        else (skipDigits >>= fun _ => pure ()) ⟨rest, offset + 1⟩
      else exponentDigits significand start positive (exponent * 10 + d) rest (offset + 1)
where
  /-- The exponent together with the digits dropped and the places of the fraction. -/
  total (exponent : Nat) : Int := if positive then start + exponent else start - exponent

/-- An exponent mark has been seen: read its sign and digits. -/
def exponentPart (significand : Nat) (start : Int) : Reader Unit := do
  let _ ← next
  let sign ← peek
  let positive := sign != some '-'
  if sign == some '+' || sign == some '-' then
    let _ ← next
  match ← next with
  | none => stop .endInValue
  | some c =>
    match digit? c with
    | none => stop .invalidNumber
    | some d => fun s => exponentDigits significand start positive d s.rest s.offset

/-- Whether the next character marks an exponent. -/
def atExponent : Reader Bool := do
  let c ← peek
  pure (c == some 'e' || c == some 'E')

/-- What follows the digits of a number: an exponent, or nothing. -/
def afterDigits (significand : Nat) (exponent : Int) : Reader Unit := do
  if ← atExponent then exponentPart significand exponent
  else checkRange significand exponent

/-- A point has been seen: read the fraction and an exponent. -/
def fractionPart (significand : Nat) (exponent : Nat) : Reader Unit := do
  let _ ← next
  let (value, taken, more) ← significandDigits significand
  let scale : Int := (exponent : Int) - taken
  if more then
    let _ ← skipDigits
    afterDigits value scale
  else if taken = 0 then
    match ← peek with
    | some _ => stopAtNext .invalidNumber
    | none => stopAtNext .endInValue
  else afterDigits value scale

/-- What follows the whole part of a number. -/
def afterWhole (significand : Nat) (dropped : Nat) : Reader Unit := do
  if (← peek) == some '.' then fractionPart significand dropped
  else if ← atExponent then exponentPart significand dropped
  else checkRange significand dropped

/-- A number without its sign. -/
def unsigned : Reader Unit := do
  match ← next with
  | none => stop .endInValue
  | some c =>
    match digit? c with
    | none => stop .invalidNumber
    | some 0 =>
      match ← peek with
      | some following =>
        if following.isDigit then stopAtNext .invalidNumber else afterWhole 0 0
      | none => afterWhole 0 0
    | some d => do
      let (value, _, more) ← significandDigits d
      if more then
        let dropped ← skipDigits
        afterWhole value dropped
      else afterWhole value 0

/-- A number, as it is written. -/
def number : Reader Json := fun s => do
  let negative := s.rest.head? == some '-'
  let start : Cursor := if negative then ⟨s.rest.tail, s.offset + 1⟩ else s
  let (_, after) ← unsigned start
  pure (.number (String.ofList (s.rest.take (after.offset - s.offset))), after)

/-! ### Strings -/

/-- The number that four hexadecimal digits write. -/
def hexEscape : Reader Nat := fun s =>
  let digits := s.rest.take 4
  if digits.length = 4 && digits.all (Decimal.isDigitOf 16) then
    .ok (Decimal.ofDigits 16 digits, ⟨s.rest.drop 4, s.offset + 4⟩)
  else
    let remaining := s.rest.foldl (fun n c => n + c.utf8Size) 0
    if remaining < 4 then .error ⟨.endInString, s.offset + remaining⟩
    else .error ⟨.invalidEscape, s.offset + 4⟩

/-- One of the two characters `\u` that must open the second half of a surrogate pair. -/
def pairMark (expected : Char) : Reader Unit := do
  match ← peek with
  | none => stop .endInString
  | some c =>
    if c = expected then
      let _ ← next
    else stopAtNext .brokenSurrogatePair

/-- The character of a `\u` escape: one unit, or two that form a surrogate pair. -/
def unicodeEscape : Reader Char := do
  let first ← hexEscape
  if 0xdc00 ≤ first && first ≤ 0xdfff then stop .unpairedSurrogate
  else if first < 0xd800 || 0xdbff < first then pure (Char.ofNat first)
  else do
    pairMark '\\'
    pairMark 'u'
    let second ← hexEscape
    if second < 0xdc00 || 0xdfff < second then stop .unpairedSurrogate
    else pure (Char.ofNat ((first - 0xd800) * 0x400 + (second - 0xdc00) + 0x10000))

/-- The character that an escape stands for; the backslash has been consumed. -/
def escape : Reader Char := do
  match ← next with
  | none => stop .endInString
  | some '"' => pure '"'
  | some '\\' => pure '\\'
  | some '/' => pure '/'
  | some 'b' => pure '\x08'
  | some 'f' => pure '\x0c'
  | some 'n' => pure '\n'
  | some 'r' => pure '\r'
  | some 't' => pure '\t'
  | some 'u' => unicodeEscape
  | some _ => stop .invalidEscape

/-- The characters of a string up to its closing quote, gathered in reverse. -/
def stringTail : Nat → List Char → Reader String
  | 0, _ => stop .endInString
  | budget + 1, gathered => do
    match ← next with
    | none => stop .endInString
    | some '"' => pure (String.ofList gathered.reverse)
    | some '\\' => do
      let c ← escape
      stringTail budget (c :: gathered)
    | some c =>
      if c.toNat < 0x20 then stop .controlCharacter
      else stringTail budget (c :: gathered)

/-- A string whose opening quote comes next. -/
def string : Reader String := do
  let _ ← next
  fun s => stringTail (s.rest.length + 1) [] s

/-! ### Values -/

mutual

/-- One value, blanks before it skipped. Lists and objects may nest below it as deep as the
second argument says. -/
def value : Nat → Nat → Reader Json
  | 0, _ => stop .tooDeep
  | budget + 1, depth => do
    match ← skipSpace with
    | none => stopAtNext .endInValue
    | some 'n' => do
      let _ ← next
      word ['u', 'l', 'l']
      pure .null
    | some 't' => do
      let _ ← next
      word ['r', 'u', 'e']
      pure (.bool true)
    | some 'f' => do
      let _ ← next
      word ['a', 'l', 's', 'e']
      pure (.bool false)
    | some '"' => do
      let content ← string
      pure (.text content)
    | some '[' =>
      match depth with
      | 0 => stopAtNext .tooDeep
      | depth + 1 => do
        let _ ← next
        if (← skipSpace) == some ']' then
          let _ ← next
          pure (.list [])
        else do
          let items ← items budget depth
          pure (.list items)
    | some '\x7b' =>
      match depth with
      | 0 => stopAtNext .tooDeep
      | depth + 1 => do
        let _ ← next
        match ← skipSpace with
        | none => stopAtNext .endInObject
        | some '\x7d' =>
          let _ ← next
          pure (.object [])
        | some '"' => do
          let entries ← entries budget depth []
          pure (.object entries)
        | some _ => stopAtNext .keyNotString
    | some c =>
      if c == '-' || c.isDigit then number else stopAtNext .expectedValue

/-- The items of a list from the next one to the closing bracket. -/
def items : Nat → Nat → Reader (List Json)
  | 0, _ => stop .tooDeep
  | budget + 1, depth => do
    match ← skipSpace with
    | none => stopAtNext .endInList
    | some _ => do
      let item ← value budget depth
      match ← skipSpace with
      | none => stopAtNext .endInList
      | some ']' => do
        let _ ← next
        pure [item]
      | some ',' => do
        let _ ← next
        match ← skipSpace with
        | none => stopAtNext .endInValue
        | some ']' => stopAtNext .trailingComma
        | some _ => do
          let rest ← items budget depth
          pure (item :: rest)
      | some _ => stopAtNext .expectedListCommaOrEnd

/-- The entries of an object from the next key, whose quote comes next, to the closing
brace; `known` are the entries before it. -/
def entries : Nat → Nat → List (String × Json) → Reader (List (String × Json))
  | 0, _, _ => stop .tooDeep
  | budget + 1, depth, known => do
    let key ← string
    match ← skipSpace with
    | none => stopAtNext .endInObject
    | some ':' => do
      let _ ← next
      let content ← value budget depth
      let known := insert key content known
      match ← skipSpace with
      | none => stopAtNext .endInObject
      | some '\x7d' => do
        let _ ← next
        pure known
      | some ',' => do
        let _ ← next
        match ← skipSpace with
        | none => stopAtNext .endInValue
        | some '"' => entries budget depth known
        | some '\x7d' => stopAtNext .trailingComma
        | some _ => stopAtNext .keyNotString
      | some _ => stopAtNext .expectedObjectCommaOrEnd
    | some _ => stopAtNext .expectedColon

end

/-- A whole document: one value with blanks around it. -/
def document (budget depth : Nat) : Reader Json := do
  let content ← value budget depth
  match ← skipSpace with
  | none => pure content
  | some _ => stopAtNext .trailingCharacters

end Reader

/-- The line and column of a byte: lines start after a line feed. -/
def place (cs : List Char) (offset : Nat) : Nat × Nat :=
  go cs 0 1 0
where
  /-- Walk over the characters that start before the byte. -/
  go : List Char → Nat → Nat → Nat → Nat × Nat
    | [], _, line, lineStart => (line, offset - lineStart)
    | c :: rest, here, line, lineStart =>
      if offset ≤ here then (line, offset - lineStart)
      else if c = '\n' then go rest (here + 1) (line + 1) (here + 1)
      else go rest (here + c.utf8Size) line lineStart

/-- Lists and objects may nest this deep in a document. -/
def maxDepth : Nat := 127

/-- Read a document that nests at most as deep as given. -/
def readWithin (depth : Nat) (source : String) : Except ReadFault Json :=
  let cs := source.toList
  match Reader.document (2 * cs.length + 2) depth ⟨cs, 0⟩ with
  | .ok (content, _) => .ok content
  | .error stop =>
    let (line, column) := place cs stop.offset
    .error ⟨stop.cause, line, column⟩

/-- Read a document. -/
def read (source : String) : Except ReadFault Json := readWithin maxDepth source

end SchemaGuards.Json
