import SchemaGuards.Syntax.Token
import SchemaGuards.Text.Blank
import SchemaGuards.Text.Identifier

/-!
# Scanning

A scan reads characters from a place in the source. It may note a fault and go on, or stop
with one. Between tokens stand blanks, line breaks and comments, which are called a gap here.

## Implementation notes

A stopped scan keeps the place that it reached.
-/

namespace SchemaGuards.Syntax

/-- A place in the source: the characters after it, the number of characters before it, and
the first fault that was noted on the way. -/
structure Cursor where
  rest : List Char
  offset : Nat
  noted : Option Fault := none
  deriving Repr

/-- An action that reads characters. -/
abbrev Scan := EStateM Fault Cursor

/-- A character that ends a line. -/
def isLineBreak (c : Char) : Bool :=
  c = '\n' || c = '\r' || c = '\u2028' || c = '\u2029'

/-- A blank that may stand between tokens. -/
def isSpace (c : Char) : Bool := Text.isBlank c || c = '\uFEFF'

/-- The part of a gap that is being read. -/
inductive Gap where
  | blank
  | lineComment
  /-- A block comment that was opened after the given number of characters. -/
  | blockComment (start : Nat)

/-- What follows a gap. -/
structure AfterGap where
  rest : List Char
  offset : Nat
  /-- A line break was read. -/
  fresh : Bool
  /-- The start of a block comment without an end. -/
  openComment : Option Nat

/-- Read a gap to its end. -/
def skipGap : Gap → Nat → Bool → List Char → AfterGap
  | .blank, offset, fresh, '/' :: '/' :: rest => skipGap .lineComment (offset + 2) fresh rest
  | .blank, offset, fresh, '/' :: '*' :: rest =>
    skipGap (.blockComment offset) (offset + 2) fresh rest
  | .blank, offset, fresh, c :: rest =>
    if isLineBreak c then skipGap .blank (offset + 1) true rest
    else if isSpace c then skipGap .blank (offset + 1) fresh rest
    else ⟨c :: rest, offset, fresh, none⟩
  | .lineComment, offset, fresh, c :: rest =>
    if isLineBreak c then skipGap .blank (offset + 1) true rest
    else skipGap .lineComment (offset + 1) fresh rest
  | .blockComment _, offset, fresh, '*' :: '/' :: rest => skipGap .blank (offset + 2) fresh rest
  | .blockComment start, offset, fresh, c :: rest =>
    skipGap (.blockComment start) (offset + 1) (fresh || isLineBreak c) rest
  | .blockComment start, offset, fresh, [] => ⟨[], offset, fresh, some start⟩
  | _, offset, fresh, [] => ⟨[], offset, fresh, none⟩

namespace Scan

/-- The number of characters before the place. -/
def place : Scan Nat := return (← get).offset

/-- The characters after the place. -/
def following : Scan (List Char) := return (← get).rest

/-- The next character. -/
def peek : Scan (Option Char) := return (← get).rest.head?

/-- Go on by some characters. -/
def skip (count : Nat) : Scan Unit :=
  modify fun s => { s with rest := s.rest.drop count, offset := s.offset + count }

/-- Take the given character if it comes next. -/
def eat (c : Char) : Scan Bool := do
  if (← peek) = some c then skip 1; return true else return false

/-- Take the characters of a class. -/
def takeWhile (p : Char → Bool) : Scan (List Char) := do
  let cs := (← following).takeWhile p
  skip cs.length
  return cs

/-- Stop with a fault that shows after the given number of characters. -/
def stop {α : Type} (cause : Cause) (offset : Nat) : Scan α := throw ⟨cause, offset⟩

/-- Note a fault and go on. -/
def note (cause : Cause) (offset : Nat) : Scan Unit :=
  modify fun s => { s with noted := s.noted <|> some ⟨cause, offset⟩ }

/-- The characters read since an earlier place with the given characters after it. -/
def since (before : List Char) : Scan String := do
  let rest ← following
  return String.ofList (before.take (before.length - rest.length))

/-- Read a gap from one of its parts on. Gives whether it had a line break, and the fault of a
comment without an end. -/
def gap (part : Gap) : Scan (Bool × Option Fault) := do
  let s ← get
  let after := skipGap part s.offset false s.rest
  set { s with rest := after.rest, offset := after.offset }
  return (after.fresh, after.openComment.map (⟨.openComment, ·⟩))

/-- The token that a fault leaves at the place that was reached. -/
def brokenAt (fault : Fault) : Scan Token := return .broken fault (← place)

/-- A token, broken if it cannot be read. -/
def settled (action : Scan Token) : Scan Token := tryCatch action brokenAt

end Scan

end SchemaGuards.Syntax
