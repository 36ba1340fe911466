import SchemaGuards.Syntax.Scan.Word

/-!
# Lexemes

The token that comes next, by its first characters. Operators take as many characters as
they can, but in a type the angle brackets stand alone, so that `>>` closes two lists.
-/

namespace SchemaGuards.Syntax.Scan

/-- Operators and punctuation of more than one character, longer ones before the shorter
ones that they start with. -/
def longMarks : List String :=
  ["...", "===", "!==", "**=", "&&=", "||=", "??=", "=>", "==", "!=", "**", "&&", "||", "??",
    "++", "--", "+=", "-=", "*=", "/=", "%=", "&=", "|=", "^="]

/-- Operators that start with an angle bracket. -/
def angleMarks : List String :=
  [">>>=", "<<=", ">>=", ">>>", "<<", ">>", "<=", ">="]

/-- Marks of one character. -/
def shortMarks : List Char := "{}()[];,<>=!+-*/%&|^~?:.@#".toList

/-- The first of the marks that a text starts with. -/
def markAt? (marks : List String) (cs : List Char) : Option String :=
  marks.find? fun mark => mark.toList.isPrefixOf cs

/-- The mark that a text starts with. -/
def markOf? (inType : Bool) (cs : List Char) : Option String :=
  let long := if inType then longMarks else angleMarks ++ longMarks
  match markAt? long cs with
  | some mark => some mark
  | none =>
    match cs with
    | c :: _ => if shortMarks.contains c then some (String.singleton c) else none
    | [] => none

/-- A line that is noted and skipped, or that keeps a token from being read. -/
structure StrayLine where
  cause : Cause
  /-- No token is read behind the line. -/
  isFatal : Bool

/-- The stray line that a text starts with: a comment in the style of markup, or what a failed
merge left behind. Angle brackets open none in a type. -/
def strayLine? (inType fresh : Bool) (cs : List Char) : Option StrayLine :=
  let starts (text : String) : Bool := text.toList.isPrefixOf cs
  if !inType && starts "<!--" then some ⟨.markupComment, false⟩
  else if !fresh then none
  else if starts "-->" then some ⟨.markupComment, false⟩
  else if !inType && (starts "<<<<<<< " || starts ">>>>>>> ") then some ⟨.conflictMarker, false⟩
  else if starts "=======" then some ⟨.conflictMarker, false⟩
  else if starts "||||||| " then some ⟨.conflictMarker, true⟩
  else none

/-- The token of a word, a literal or a mark. -/
def plainToken (inType : Bool) (cs : List Char) : Scan Token := do
  match cs with
  | [] => stop .endOfText (← place)
  | c :: rest =>
    if Text.isNameStart c || c = '\\' then word
    else if c = '"' || c = '\'' then string c
    else if '0' ≤ c && c ≤ '9' then number
    else if c = '.' && rest.head?.any (Decimal.isDigitOf 10) then number
    else if c = '`' then
      skip 1
      return .mark "`"
    else
      match markOf? inType cs with
      | some mark =>
        skip mark.length
        return .mark mark
      | none =>
        let start ← place
        skip 1
        stop (.strayCharacter c) start

/-- The token that comes next, none at the end, and whether a line break stands before it. Stray
lines are noted and skipped. -/
def token (inType : Bool) : Nat → Bool → Scan (Option Token × Bool)
  | 0, fresh => return (some (← brokenAt ⟨.exhausted, ← place⟩), fresh)
  | budget + 1, fresh => do
    let cs ← following
    if cs.isEmpty then return (none, fresh)
    match strayLine? inType fresh cs with
    | none => return (some (← settled (plainToken inType cs)), fresh)
    | some line =>
      let start ← place
      note line.cause start
      let (again, fault) ← gap .lineComment
      match fault with
      | some fault => return (some (← brokenAt fault), fresh || again)
      | none =>
        if line.isFatal then
          return (some (← brokenAt ⟨line.cause, start⟩), fresh || again)
        token inType budget (fresh || again)

/-- The length of the body of a regular expression with its closing slash. A slash in a
class of characters does not close it. -/
def regexLength? : List Char → Bool → Option Nat
  | [], _ => none
  | '\\' :: c :: rest, inClass =>
    if isLineBreak c then none else (regexLength? rest inClass).map (· + 2)
  | c :: rest, inClass =>
    if isLineBreak c then none
    else if c = '/' && !inClass then some 1
    else if c = '[' then (regexLength? rest true).map (· + 1)
    else if c = ']' then (regexLength? rest false).map (· + 1)
    else (regexLength? rest inClass).map (· + 1)

/-- A regular expression; its opening slash comes next. Its flags are a word. -/
def regex : Scan Token := do
  let start ← place
  let before ← following
  skip 1
  match regexLength? (← following) false with
  | none => stop .openRegex start
  | some length =>
    skip length
    let source ← since before
    if !((← peek).any Text.isNameStart) then return .regex source ""
    let (flags, _) ← wordText
    return .regex source flags

end SchemaGuards.Syntax.Scan
