import SchemaGuards.Syntax.Scan.Quoted

/-!
# Words

Names and reserved words. A character of a word may be written as a `\u` escape. A word that
starts with one is a name, whatever it spells; elsewhere an escape must not hide a reserved
word.
-/

namespace SchemaGuards.Syntax.Scan

/-- A character of a word that is written as an escape; a backslash comes next. -/
def wordEscape (first : Bool) : Scan (List Char) := do
  let start ← place
  skip 1
  if !(← eat 'u') then stop .unicodeEscapeExpected start
  let cs ← unicodeEscape
  let fits := match cs with
    | [c] => if first then Text.isNameStart c else Text.isNamePart c
    | _ => false
  if !fits then note .invalidNameCharacter start
  return cs

/-- The characters of a word, last first, and whether one was written as an escape. -/
def wordTail : Nat → List Char → Bool → Scan (List Char × Bool)
  | 0, cs, escaped => return (cs, escaped)
  | budget + 1, cs, escaped => do
    let run ← takeWhile Text.isNamePart
    let cs := run.reverse ++ cs
    if (← peek) = some '\\' then
      let more ← wordEscape cs.isEmpty
      wordTail budget (more.reverse ++ cs) true
    else return (cs, escaped)

/-- The text of a word, and whether a character of it was written as an escape. -/
def wordText : Scan (String × Bool) := do
  let (cs, escaped) ← wordTail ((← following).length + 1) [] false
  return (String.ofList cs.reverse, escaped)

/-- A name or a reserved word. -/
def word : Scan Token := do
  let start ← place
  let opening ← peek
  let (text, escaped) ← wordText
  if opening = some '\\' then return .escapedWord text
  if escaped && isReserved text then stop (.escapedReservedWord text) start
  return .word text

end SchemaGuards.Syntax.Scan
