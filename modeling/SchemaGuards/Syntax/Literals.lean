import SchemaGuards.Syntax.Classes

/-!
# Literal expressions

Templates, lists, records and regular expressions.
-/

namespace SchemaGuards.Syntax.Parse

variable (g : Grammar)

/-- An expression with commas; the word `in` is an operator in it. -/
def expression : Parse Expr :=
  within ({ · with inOperator := true }) do
    let first ← g.assignment
    if !(← isMark ",") then return first
    loop do
      if !(← eatMark ",") then return false
      let _ ← g.assignment
      return true
    otherFrom .sequence false first.lo

/-- An expression, or dots with the list that they spread. -/
def itemOrSpread : Parse Element :=
  within ({ · with inOperator := true }) do
    let start ← here
    if ← eatMark "..." then
      let value ← g.assignment
      return .spread value (← spanFrom start)
    else return .item (← g.assignment)

/-- A template literal. The flag admits faulty escapes, which a tag may see. -/
def templateLiteral (admitsFaults : Bool) : Parse Expr := do
  let start ← here
  advance
  templateParts admitsFaults do let _ ← expression g
  expectMark "`"
  otherFrom .template false start

/-- A list of expressions. -/
def listLiteral : Parse Expr := do
  let start ← here
  advance
  let (elements, comma) ← within ({ · with colonDue := false }) <|
    iterate (fun ((elements, comma) : List Element × Option Nat) => do
      if (← atEof) || (← isMark "]") then return ((elements, comma), false)
      if ← eatMark "," then return ((elements ++ [.hole], comma), true)
      let elements := elements ++ [← itemOrSpread g]
      if ← isMark "]" then return ((elements, comma), true)
      expectMark ","
      if ← isMark "]" then return ((elements, some (← previousSpan).lo), true)
      return ((elements, comma), true)) ([], none)
  expectMark "]"
  return .list elements comma (← spanFrom start)

/-- The tokens that may follow the key of a field. -/
def followsKey (key : PropertyName) : Parse Bool := do
  match ← current with
  | some (.word _) => return true
  | some (.escapedWord _) => return true
  | some (.string _ _) => return true
  | some (.number _) => return true
  | some (.bigint _) => return true
  | some (.mark text) =>
    if ["(", "[", ":", ",", "?", "=", "*", "<"].contains text then return true
    else return text = "\x7d" && (key matches .identifier _)
  | _ => return false

/-- A method of a record after one of the words `get`, `set` and `async`. -/
def recordAccessor (start : Nat) (word : String) (modifiers : Option Span) : Parse Field := do
  match modifiers with
  | some span => report .objectModifier span.lo
  | none => pure ()
  let generator ← (do if word = "async" then eatMark "*" else return false)
  let key ← fieldKey g
  let _ ← (match word with
    | "get" => functionTail g (getterParameters g key.span) false false
    | "set" => functionTail g (setterParameters g key.span) false false
    | _ => functionTail g (parameters g) true generator)
  return .method (← spanFrom start)

/-- A field of a record. -/
def recordField : Parse Field := do
  let start ← here
  if ← eatMark "..." then
    let value ← within ({ · with inOperator := true }) g.assignment
    return .spread value (← spanFrom start)
  if ← eatMark "*" then
    let _ ← fieldKey g
    let _ ← functionTail g (parameters g) false true
    return .method (← spanFrom start)
  let modified ← eatParameterModifier
  let modifier ← previousSpan
  let key ← fieldKey g
  if !(← followsKey key.name) then
    reportHere .semicolonExpected
    return .pair (.other .invalid false key.span) key.span
  if ← eatMark ":" then
    let value ← within ({ · with inOperator := true }) g.assignment
    return .pair value (← spanFrom start)
  if ← isMarkOf ["(", "<"] then
    let _ ← functionTail g (parameters g) false false
    return .method (← spanFrom start)
  match key.name with
  | .identifier word =>
    if ← eatMark "?" then report .optionalObjectMember (← previousSpan).lo
    if ← isMarkOf ["=", ",", "\x7d"] then
      if isReserved word then report .shorthandReserved key.span.lo
      if ← eatMark "=" then
        initializer g
        return .default word (← spanFrom key.span.lo)
      return .shorthand word key.span
    else if word = "get" || word = "set" || word = "async" then
      recordAccessor g start word (if modified then some modifier else none)
    else
      unexpected <| "... , *,  (, [, :, , ?, =, an identifier, public, protected, private, " ++
        "readonly, <."
  | _ => unexpected "identifier"

/-- A record of expressions. -/
def recordLiteral : Parse Expr := do
  let start ← here
  let (fields, comma) ← bracedFields (recordField g)
  return .record fields comma (← spanFrom start)

/-- The letters that may stand behind a regular expression. -/
def regexFlags : List Char := "dgimsuvy".toList

/-- A letter that a text holds twice. -/
def repeatedLetter? : List Char → Option Char
  | [] => none
  | c :: rest => if rest.contains c then some c else repeatedLetter? rest

/-- A regular expression; its slash was looked at as an operator. -/
def regexLiteral : Parse (Option Expr) := do
  let s ← get
  let start ← here
  match s.current with
  | none => return none
  | some lexeme =>
    advance
    modify ({ · with regexAt := some ⟨s.source.drop lexeme.span.lo, lexeme.span.lo, none⟩ })
    match ← current with
    | some (.regex _ flags) =>
      modify ({ · with regexAt := none })
      advance
      if !flags.toList.all regexFlags.contains then report .unknownRegexFlag start
      match repeatedLetter? flags.toList with
      | some flag => report (.repeatedRegexFlag flag) start
      | none => pure ()
      return some (.other .literal false (← spanFrom start))
    | _ => return none

end SchemaGuards.Syntax.Parse
