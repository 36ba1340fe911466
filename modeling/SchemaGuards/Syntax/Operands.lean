import SchemaGuards.Syntax.Arrows

/-!
# Operands

The expressions that operators, calls and member accesses work on: names, literals, functions,
classes and groups.
-/

namespace SchemaGuards.Syntax.Parse

variable (g : Grammar)

/-- Whether the word `of` comes next in the head of a loop and does not start an arrow function,
so that the word `async` before it names what the loop assigns to. -/
def atLoopWord : Parse Bool := do
  if !(← get).mode.loopHead then return false
  if !(← isWord "of") then return false
  return !(← nextIsMark "=>")

/-- What follows the word `async`, where a name comes next on its line: an arrow function, a cast,
or the word `of` of a loop. -/
def asyncTail (start : Nat) (e : Expr) : Parse Expr := do
  if ← atLoopWord then
    if !(← get).mode.awaitLoopHead then report .asyncLoop (← previousSpan).lo
    return e
  let parameter ← bindingName
  if parameter = "as" && !(← isMark "=>") then
    let _ ← typeMode g.type
    return ← otherFrom .asCast true start
  expectMark "=>"
  let _ ← arrowBody g true true
  otherFrom .arrow false start

/-- A name, or an arrow function that starts with it. -/
def nameOperand (start : Nat) (mayBeArrow : Bool) : Parse Expr := do
  let name ← variableName (!(← get).mode.generator)
  let e := Expr.name name (← spanFrom start)
  if !mayBeArrow then return e
  if ← onFreshLine then return e
  if name = "async" && (← isName) then return ← asyncTail g start e
  if !(← eatMark "=>") then return e
  if Expr.isStrictName name then report .strictBinding start
  let _ ← arrowBody g false true
  otherFrom .arrow false start

/-- An operand that starts with `async`, if it is more than that name. -/
def asyncOperand? (start : Nat) (mayBeArrow : Bool) : Parse (Option Expr) := do
  if ← atAsyncFunction then return some (← functionExpression g)
  if !mayBeArrow then return none
  if ← nextIsMark "<" then
    let found ← attempt do
      advance
      genericAsyncArrow? g start
    if found.isSome then return found
  let opens ← (do
    if ← nextIsMark "(" then return !(← nextOnFreshLine) else return false)
  if opens then
    advance
    return some (← groupOrArrow g mayBeArrow (some start))
  return none

/-- An operand that starts with a word. -/
def wordOperand (start : Nat) (mayBeArrow : Bool) (text : String) : Parse Expr := do
  match text with
  | "this" =>
    advance
    otherFrom .reference false start
  | "null" =>
    advance
    otherFrom .literal false start
  | "true" =>
    advance
    otherFrom .literal false start
  | "false" =>
    advance
    otherFrom .literal false start
  | "function" => functionExpression g
  | "class" => classExpression g
  | _ =>
    if text = "let" || text = "await" || !isReserved text then nameOperand g start mayBeArrow
    else fail .expressionExpected

/-- An operand. -/
def operand : Parse Expr := do
  let start ← here
  let mayBeArrow := (← get).arrowStart = some start
  match ← current with
  | some (.string value _) =>
    advance
    return .string value (← spanFrom start)
  | some (.number source) =>
    advance
    return .number source (← spanFrom start)
  | some (.bigint _) =>
    advance
    otherFrom .literal false start
  | some (.word "async") =>
    match ← asyncOperand? g start mayBeArrow with
    | some e => return e
    | none => nameOperand g start mayBeArrow
  | some (.word text) => wordOperand g start mayBeArrow text
  | some (.escapedWord _) => nameOperand g start mayBeArrow
  | some (.mark "[") => listLiteral g
  | some (.mark "\x7b") => recordLiteral g
  | some (.mark "`") => within ({ · with colonDue := false }) (templateLiteral g false)
  | some (.mark "(") => groupOrArrow g mayBeArrow none
  | some (.mark "#") =>
    advance
    let _ ← anyName
    otherFrom .reference false start
  | some (.mark text) =>
    if text = "/" || text = "/=" then
      match ← regexLiteral with
      | some e => return e
      | none => fail .expressionExpected
    else fail .expressionExpected
  | _ => fail .expressionExpected

end SchemaGuards.Syntax.Parse
