import SchemaGuards.Syntax.Members
import SchemaGuards.Syntax.Patterns

/-!
# Blocks and functions

Blocks, bodies of functions, and functions with their parameters. A function without a body
is an overload or an ambient declaration.
-/

namespace SchemaGuards.Syntax.Parse

variable (g : Grammar)

/-- Statements up to a closing brace, which is taken. A missing brace is reported. -/
def blockBody (item : Parse Item) : Parse (List Item) := do
  let items ← gather do
    match ← readable with
    | none =>
      reportHere (.expected "\x7d" "<eof>")
      return none
    | some (.mark "\x7d") => return none
    | some _ => return some (← item)
  advance
  return items

/-- A block of statements. -/
def block : Parse Unit := do
  expectMark "\x7b"
  let _ ← blockBody (g.statement true)

/-- The strings that stand on their own at the start of a block, each with its start. -/
def directives : List Item → List (String × Nat)
  | .text written start :: rest => (written, start) :: directives rest
  | _ => []

/-- Where the statements of a function ask for strict code, which is asked for without escapes. -/
def strictDirective? (items : List Item) : Option Nat :=
  ((directives items).find? fun (written, _) =>
    written = "'use strict'" || written = "\"use strict\"").map (·.2)

/-- The block of a function. It asks for strict code only where every parameter is a plain
name. -/
def bodyBlock (plainParameters : Bool) : Parse Unit := do
  expectMark "\x7b"
  let items ← blockBody (g.statement true)
  if plainParameters then return
  match strictDirective? items with
  | some start => report .strictDirective start
  | none => return

/-- Run a parser with no labels and no arrow function around it. -/
def withoutLabels {α : Type} (action : Parse α) : Parse α := fun s =>
  match action { s with labels := [], arrowStart := none } with
  | .ok a now => .ok a { now with labels := s.labels, arrowStart := s.arrowStart }
  | .error fault now => .error fault { now with labels := s.labels, arrowStart := s.arrowStart }

/-- Run a parser in the body of a function. -/
def inFunction {α : Type} (async generator arrow : Bool) (action : Parse α) : Parse α := do
  if (← get).mode.declared && (← isMark "\x7b") then reportHere .ambientBody
  withoutLabels <| within (fun mode => { mode with
    async, generator
    ordinaryFunction := mode.ordinaryFunction || !arrow
    function := true
    parameters := false
    staticBlock := false
    fieldValue := mode.fieldValue && arrow
    breakable := false
    continuable := false }) action

/-- The body of a function, which may be left out; tells whether there is one. -/
def functionBody (async generator plainParameters : Bool) : Parse Bool :=
  inFunction async generator false do
    let omitted ← (do if ← isMark "\x7b" then return false else eatEnd)
    if omitted then return false
    within ({ · with inOperator := true }) (bodyBlock g plainParameters)
    return true

/-- The body of an arrow function; tells whether it is a block. -/
def arrowBody (async plainParameters : Bool) : Parse Bool :=
  inFunction async false true do
    if ← isMark "\x7b" then
      bodyBlock g plainParameters
      return true
    else
      let _ ← g.assignment
      return false

/-- A function from its type parameters on; tells whether it has a body. The parameters are
read as the given parser tells. -/
def functionTail (parameters : Parse (List Pattern)) (async generator : Bool) : Parse Bool :=
  within ({ · with async, generator, fieldValue := false }) do
    let _ ← typeParameters? g false true
    expectMark "("
    let patterns ← within ({ · with parameters := true, function := false }) parameters
    expectMark ")"
    resultType? g ":"
    let hasBody ← functionBody g async generator (patterns.all (·.isName))
    if !hasBody then
      for pattern in patterns do
        if pattern.shape = .assignment then report .initializerWithoutBody pattern.span.lo
    return hasBody

/-- The parameters of a getter, of which there are none. -/
def getterParameters (key : Span) : Parse (List Pattern) := do
  let patterns ← parameters g
  if patterns.any (!·.isReceiver) then report .getterParameters key.lo
  return patterns

/-- The parameter of a setter. -/
def setterParameters (key : Span) : Parse (List Pattern) := do
  let patterns ← parameters g
  if (patterns.filter (!·.isReceiver)).length ≠ 1 then report .setterParameters key.lo
  match patterns with
  | first :: _ => if first.shape = .rest then report .restInSetter first.span.lo
  | [] => pure ()
  return patterns

/-- A function from its word on; tells whether it is a generator. -/
def function (isExpression namedAlways async : Bool) : Parse Bool := do
  advance
  let generator ← eatMark "*"
  let name : Parse Unit :=
    if namedAlways then (do let _ ← bindingName) else do let _ ← bindingName?
  within (fun mode => { mode with
    async := if isExpression then async else mode.async
    generator := if isExpression then generator else mode.generator
    fieldValue := false }) name
  within ({ · with breakable := false, continuable := false }) do
    let hasBody ← functionTail g (parameters g) async generator
    if isExpression && !hasBody then unexpected "("
    return generator

/-- A function used as an expression. -/
def functionExpression : Parse Expr := do
  let start ← here
  let async ← eatWord "async"
  let _ ← current
  let _ ← function g true false async
  otherFrom .function false start

/-- A function that is declared; tells whether it is asynchronous or a generator. -/
def functionDeclaration (namedAlways : Bool) : Parse Bool := do
  let async ← eatWord "async"
  let _ ← current
  let generator ← function g false namedAlways async
  return async || generator

/-- Whether `async function` comes next, on one line. -/
def atAsyncFunction : Parse Bool := do
  if !(← isWord "async") then return false
  if !(← nextIsWord "function") then return false
  return !(← nextOnFreshLine)

end SchemaGuards.Syntax.Parse
