import SchemaGuards.Syntax.Functions

/-!
# Bases

The clauses that name what an interface or a class extends or implements.
-/

namespace SchemaGuards.Syntax.Parse

variable (g : Grammar)

/-- Whether an expression is a dotted name, with or without type arguments. -/
def isBase : Expr → Bool
  | .name _ _ => true
  | .other .member _ _ => true
  | .other .instantiation _ _ => true
  | _ => false

/-- Type arguments after an expression that has none. -/
def moreArguments (e : Expr) : Parse Unit := do
  if e.shape? ≠ some .instantiation then
    let _ ← typeArguments? g

/-- A base as it is written. -/
def base : Parse String := do
  let start ← here
  let name ← anyName
  let e ← g.subscripts (.expression (.name name (← spanFrom start))) true true
  if !isBase e then report .interfaceBase start
  moreArguments g e
  textFrom start

/-- Bases with commas up to a brace or to another clause. -/
def bases : Parse (List String) :=
  delimited (do
    if ← isMark "\x7b" then return true
    isWordOf ["implements", "extends"]) (base g)

/-- Names of predefined types, which no interface or class may have. -/
def predefinedNames : List String :=
  ["string", "null", "number", "object", "any", "unknown", "boolean", "bigint", "symbol",
    "void", "never", "intrinsic"]

/-- An interface from its name on. -/
def interfaceTail : Parse Declaration := do
  let start ← here
  let name ← anyName
  if predefinedNames.contains name then report .typeNameReserved start
  let parameters ← typeParameters? g true false
  let extended ← (do if ← eatWord "extends" then bases g else return [])
  if ← isWord "extends" then
    reportHere .extendsRepeated
    loop do
      if (← atEof) || (← isMark "\x7b") then return false
      advance
      return true
  let body ← typeMode (members g)
  return .interface name parameters extended body

/-- A type alias from its name on. -/
def aliasTail : Parse Declaration := do
  let name ← anyName
  let parameters ← typeParameters? g true false
  let node ← typeMode do
    if !(← eatMark "=") then
      let found ← currentShownAsOption
      fail (.unexpected found "=")
    g.type
  expectEnd
  return .typeAlias name parameters node.type

end SchemaGuards.Syntax.Parse
