import SchemaGuards.Syntax.Operands

/-!
# Calls and member accesses

What may follow an operand: calls, member accesses, type arguments and templates with a tag.

## Implementation notes

A `<` may open type arguments or be an operator. The arguments are tried first and given up
unless what follows them fits.
-/

namespace SchemaGuards.Syntax.Parse

variable (g : Grammar)

/-- The arguments of a call. -/
def arguments : Parse Unit :=
  within ({ · with colonDue := false }) do
    expectMark "("
    let _ ← iterate (fun (isFirst : Bool) => do
      if (← atEof) || (← isMark ")") then return (isFirst, false)
      if !isFirst then
        expectMark ","
        if ← isMark ")" then return (isFirst, false)
      let _ ← itemOrSpread g
      return (false, true)) true
    expectMark ")"

/-- Reserved words that start an expression, except `import`. -/
def wordsWithValue : List String :=
  ["await", "class", "delete", "false", "function", "new", "null", "super", "this", "true",
    "typeof", "void", "yield"]

/-- Marks that start an expression, except the number sign. -/
def marksWithValue : List String :=
  ["(", "[", "\x7b", "`", "+", "-", "~", "!", "++", "--", "<"]

/-- Whether the current token can start an expression. -/
def startsExpression : Parse Bool := do
  match ← current with
  | some (.word "import") =>
    match ← next with
    | some (.mark text) => return ["(", "<", "."].contains text
    | _ => return false
  | some (.word text) => return !isReserved text || wordsWithValue.contains text
  | some (.mark "#") => return (← next).any (·.isWord)
  | some (.mark text) => return marksWithValue.contains text
  | some (.chunk _ _) => return false
  | some (.broken _ _) => return false
  | token => return token.isSome

/-- Type arguments that turn a generic name into a plain one. -/
def instantiation? : Parse Bool := do
  if !(← isMark "<") then return false
  let found ← attempt do
    let _ ← typeArguments g
    if ← isMarkOf ["<", ">", "+", "-", "(", "`"] then return none
    if ← onFreshLine then return some ()
    if ← atOperator then return some ()
    if ← startsExpression then return none else return some ()
  return found.isSome

/-- An expression whose type arguments were taken. -/
def instantiationFrom (start : Nat) (e : Expr) : Parse Expr :=
  otherFrom .instantiation e.isTarget start

/-- A template with a tag, which belongs to no chain; the template's opening mark comes next. -/
def taggedTemplate (start : Nat) (tag : Expr) : Parse Expr := do
  let _ ← within ({ · with colonDue := false }) (templateLiteral g true)
  let e ← otherFrom .taggedTemplate false start
  if tag.endsEarly then report .taggedChain start
  return e

/-- Type arguments with what has to follow them, after an expression. -/
def genericSubscript? (start : Nat) (e : Expr) (noCall : Bool) : Parse (Option (Expr × Bool)) := do
  if !(← isMark "<") then return none
  attempt do
    let _ ← typeArguments g
    if !noCall && (← isMark "(") then
      arguments g
      return some (← otherFrom .call false start, true)
    if ← isMark "`" then return some (← taggedTemplate g start e, true)
    let keeps ← (do
      if ← isMark "=" then return true
      isWordOf ["as", "satisfies"])
    if keeps then return some (← instantiationFrom start e, false)
    unexpected (if noCall then "`" else "( or `")

/-- A question mark before a point, as it stands in a chain that may end early. -/
def eatChainMark : Parse Bool := do
  if !(← isMark "?") then return false
  if !(← nextIsMark ".") then return false
  advance
  return true

/-- Take the point of a chain if one of the given marks stands behind it. -/
def eatChainPoint (marked : Bool) (marks : List String) : Parse Bool := do
  if !marked then return false
  if !(← isMark ".") then return false
  match ← next with
  | some (.mark text) =>
    if !marks.contains text then return false
    advance
    return true
  | _ => return false

/-- What stands behind the point after a loader: the property `meta`, or the arguments of a call
by phase. -/
def loaderMember (start : Nat) : Parse Expr := do
  let isPrivate ← isMark "#"
  let name ← if isPrivate then privateName else anyName
  let _ ← instantiation? g
  if isPrivate then unexpected "meta"
  if name = "meta" then return ← otherFrom .reference false start
  arguments g
  otherFrom .call false start

/-- A member whose name or key was taken. The flags tell that a question mark stands before it,
that its name is private, and that no call may follow. -/
def memberOf (start : Nat) (callee : Callee) (marked isPrivate noCall : Bool) : Parse Expr := do
  let span ← spanFrom start
  let instantiated ← instantiation? g
  match callee with
  | .superclass superSpan =>
    if marked then failAt (if noCall then .invalidSuperCall else .invalidSuper) superSpan.lo
    if isPrivate then fail .invalidSuperCall
    return .other .superMember true span
  | .loader _ => return .other .reference false span
  | .expression e =>
    let chained := marked || e.isChained
    let member := Expr.other (if chained then .chainMember else .member) (!chained) span
    if instantiated then instantiationFrom start member else return member

/-- A call whose parenthesis comes next, or its type arguments. The flag tells that a question
mark stands before it. -/
def callOf (start : Nat) (callee : Callee) (marked : Bool) : Parse Expr := do
  let _ ← typeArguments? g
  arguments g
  match callee with
  | .expression e => otherFrom (if marked || e.isChained then .chainCall else .call) false start
  | _ => if marked then fail .optionalSuperCall else otherFrom .call false start

/-- What follows a callee at its end. -/
def lastSubscript (start : Nat) (callee : Callee) (instantiated noCall : Bool) :
    Parse (Expr × Bool) := do
  match callee with
  | .expression e =>
    let e ← (do if instantiated then instantiationFrom start e else return e)
    if ← isMark "`" then return (← taggedTemplate g start e, true)
    return (e, false)
  | .superclass _ => fail (if noCall then .invalidSuperCall else .invalidSuper)
  | .loader _ => unexpected "`.` or `(`"

/-- One member access, call or template after a callee; tells whether there was one. -/
def subscript (start : Nat) (callee : Callee) (noCall noComputed : Bool) :
    Parse (Expr × Bool) := do
  let _ ← readable
  let asserts ← (do if ← isMark "!" then return !(← onFreshLine) else return false)
  if asserts then
    advance
    match callee with
    | .superclass _ => fail (.nonNullAssertion "super")
    | .loader _ => fail (.nonNullAssertion "import")
    | .expression e => return (← otherFrom (.nonNull e.isChained) e.isTarget start, true)
  let generic ← (match callee with
    | .expression e => genericSubscript? g start e noCall
    | _ => return none)
  match generic with
  | some found => return found
  | none =>
    let instantiated ← instantiation? g
    let marked ← eatChainMark
    if !noComputed then
      let opens ← (do
        let _ ← eatChainPoint marked ["["]
        eatMark "[")
      if opens then
        let _ ← expression g
        expectMark "]"
        return (← memberOf g start callee marked false noCall, true)
    let calls ← (do
      if ← eatChainPoint marked ["(", "<"] then return true
      if noCall then return false
      isMark "(")
    if calls then return (← callOf g start callee marked, true)
    if ← eatMark "." then
      match callee with
      | .loader _ => return (← loaderMember g start, true)
      | _ =>
        let isPrivate ← memberName
        return (← memberOf g start callee marked isPrivate noCall, true)
    lastSubscript g start callee instantiated noCall

/-- Member accesses, calls and templates after a callee. -/
def subscriptsRule (callee : Callee) (noCall noComputed : Bool) : Parse Expr := do
  let start := callee.lo
  let first ← subscript g start callee noCall noComputed
  let (e, _) ← iterate (fun ((e, more) : Expr × Bool) => do
    if !more then return ((e, more), false)
    return (← subscript g start (.expression e) noCall noComputed, true)) first
  return e

/-- What follows the word `import` in an expression. -/
def loaderTail (start : Nat) (noCall : Bool) : Parse Expr := do
  if ← eatMark "." then
    let name ← anyName
    if name = "meta" then
      return ← g.subscripts (.expression (← otherFrom .reference false start)) noCall false
    if name ≠ "source" then unexpected "meta"
  g.subscripts (.loader (← spanFrom start)) noCall false

/-- The property `new.target`, from its name on. -/
def newTarget (start : Nat) : Parse Expr := do
  if !(← eatWord "target") then unexpected "target"
  let mode := (← get).mode
  if !mode.ordinaryFunction && !mode.parameters && !mode.classBody then report .newTarget start
  g.subscripts (.expression (← otherFrom .reference false start)) true false

/-- A construction from after its word. The flag lets its arguments be left out. -/
def newTail (start : Nat) (mayBeBare : Bool) : Parse Expr := do
  if ← eatMark "." then return ← newTarget g start
  let callee ← g.member mayBeBare
  if callee.isArrow then return callee
  if mayBeBare && callee.endsEarly then failAt .chainInNew callee.lo
  if ← isMarkOf ["<", "<<"] then
    let _ ← attempt do
      let _ ← typeArguments g
      if ← isMark "(" then return some () else return none
  let calls ← (do if mayBeBare then isMark "(" else return true)
  if calls then
    arguments g
    g.subscripts (.expression (← otherFrom .construction false start)) true false
  else otherFrom .bareConstruction false start

/-- A construction, or an operand with its members. -/
def memberRule (mayBeBare : Bool) : Parse Expr := do
  let start ← here
  if ← eatWord "new" then newTail g start mayBeBare
  else if ← eatWord "super" then
    g.subscripts (.superclass (← spanFrom start)) true false
  else if ← eatWord "import" then loaderTail g start true
  else
    let e ← operand g
    if e.isArrow then return e
    let e ← (do if ← instantiation? g then instantiationFrom start e else return e)
    g.subscripts (.expression e) true false

/-- A call, a member access or an operand. -/
def leftHandRule : Parse Expr := do
  let start ← here
  if ← eatWord "super" then
    return ← g.subscripts (.superclass (← spanFrom start)) false false
  if ← eatWord "import" then return ← loaderTail g start false
  let callee ← g.member true
  if callee.isArrow then return callee
  let generic ← (do
    if !(← isMarkOf ["<", "<<"]) then return false
    let found ← attempt do
      let _ ← typeArguments g
      if ← isMark "(" then return some () else return none
    return found.isSome)
  if callee.shape? = some .bareConstruction then
    if generic then expectMark "("
    return callee
  if ← isMark "(" then
    arguments g
    let shape := if callee.isChained then .chainCall else .call
    g.subscripts (.expression (← otherFrom shape false start)) false false
  else
    if generic then expectMark "("
    return callee

end SchemaGuards.Syntax.Parse
