import SchemaGuards.Syntax.Calls

/-!
# Operators

Prefix and suffix operators, binary operators by precedence, conditional expressions and
assignments.
-/

namespace SchemaGuards.Syntax.Parse

variable (g : Grammar)

/-! ## Operators of one operand -/

/-- A cast in angle brackets, from after the first. -/
def castTail (start : Nat) : Parse Expr := do
  if ← eatWord "const" then
    expectMark ">"
    let _ ← g.unary
    return ← otherFrom .constCast false start
  typeMode do
    let _ ← g.type
    expectMark ">"
  let e ← g.unary
  otherFrom .cast e.isTarget start

/-- The operand of `delete` has to be a member. -/
def checkDeleted (e : Expr) : Parse Unit := do
  match e with
  | .name _ span => report .deleteName span.lo
  | _ => pure ()
  let isMember := match e.ungrouped.shape? with
    | some .member => true
    | some .chainMember => true
    | _ => false
  if !isMember then report .deleteOperand e.ungrouped.lo

/-- A prefix operator and its operand. A fault of the operand is reported. -/
def prefixOperator (start : Nat) (text : String) : Parse Expr := do
  advance
  let operandStart ← here
  let e ← tryCatch g.unary fun fault => do
    report fault.cause fault.offset
    return .other .invalid false ⟨operandStart, operandStart⟩
  if text = "delete" then checkDeleted e
  return .other .unary false ⟨start, e.span.hi⟩

/-- A step up or down before its operand. -/
def prefixStep (start : Nat) : Parse Expr := do
  advance
  let e ← g.unary
  checkTarget false e
  return .other .update false ⟨start, e.span.hi⟩

/-- The operator `await`, or the word as a name where no operand follows. -/
def awaitOperator : Parse Expr := do
  let start ← here
  advance
  let span ← spanFrom start
  if ← isMark "*" then fail .awaitStar
  let mode := (← get).mode
  let ends ← (do if ← isMarkOf [")", "]", ","] then return true else atEnd)
  if ends && !mode.async then
    report .awaitName start
    return .name "await" span
  if mode.function && !mode.async then report .awaitInFunction start
  if mode.parameters && !mode.function then report .awaitInParameters start
  let name := match ← g.unary with
    | .name name _ => some name
    | _ => none
  otherFrom (.await name) false start

/-- An operand with a step up or down after it. -/
def suffixStep : Parse Expr := do
  let e ← g.leftHand
  if e.isArrow then return e
  if ← onFreshLine then return e
  if ← isMarkOf ["++", "--"] then
    checkTarget false e
    advance
    otherFrom .update false e.lo
  else return e

/-- An operand with its prefix operators. -/
def unaryRule : Parse Expr := do
  let start ← here
  if ← eatMark "<" then castTail g start
  else if ← isMarkOf ["++", "--"] then prefixStep g start
  else
    match ← current with
    | some (.word text) =>
      if ["delete", "void", "typeof"].contains text then prefixOperator g start text
      else if text = "await" then awaitOperator g
      else suffixStep g
    | some (.mark text) =>
      if ["+", "-", "~", "!"].contains text then prefixOperator g start text else suffixStep g
    | _ => suffixStep g

/-! ## Operators of two operands -/

/-- A type after `as` or `satisfies`. -/
def castSuffix (e : Expr) : Parse Expr := do
  let casts ← isWord "as"
  let isConst ← (do if casts then nextIsWord "const" else return false)
  advance
  if isConst then
    let _ ← current
    advance
    return ← otherFrom .constCast false e.lo
  let _ ← typeMode g.type
  otherFrom (if casts then .asCast else .cast) e.isTarget e.lo

/-- The binary operator that comes next, with its precedence. -/
def binaryOperator? : Parse (Option (String × Nat)) := do
  match ← readable with
  | some (.word "in") => return if (← get).mode.inOperator then some ("in", 7) else none
  | some (.word "instanceof") => return some ("instanceof", 7)
  | some (.mark text) => return (precedence? text).map fun precedence => (text, precedence)
  | _ => return none

/-- Whether an expression applies one of some operators at its top. -/
def applies (operators : List String) (e : Expr) : Bool :=
  match e with
  | .other (.binary operator) _ _ => operators.contains operator
  | _ => false

/-- Report `??` next to a logical operator without parentheses between them. -/
def checkMixed (operator : String) (left right : Expr) (start : Nat) : Parse Unit := do
  if operator = "??" then
    if applies ["&&", "||"] left then report .mixedNullish left.lo
    if applies ["&&", "||"] right then report .mixedNullish right.lo
  else if operator = "&&" || operator = "||" then
    if applies ["??"] left || applies ["??"] right then report .mixedNullish start

/-- One binary operator with its right operand; tells whether there was one that binds more
tightly than the precedence. -/
def operatorStep (least : Nat) (left : Expr) : Parse (Expr × Bool) := do
  let casts ← (do
    if least ≥ 7 then return false
    if ← onFreshLine then return false
    isWordOf ["as", "satisfies"])
  if casts then return (← castSuffix g left, true)
  match ← binaryOperator? with
  | none => return (left, false)
  | some (operator, precedence) =>
    if precedence ≤ least then return (left, false)
    advance
    if operator = "**" then
      match left with
      | .other .unary _ _ => fail .unaryBeforePower
      | .other (.await _) _ _ => fail .unaryBeforePower
      | _ => pure ()
    let operand ← g.unary
    let right ← g.operators operand (if operator = "**" then precedence - 1 else precedence)
    checkMixed operator left right left.lo
    return (.other (.binary operator) false ⟨left.lo, right.span.hi⟩, true)

/-- The operators after an operand that bind more tightly than a precedence. -/
def operatorsRule (left : Expr) (least : Nat) : Parse Expr :=
  iterate (operatorStep g least) left

/-! ## Assignments -/

/-- A conditional expression, or one that binds more tightly. -/
def conditional : Parse Expr := do
  let start ← here
  let test ← binary g
  if test.isArrow then return test
  if ← eatMark "?" then conditionalTail g start else return test

/-- Words that start no operand of `yield`. -/
def wordsAfterYield : List String :=
  ["break", "case", "catch", "const", "continue", "debugger", "default", "do", "else", "export",
    "extends", "finally", "for", "if", "in", "instanceof", "let", "return", "switch", "try",
    "var", "while", "with"]

/-- Marks that start an operand of `yield`. -/
def marksAfterYield : List String :=
  ["*", "/", "/=", "!", "(", "[", "\x7b", "`", "++", "--", "~", "+", "-"]

/-- Whether an operand of `yield` comes next. -/
def yieldsValue : Parse Bool := do
  if ← atEnd then return false
  match ← readable with
  | some (.word text) => return !wordsAfterYield.contains text
  | some (.mark text) => return marksAfterYield.contains text
  | _ => return true

/-- The operator `yield`. -/
def yieldOperator : Parse Expr := do
  let start ← here
  advance
  let mode := (← get).mode
  if mode.parameters && !mode.function then failAt .yieldInParameters (← previousSpan).lo
  if ← yieldsValue then
    let _ ← eatMark "*"
    let _ ← g.assignment
  otherFrom .yield false start

/-- An arrow function with type parameters, which may turn out to be a cast. -/
def genericArrow? : Parse (Option Expr) := do
  if !(← isMark "<") then return none
  if !(← next).any (·.isWord) then return none
  let start ← here
  within ({ · with colonDue := false }) <| attempt do
    let _ ← typeParameters g false true
    let e ← g.assignment
    if e.isArrow then return some (.other .arrow false ⟨start, e.span.hi⟩) else unexpected "("

/-- Expressions that nothing can be assigned to, whatever follows them. -/
def endsBeforeAssignment : Expr → Bool
  | .other .conditional _ _ => true
  | .other (.binary _) _ _ => true
  | .other .unary _ _ => true
  | .other .update _ _ => true
  | _ => false

/-- An expression without commas. -/
def assignmentRule : Parse Expr := do
  match ← genericArrow? g with
  | some arrow => return arrow
  | none =>
    if (← get).mode.generator && (← isWord "yield") then return ← yieldOperator g
    let start ← here
    let mayStartArrow ← (do
      match ← required with
      | .word text => return text = "yield" || !keywords.contains text
      | .escapedWord _ => return true
      | .mark text => return text = "("
      | _ => return false)
    modify ({ · with arrowStart := if mayStartArrow then some start else none })
    let e ← conditional g
    if e.isArrow then return e
    if endsBeforeAssignment e then return e
    assignmentTail g start e

end SchemaGuards.Syntax.Parse
