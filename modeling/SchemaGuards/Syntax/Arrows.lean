import SchemaGuards.Syntax.Literals

/-!
# Parentheses and arrow functions

A parenthesis opens a grouped expression, the parameters of an arrow function, or after
`async` the arguments of a call. What it was shows only after its end, so its parts are read
as expressions and as parameters at once.
-/

namespace SchemaGuards.Syntax.Parse

variable (g : Grammar)

/-- A part between parentheses, which is a parameter or may still be an expression. -/
inductive GroupPart where
  | element (value : Element)
  /-- A parameter, with the place of a name in it that strict code does not bind. -/
  | pattern (value : Pattern) (strictAt : Option Nat)

namespace GroupPart

/-- Whether a part can only be a parameter. -/
def isPattern : GroupPart → Bool
  | pattern _ _ => true
  | element _ => false

/-- Whether a part is one name. -/
def isName : GroupPart → Bool
  | element (.item (.name _ _)) => true
  | pattern value _ => value.isName
  | _ => false

/-- Whether a part is one name, or spreads one. -/
def holdsName : GroupPart → Bool
  | element (.spread (.name _ _) _) => true
  | part => part.isName

/-- Where a part binds a name that strict code does not bind. -/
def strictBinding? : GroupPart → Option Nat
  | element value => strictElement? [value]
  | pattern _ strictAt => strictAt

end GroupPart

/-- Read the parts of a group as patterns. -/
def groupPatterns (comma : Option Nat) : List GroupPart → Parse Unit
  | [] => return
  | .element .hole :: rest => groupPatterns comma rest
  | .element (.item value) :: rest => do
    let _ ← patternOf .binding value
    groupPatterns comma rest
  | .element (.spread value span) :: rest => do
    if !rest.isEmpty then report .restParameterNotLast span.lo
    else
      match value with
      | .assignment _ _ => report .restInitializer span.lo
      | _ => pure ()
      checkRestComma comma
      let _ ← patternOf .binding value
    groupPatterns comma rest
  | .pattern value _ :: rest => do
    if value.shape = .rest then
      if !rest.isEmpty then report .restParameterNotLast value.span.lo
      else checkRestComma comma
    groupPatterns comma rest

/-- Read the parts of a group as the parameters of an arrow function. -/
def arrowParameters (comma : Option Nat) (parts : List GroupPart) : Parse Unit := do
  groupPatterns comma parts
  match parts.findSome? (·.strictBinding?) with
  | some lo => report .strictBinding lo
  | none => return

/-- The two branches of a conditional expression, of which the test was read. -/
def conditionalTail (start : Nat) : Parse Expr := do
  let _ ← within (fun mode => { mode with
    conditional := true, colonDue := true, inOperator := true }) g.assignment
  expectMark ":"
  let _ ← within ({ · with conditional := true, colonDue := false }) g.assignment
  otherFrom .conditional false start

/-- The sign of an assignment after its left side, with the right side. -/
def assignmentTail (start : Nat) (left : Expr) : Parse Expr := do
  match ← readable with
  | some (.mark "=") =>
    let _ ← targetOf left
    if !left.mayBePattern && !left.standsLeft then failAt .invalidTarget left.lo
    advance
    let _ ← g.assignment
    return .assignment left (← spanFrom start)
  | some (.mark text) =>
    if computingAssignments.contains text then
      if !left.isTarget then report .targetNotAssignable left.lo
      if !left.standsLeft then failAt .invalidTarget left.lo
      advance
      let _ ← g.assignment
      otherFrom .update false start
    else return left
  | _ => return left

/-- An expression with its operators. -/
def binary : Parse Expr := do
  let first ← tryCatch g.unary fun fault => do
    let isOperator ← (do
      match ← required with
      | .word "in" => return (← get).mode.inOperator
      | .word "instanceof" => return true
      | .mark text => return (precedence? text).isSome
      | _ => return false)
    if !isOperator then throw fault
    reportHere .expressionExpected
    return .other .invalid false ⟨fault.offset, fault.offset⟩
  if first.isArrow then return first
  g.operators first 0

/-- A part of a group up to a question mark, a colon or a comma. -/
def groupElement (start : Nat) : Parse Element := do
  let isSimple ← (do
    if ← isName then return true
    if ← isMark "..." then nextIsName else return false)
  if !isSimple then return ← itemOrSpread g
  if ← eatMark "..." then
    let value ← within ({ · with inOperator := true }) (binary g)
    return .spread value (← spanFrom start)
  return .item (← assignmentTail g start (← binary g))

/-- A question mark after a part of a group: either the part is an optional parameter (true),
or it is the test of a conditional expression, which is read to its end. -/
def groupQuestion (element : Element) : Parse (Element × Bool) := do
  if !(← isMark "?") then return (element, false)
  let marksOptional ← (do
    match ← next with
    | some (.mark text) => return [",", ":", ")", "="].contains text
    | _ => return false)
  match element with
  | .item value =>
    if marksOptional then
      advance
      match value with
      | .name _ _ => return (element, true)
      | _ => failAt .optionalPattern value.lo
    else
      advance
      return (.item (← conditionalTail g value.lo), false)
  | .spread value span =>
    if marksOptional then
      advance
      report .restOptional (← previousSpan).lo
      match value with
      | .name _ _ => return (element, true)
      | _ => failAt .optionalPattern span.lo
    else return (element, false)
  | .hole => return (element, false)

/-- A part of a group that has a type or is optional, and so is a parameter. -/
def groupParameter (start : Nat) (element : Element) : Parse GroupPart := do
  let pattern : Pattern ← (match element with
    | .item value => patternOf .binding value
    | .spread value _ => do
      let inner ← patternOf .binding value
      return ⟨.rest, ⟨start, inner.span.hi⟩⟩
    | .hole => return ⟨.invalid, ⟨start, start⟩⟩)
  match pattern.shape with
  | .assignment => pure ()
  | .invalid => pure ()
  | _ => let _ ← annotationType? g
  let strictAt := strictElement? [element]
  if ← eatMark "=" then
    let _ ← g.assignment
    return .pattern ⟨.assignment, ← spanFrom start⟩ strictAt
  return .pattern { pattern with span := ⟨pattern.span.lo, ← lastEnd⟩ } strictAt

/-- A part of a group. -/
def groupPart : Parse GroupPart := do
  let modifierStart ← here
  modify ({ · with arrowStart := some modifierStart })
  let modified ← eatParameterModifier
  let start ← here
  let (element, optional) ← groupQuestion g (← groupElement g modifierStart)
  let isParameter ← (do if optional then return true else isMark ":")
  let part ← (do if isParameter then groupParameter g start element else return .element element)
  if modified then report .parameterProperty modifierStart
  return part

/-- An arrow between parentheses that are not closed yet. It makes a function of the parts so
far if the first of them is a name. -/
def innerArrow (parts : List GroupPart) (start : Nat) : Parse (List GroupPart) := do
  if !(← eatMark "=>") then return parts
  if !parts.head?.any (·.holdsName) then return parts
  arrowParameters none parts
  let _ ← arrowBody g false (parts.all (·.isName))
  return parts ++ [.element (.item (← otherFrom .arrow false start))]

/-- The parts between parentheses, and the comma before the closing one. -/
def groupParts : Parse (List GroupPart × Option Nat) := do
  expectMark "("
  let found ← iterate (fun ((parts, comma) : List GroupPart × Option Nat) => do
    if (← atEof) || (← isMark ")") then return ((parts, comma), false)
    let start ← here
    let parts ← innerArrow g (parts ++ [← groupPart g]) start
    if ← isMark ")" then return ((parts, comma), true)
    expectMark ","
    if ← isMark ")" then return ((parts, some (← previousSpan).lo), true)
    return ((parts, comma), true)) ([], none)
  expectMark ")"
  return found

/-- An arrow function whose type of result hides in a conditional expression. -/
def hiddenArrow? (start : Nat) (async : Bool) (parts : List GroupPart) : Parse (Option Expr) := do
  let mode := (← get).mode
  if !mode.conditional then return none
  if !(← isMark ":") then return none
  attempt do
    resultType g ":"
    expectMark "=>"
    arrowParameters none parts
    let _ ← arrowBody g async (parts.all (·.isName))
    if mode.colonDue && !(← isMark ":") then unexpected "fail"
    return some (← otherFrom .arrow false start)

/-- The type of the result of an arrow function; tells whether there is one. -/
def arrowResult : Parse Bool := do
  if (← get).mode.colonDue then return false
  if !(← isMark ":") then return false
  let found ← attempt do
    resultType g ":"
    if ← isMark "=>" then return some () else return none
  return found.isSome

/-- The rest of an arrow function after its parameters and the type of its result. -/
def arrowTail (start : Nat) (mayBeArrow async : Bool) (parts : List GroupPart)
    (comma : Option Nat) : Parse Expr := do
  if ← onFreshLine then failAt .breakBeforeArrow start
  if !mayBeArrow then failAt .arrowNotAllowed start
  expectMark "=>"
  arrowParameters comma parts
  let isBlock ← arrowBody g async (parts.all (·.isName))
  let arrow ← otherFrom .arrow false start
  if !isBlock then return arrow
  let _ ← readable
  if !(← atOperator) then return arrow
  reportHere .semicolonExpected
  let e ← g.operators arrow 0
  if !(← isMark ";") then reportHere .semicolonExpected
  return e

/-- Report defaults of shorthands in a record that is no pattern. -/
def checkRecord (e : Expr) : Parse Unit := do
  match e with
  | .record fields _ _ =>
    for field in fields do
      match field with
      | .default _ span => report .assignmentProperty span.lo
      | _ => pure ()
  | _ => return

/-- The expressions of a group that is no list of parameters. -/
def groupValues : List GroupPart → Parse (List Expr)
  | [] => return []
  | .pattern value _ :: _ => failAt .notAnExpression value.span.lo
  | .element (.item value) :: rest => return value :: (← groupValues rest)
  | .element (.spread value _) :: _ => failAt .spreadInGroup value.lo
  | .element .hole :: rest => groupValues rest

/-- A grouped expression or an arrow function; with a start before the parenthesis, an
asynchronous arrow function or a call. -/
def groupOrArrow (mayBeArrow : Bool) (asyncStart : Option Nat) : Parse Expr := do
  let start ← (match asyncStart with
    | some start => return start
    | none => here)
  let async := asyncStart.isSome
  let (parts, comma) ← within ({ · with colonDue := false, inOperator := true }) (groupParts g)
  match ← hiddenArrow? g start async parts with
  | some arrow => return arrow
  | none =>
    let isArrow ← (do
      if ← arrowResult g then return true
      if parts.any (·.isPattern) then return true
      isMark "=>")
    if isArrow then return ← arrowTail g start mayBeArrow async parts comma
    for part in parts do
      match part with
      | .element (.item value) => checkRecord value
      | .element (.spread value _) => checkRecord value
      | _ => pure ()
    if async then return ← otherFrom .call false start
    match parts with
    | [] => failAt .emptyGroup start
    | _ =>
      let span ← spanFrom start
      match ← groupValues parts with
      | [single] => return .group single span
      | values =>
        let first := (values.head?.map (·.lo)).getD start
        return .group (.other .sequence false ⟨first, span.hi⟩) span

/-- An asynchronous arrow function with type parameters, from these on. -/
def genericAsyncArrow? (start : Nat) : Parse (Option Expr) := do
  if !(← isMark "<") then return none
  let head ← attempt do
    let _ ← typeParameters g false false
    expectMark "("
    let patterns ← parameters g
    expectMark ")"
    resultType? g ":"
    expectMark "=>"
    return some (patterns.all (·.isName))
  match head with
  | none => return none
  | some isPlain =>
    let _ ← within ({ · with async := true, generator := false }) (arrowBody g true isPlain)
    return some (← otherFrom .arrow false start)

end SchemaGuards.Syntax.Parse
