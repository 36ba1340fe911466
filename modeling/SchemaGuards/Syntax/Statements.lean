import SchemaGuards.Syntax.Declarations

/-!
# Statements

Statements are told by their leading word; one without such a word is an expression, a label
or a declaration by a word that is a name elsewhere.
-/

namespace SchemaGuards.Syntax.Parse

variable (g : Grammar)

/-- An expression between parentheses. -/
def parenthesized : Parse Unit := do
  expectMark "("
  let _ ← expression g
  expectMark ")"

/-- A statement that is no declaration. -/
def body : Parse Unit := do
  let _ ← g.statement false

/-- The body of a loop. -/
def loopBody : Parse Unit :=
  within ({ · with breakable := true, continuable := true }) (body g)

/-! ## Branches -/

/-- The branches of a condition that follow the first. -/
def elseBranches : Parse Unit := do
  loop do
    if !(← eatWord "else") then return false
    if ← eatWord "if" then
      within ({ · with elseDue := false }) (parenthesized g)
      within ({ · with elseDue := false }) (body g)
      return true
    within ({ · with elseDue := false }) (body g)
    return false

/-- A condition. -/
def ifStatement : Parse Unit := do
  advance
  within ({ · with elseDue := false }) (parenthesized g)
  within ({ · with elseDue := false }) (body g)
  if !(← get).mode.elseDue then elseBranches g

/-- The statements of a case up to the next one. -/
def caseBody : Parse Unit := do
  loop do
    if ← atEof then return false
    if ← isMark "\x7d" then return false
    if ← isWordOf ["case", "default"] then return false
    let _ ← g.statement true
    return true

/-- The cases of a switch. -/
def cases : Parse Unit := do
  let _ ← iterate (fun (seenDefault : Bool) => do
    if !(← isWordOf ["case", "default"]) then return (seenDefault, false)
    let isCase ← isWord "case"
    advance
    if isCase then
      let _ ← expression g
    else if seenDefault then fail .defaultRepeated
    expectMark ":"
    caseBody g
    return (seenDefault || !isCase, true)) false
  return

/-- A switch. -/
def switchStatement : Parse Unit := do
  advance
  parenthesized g
  expectMark "\x7b"
  within ({ · with breakable := true }) (cases g)
  expectMark "\x7d"

/-! ## Loops -/

/-- The test and the step of a loop that counts. -/
def countingHead : Parse Unit := do
  if !(← eatMark ";") then
    let _ ← expression g
    expectMark ";"
  if !(← isMark ")") then
    let _ ← expression g

/-- What a loop goes over, from the word `of` or `in` on; tells whether it is `of`. A place is
given where `in` cannot stand. -/
def eachHead (deniesIn : Option Nat) : Parse Bool := do
  let isOf ← isWord "of"
  advance
  within ({ · with inOperator := true }) do
    if isOf then
      let _ ← g.assignment
    else
      match deniesIn with
      | some start => report .usingInLoop start
      | none => pure ()
      let _ ← expression g
  return isOf

/-- Report what a loop over a collection cannot declare. -/
def checkLoopVariables (found : List (Pattern × Bool × Bool)) : Parse Unit := do
  match found with
  | [(pattern, typed, hasValue)] =>
    if hasValue then report .loopInitializer pattern.span.lo
    if typed then report .loopType pattern.span.lo
  | _ =>
    match found.tail.head? with
    | some (pattern, _, _) => report .loopBindings pattern.span.lo
    | none => pure ()

/-- Whether a word `let` starts a declaration, by what follows it. -/
def letDeclares : Parse Bool := do
  match ← next with
  | some (.mark text) => return text = "\x7b" || text = "["
  | some (.word text) =>
    return !keywords.contains text || ["let", "yield", "await"].contains text
  | some (.escapedWord _) => return true
  | _ => return false

/-- Whether a declaration of variables comes next. -/
def atVariables : Parse Bool := do
  if ← isWordOf ["var", "const"] then return true
  if ← isWord "let" then letDeclares else return false

/-- The head of a loop that declares variables; tells whether it goes over a collection with
`of`. -/
def variableHead : Parse Bool := do
  let isConst ← isWord "const"
  let isVar ← isWord "var"
  advance
  let found ← within ({ · with inOperator := !isVar }) (variableDeclarators g isConst true)
  if ← isWordOf ["of", "in"] then
    checkLoopVariables found
    return ← eachHead g none
  expectMark ";"
  countingHead g
  return false

/-- The expression at the head of a loop, in which `in` is no operator. -/
def headExpression : Parse Expr :=
  within ({ · with inOperator := false }) do
    let first ← g.assignment
    if !(← isMark ",") then return first
    loop do
      if !(← eatMark ",") then return false
      let _ ← g.assignment
      return true
    otherFrom .sequence false first.lo

/-- Whether an expression at the head of a loop is the word that declares a resource, alone or
awaited, and the name of the resource comes next. -/
def declaresResource (e : Expr) : Parse Bool := do
  let isUsing := match e with
    | .name text _ => text = "using"
    | .other (.await name) _ _ => name = some "using"
    | _ => false
  if !isUsing then return false
  if ← isWordOf ["of", "in"] then return false
  return (← nextIsWord "of") || (← nextIsWord "in")

/-- Read the expression at the head of a loop as what the loop assigns to. -/
def loopTarget (e : Expr) : Parse Unit := do
  let pattern ← targetOf e
  let isIn ← isWord "in"
  match pattern.shape with
  | .name _ => return
  | .expression => return
  | _ => if isIn then report .loopPattern pattern.span.lo

/-- The head of a loop; tells whether it goes over a collection with `of`. -/
def loopHead : Parse Bool := do
  if ← atVariables then return ← variableHead g
  if ← eatMark ";" then
    countingHead g
    return false
  let start ← here
  let first ← headExpression g
  if ← declaresResource first then
    let _ ← bindingName
    return ← eachHead g (some start)
  if ← isWordOf ["of", "in"] then
    loopTarget first
    return ← eachHead g none
  expectMark ";"
  countingHead g
  return false

/-- A loop with a head. -/
def forStatement : Parse Unit := do
  advance
  let awaitStart ← here
  let awaits ← eatWord "await"
  expectMark "("
  let isOf ← within ({ · with loopHead := true, awaitLoopHead := awaits }) (loopHead g)
  expectMark ")"
  loopBody g
  if awaits && !isOf then failAt .forAwait awaitStart

/-- A loop with its test at the start. -/
def whileStatement : Parse Unit := do
  advance
  parenthesized g
  loopBody g

/-- A loop with its test at the end. -/
def doStatement : Parse Unit := do
  advance
  loopBody g
  expectWord "while"
  parenthesized g
  let _ ← eatEnd

/-! ## Jumps -/

/-- A jump out of a statement or to the next turn of a loop. -/
def jump : Parse Unit := do
  let start ← here
  let isBreak ← isWord "break"
  advance
  let label ← (do
    if ← eatEnd then return none
    let label ← variableName (!(← get).mode.generator)
    expectEnd
    return some label)
  let s ← get
  let known := label.all s.labels.contains
  if isBreak then
    if label.isSome && !known then report .breakLabel start
    else if !s.mode.breakable then report .breakOutside start
  else if !s.mode.continuable then report .continueOutside start
  else if !known then report .continueLabel start

/-- A return. -/
def returnStatement : Parse Unit := do
  let start ← here
  advance
  if !(← atEnd) then
    let _ ← expression g
  expectEnd
  if !(← get).mode.function then report .returnOutside start

/-- A throw. -/
def throwStatement : Parse Unit := do
  advance
  if ← onFreshLine then fail .throwBreak
  let _ ← expression g
  expectEnd

/-- What is done with a caught value; tells whether there is such a clause. -/
def catchClause : Parse Bool := do
  if !(← eatWord "catch") then return false
  if ← eatMark "(" then
    let _ ← g.pattern
    let _ ← annotationType? g
    expectMark ")"
  block g
  return true

/-- What is done in any case; tells whether there is such a clause. -/
def finallyClause : Parse Bool := do
  if !(← eatWord "finally") then return false
  block g
  return true

/-- A block with clauses for what it throws. -/
def tryStatement : Parse Unit := do
  advance
  block g
  let start ← here
  let caught ← catchClause g
  let finished ← finallyClause g
  if !caught && !finished then report .semicolonExpected start

/-- Clauses without the block that they belong to, which are reported. -/
def strayClauses : Parse Unit := do
  reportHere .semicolonExpected
  let _ ← tryCatch (catchClause g) fun _ => return false
  let _ ← tryCatch (finallyClause g) fun _ => return false

/-- A statement with an object in scope, which is reported. -/
def withStatement : Parse Unit := do
  reportHere .withStrict
  advance
  parenthesized g
  body g

/-! ## Labels and expressions -/

/-- A statement after its label. -/
def labelled (label : String) (start : Nat) : Parse Unit :=
  within ({ · with breakable := true }) do
    let labels := (← get).labels
    if labels.contains label then report (.labelRepeated label) start
    modify ({ · with labels := label :: labels })
    if ← isWord "function" then
      let functionStart ← here
      let isGenerator ← functionDeclaration g true
      report .labelledFunction functionStart
      if isGenerator then report .labelledGenerator functionStart
    else body g
    modify ({ · with labels := labels })

/-- End a statement that is an expression. A missing semicolon before an operator is reported,
and before anything else it is a fault. -/
def endExpression (e : Expr) : Parse Unit := do
  if ← eatEnd then return
  let _ ← required
  if ← atOperator then
    reportHere .semicolonExpected
    let _ ← g.operators e 0
  else fail .statementEndExpected

/-- A statement that starts with a name which is no label: a declaration, or an expression. -/
def namedStatement (start : Nat) (name : String) (e : Expr) : Parse Item := do
  let statement := Item.other "statement" start
  if name = "interface" && (← onFreshLine) then
    report (.strictName name) start
    let _ ← eatEnd
    return statement
  let isModified ← (do
    if ["abstract", "public", "static"].contains name then eatWord "interface" else return false)
  if isModified then
    report .typeNameReserved start
    return ← interfaceItem g
  match ← namedDeclaration? g start name with
  | some item => return item
  | none =>
    if name = "enum" || name = "interface" then report (.strictName name) start
    endExpression g e
    return statement

/-- A statement that starts with an expression. -/
def expressionStatement : Parse Item := do
  let start ← here
  let e ← expression g
  match e with
  | .name name _ =>
    if ← eatMark ":" then
      labelled g name start
      return .other "statement" start
    namedStatement g start name e
  | .string _ span =>
    endExpression g e
    return .text (← slice span) start
  | _ =>
    endExpression g e
    return .other "statement" start

/-- The operator `await` at the start of a statement. -/
def awaitStatement : Parse Unit := do
  let e ← awaitOperator g
  let _ ← g.operators e 0
  let _ ← eatEnd

/-- Whether a word that declares is followed by a word on the same line. -/
def declaresNext : Parse Bool := do
  if !((← next).any (·.isWord)) then return false
  return !(← nextOnFreshLine)

/-- Whether a declaration of resources comes next. -/
def atResources : Parse Bool := do
  if !(← isWord "using") then return false
  if !(← nextIsName) then return false
  return !(← nextOnFreshLine)

/-- Whether the word `await` that comes next belongs to a declaration of resources. -/
def awaitsResources : Parse Bool :=
  lookAhead do
    advance
    atResources

/-- A statement that starts with `await`, if it is more than an expression. The flags tell
whether declarations may stand here, and whether this is the top of a module. -/
def awaitStatement? (declares isTop : Bool) (start : Nat) : Parse (Option Item) := do
  let withResources ← (do
    if declares || isTop then nextIsWord "using" else return false)
  if withResources && (← awaitsResources) then
    advance
    let _ ← readable
    resources g start
    return ← itemAt "declaration" start
  if withResources || isTop then
    awaitStatement g
    return ← itemAt "statement" start
  return none

/-- A statement that starts with a keyword, if one does. The flags tell whether declarations may
stand here, and whether this is the top of a module. -/
def keywordStatement? (declares isTop : Bool) (start : Nat) (word : String) :
    Parse (Option Item) := do
  let statement (action : Parse Unit) : Parse (Option Item) := do
    action
    itemAt "statement" start
  match word with
  | "await" => awaitStatement? g declares isTop start
  | "break" => statement jump
  | "continue" => statement jump
  | "debugger" => statement do
      advance
      expectEnd
  | "do" => statement (doStatement g)
  | "for" => statement (forStatement g)
  | "function" =>
    if !declares then reportHere .declarationNotAllowed
    let _ ← functionDeclaration g true
    itemAt "function" start
  | "class" =>
    if !declares then reportHere .declarationNotAllowed
    classTail g true false
    itemAt "class" start
  | "if" => statement (ifStatement g)
  | "return" => statement (returnStatement g)
  | "switch" => statement (switchStatement g)
  | "throw" => statement (throwStatement g)
  | "catch" => statement (strayClauses g)
  | "finally" => statement (strayClauses g)
  | "try" => statement (tryStatement g)
  | "with" => statement (withStatement g)
  | "while" => statement (whileStatement g)
  | "var" =>
    variableList g
    itemAt "var" start
  | "const" =>
    if ← nextIsWord "enum" then
      advance
      let _ ← current
      advance
      enumTail g
      itemAt "enum" start
    else if declares then
      variableList g
      itemAt "const" start
    else return none
  | "let" =>
    if declares && (← letDeclares) then
      variableList g
      itemAt "let" start
    else return none
  | "interface" =>
    if ← declaresNext then
      advance
      let _ ← current
      return some (← interfaceItem g)
    else return none
  | "enum" =>
    if ← declaresNext then
      advance
      let _ ← current
      enumTail g
      itemAt "enum" start
    else return none
  | "type" =>
    if ← declaresNext then
      advance
      let _ ← current
      return some (.declaration (← aliasTail g))
    else return none
  | "using" =>
    if declares && (← atResources) then
      resources g start
      itemAt "declaration" start
    else return none
  | "async" =>
    if ← atAsyncFunction then
      let _ ← functionDeclaration g true
      itemAt "function" start
    else return none
  | _ => return none

/-- A statement that starts with no word of an import or export. The flags tell whether it may
be a declaration, and whether it stands at the top of a module. -/
def innerStatement (declares isTop : Bool) : Parse Item :=
  within ({ · with colonDue := false }) do
    let start ← here
    match ← required with
    | .word word =>
      match ← keywordStatement? g declares isTop start word with
      | some item => return item
      | none => expressionStatement g
    | .mark ";" =>
      advance
      return .other "statement" start
    | .mark "\x7b" =>
      block g
      return .other "statement" start
    | _ => expressionStatement g

/-- A dynamic import used as a statement. -/
def loaderStatement : Parse Item := do
  let start ← here
  let _ ← expression g
  let _ ← eatEnd
  return .other "statement" start

/-- Whether a word `import` starts an expression. -/
def atLoader : Parse Bool := do
  if !(← isWord "import") then return false
  if ← nextIsMark "." then return true
  nextIsMark "("

/-- A statement of a block. -/
def statementRule (declares : Bool) : Parse Item := do
  if ← atLoader then return ← loaderStatement g
  if ← isWordOf ["import", "export"] then fail .importInBlock
  innerStatement g declares false

end SchemaGuards.Syntax.Parse
