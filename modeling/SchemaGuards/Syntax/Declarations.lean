import SchemaGuards.Syntax.Operators

/-!
# Declarations

Variables, enumerations, namespaces and the declarations that start with a word that is a
name elsewhere, such as `type` or `declare`.
-/

namespace SchemaGuards.Syntax.Parse

variable (g : Grammar)

/-! ## Variables -/

/-- A variable with its type and value. The flag tells the head of a loop. -/
def variableDeclarator (isConst inLoopHead : Bool) : Parse (Pattern × Bool × Bool) := do
  let start ← here
  let pattern ← g.pattern
  if pattern.isName then
    let _ ← eatMark "!"
  let typed := (← annotationType? g).isSome
  let bound ← (do if inLoopHead then isWordOf ["in", "of"] else return false)
  if bound then return (pattern, typed, false)
  if ← eatMark "=" then
    let _ ← g.assignment
    return (pattern, typed, true)
  if !(← get).mode.declared then
    if isConst then report .constWithoutValue start
    else if !pattern.isName then failAt .patternWithoutValue start
  return (pattern, typed, false)

/-- Report a missing semicolon and go on behind the next one. -/
def skipToEnd : Parse Unit := do
  reportHere .semicolonExpected
  let _ ← tryCatch (do let _ ← expression g) fun _ => return
  loop do
    if ← eatEnd then return false
    advance
    match ← current with
    | some (.broken _ _) => return false
    | _ => return true

/-- Whether the word that comes next tells what a loop goes over, so that the head of the loop
declares no variable. -/
def omitsVariables : Parse Bool := do
  if !(← isWordOf ["in", "of"]) then return false
  tryCatch (lookAhead do
    advance
    let _ ← g.assignment
    expectMark ")"
    return true) fun _ => return false

/-- Variables with commas. A comma at the end is reported. -/
def variableDeclarators (isConst inLoopHead : Bool) : Parse (List (Pattern × Bool × Bool)) := do
  let word ← previousSpan
  if inLoopHead then
    if ← omitsVariables g then
      report .emptyVariables word.hi
      return []
  iterate (fun (found : List (Pattern × Bool × Bool)) => do
    if (← atEof) || (← isMark ";") then
      let span ← previousSpan
      report .trailingComma (if span = word then span.hi else span.lo)
      return (found, false)
    let found := found ++ [← variableDeclarator g isConst inLoopHead]
    return (found, ← eatMark ",")) []

/-- A declaration of variables; its word comes next. -/
def variableList : Parse Unit := do
  let isConst ← isWord "const"
  advance
  let _ ← within ({ · with inOperator := true }) (variableDeclarators g isConst false)
  if !(← eatEnd) then skipToEnd g

/-- A declaration of resources that are disposed of at the end of a block, from its word on. It
leaves its semicolon. -/
def resources (start : Nat) : Parse Unit := do
  advance
  let found ← variableDeclarators g false false
  for (pattern, _, hasValue) in found do
    if !pattern.isName then report .usingPattern start
    if !hasValue then report .usingInitializer start

/-! ## Enumerations and namespaces -/

/-- A member of an enumeration. -/
def enumMember : Parse Unit := do
  let start ← here
  match ← required with
  | .string _ _ => advance
  | .number _ =>
    advance
    report .numericEnumMember start
  | .mark "[" =>
    advance
    let _ ← expression g
    report .computedEnumMember start
    expectMark "]"
  | _ => let _ ← anyName
  if ← eatMark "=" then
    let _ ← g.assignment
  else if !(← isMarkOf [",", "\x7d"]) then
    let stray ← here
    advance
    modify fun s => { s with current := some ⟨.mark ",", s.previous, false⟩ }
    report .semicolonExpected stray

/-- An enumeration from its name on. -/
def enumTail : Parse Unit := do
  let _ ← anyName
  expectMark "\x7b"
  loop do
    if ← isMark "\x7d" then return false
    enumMember g
    if ← eatMark "," then return true
    if ← isMark "\x7d" then return false
    reportHere (.expected "," (← currentShown))
    return true
  expectMark "\x7d"

/-- The statements of a namespace between braces. -/
def namespaceBlock : Parse Unit := do
  expectMark "\x7b"
  let _ ← blockBody g.moduleItem

/-- A namespace from its name on. -/
def namespaceTail : Parse Unit := do
  let _ ← anyName
  loop do
    if !(← eatMark ".") then return false
    let _ ← anyName
    return true
  namespaceBlock g

/-- A module that is declared by its path, or the global scope. -/
def ambientModule : Parse Unit := do
  match ← required with
  | .word "global" => advance
  | .string _ _ => advance
  | _ => unexpected "global or a string literal"
  if ← isMark "\x7b" then namespaceBlock g else expectEnd

/-! ## Declarations by a leading word -/

/-- A kind of statement at a start. -/
def itemAt (kind : String) (start : Nat) : Parse (Option Item) := return some (.other kind start)

/-- An interface from its name on. -/
def interfaceItem : Parse Item := return .declaration (← interfaceTail g)

/-- A declaration that a leading word opens. With `committed` the word comes next and what
follows has to be a declaration; without it the word was taken and may be a mere name. -/
def wordDeclaration? (start : Nat) (word : String) (committed : Bool) : Parse (Option Item) := do
  let take : Parse Unit := if committed then advance else pure ()
  match word with
  | "abstract" =>
    let opens ← (do
      if committed then return true
      if ← isWord "class" then return !(← onFreshLine) else return false)
    if !opens then return none
    take
    classTail g true true
    itemAt "class" start
  | "enum" =>
    if !committed && !(← isName) then return none
    take
    enumTail g
    itemAt "enum" start
  | "interface" =>
    if !committed && !(← isName) then return none
    take
    return some (← interfaceItem g)
  | "module" =>
    if ← onFreshLine then return none
    take
    match ← required with
    | .string _ _ =>
      ambientModule g
      itemAt "namespace" start
    | _ =>
      if !committed && !(← isName) then return none
      namespaceTail g
      itemAt "namespace" start
  | "namespace" =>
    if !committed && !(← isName) then return none
    take
    namespaceTail g
    itemAt "namespace" start
  | "type" =>
    let opens ← (do
      if committed then return true
      if ← onFreshLine then return false else isName)
    if !opens then return none
    take
    return some (.declaration (← aliasTail g))
  | _ => return none

/-- The declaration after the word `declare`, if there is one; the word was taken. -/
def declared? (start : Nat) : Parse (Option Item) := do
  if (← get).mode.declared then report .nestedDeclare (← previousSpan).lo
  within ({ · with declared := true }) do
    match ← current with
    | some (.word "function") =>
      let _ ← functionDeclaration g true
      itemAt "function" start
    | some (.word "class") =>
      classTail g true false
      itemAt "class" start
    | some (.word "var") =>
      variableList g
      itemAt "var" start
    | some (.word "let") =>
      variableList g
      itemAt "let" start
    | some (.word "const") =>
      if ← nextIsWord "enum" then
        advance
        let _ ← required
        advance
        enumTail g
        itemAt "enum" start
      else
        variableList g
        itemAt "const" start
    | some (.word "global") =>
      ambientModule g
      itemAt "namespace" start
    | token =>
      match token.bind (·.wordText?) with
      | some word => wordDeclaration? g start word true
      | none => return none

/-- The declaration that a name opens at the start of a statement, if it opens one. -/
def namedDeclaration? (start : Nat) (name : String) : Parse (Option Item) := do
  match name with
  | "declare" =>
    if ← onFreshLine then return none
    declared? g start
  | "global" =>
    if !(← isMark "\x7b") then return none
    namespaceBlock g
    itemAt "namespace" start
  | _ => wordDeclaration? g start name false

end SchemaGuards.Syntax.Parse
