import SchemaGuards.Syntax.Grammar

/-!
# Names

Names of declarations, variables and members. The text of a module is strict code, so the
words of `strictWords` are reported where they name a variable.
-/

namespace SchemaGuards.Syntax.Parse

/-- Any word as a name, reserved or not. -/
def anyName : Parse String := do
  match (← required).wordText? with
  | some text =>
    advance
    return text
  | none => fail .nameExpected

/-- What a word that was taken names as a variable or a value. The flag admits `yield`. -/
def variableOf (admitsYield : Bool) (text : String) : Parse String := do
  let lo := (← previousSpan).lo
  if strictWords.contains text then report (.strictName text) lo
  let mode := (← get).mode
  if text = "await" then
    if mode.declared then return text
    if mode.staticBlock then failAt .nameExpected lo
    failAt .awaitName lo
  if text = "arguments" && mode.fieldValue then report .argumentsInField lo
  if text = "this" || text = "let" || !keywords.contains text then return text
  if text = "yield" && admitsYield then return text
  failAt .nameExpected lo

/-- A word that names a variable or a value. The flag admits `yield`. -/
def variableName (admitsYield : Bool) : Parse String := do
  match ← required with
  | .word text =>
    advance
    variableOf admitsYield text
  | .escapedWord text =>
    advance
    if text = "arguments" && (← get).mode.fieldValue then
      report .argumentsInField (← previousSpan).lo
    return text
  | _ => fail .nameExpected

/-- The name of a variable that is declared here. -/
def bindingName : Parse String := do
  let start ← here
  let name ← variableName true
  let mode := (← get).mode
  if Expr.isStrictName name then report .strictBinding start
  if name = "await" && (mode.async || mode.staticBlock) then report .nameExpected start
  if name = "yield" && mode.generator then report .nameExpected start
  return name

/-- The name of a variable if one comes next. -/
def bindingName? : Parse (Option String) := do
  if (← isName) || (← isWord "this") then return some (← bindingName) else return none

/-- The name of a private member; a number sign comes next. -/
def privateName : Parse String := do
  let start ← here
  advance
  let stop ← lastEnd
  if (← here) ≠ stop then failAt .blankAfterHash start
  anyName

/-- The name of a member; tells whether it is private. -/
def memberName : Parse Bool := do
  let isPrivate ← isMark "#"
  let _ ← if isPrivate then privateName else anyName
  return isPrivate

/-- The rest of a dotted name. A point without a name after it is reported. -/
def entityTail (allowsReserved : Bool) : List String → Parse (List String) :=
  iterate fun parts => do
    if !(← eatMark ".") then return (parts, false)
    let start ← here
    if !(← isMark "#") && !(← isAnyWord) then
      report .identifierExpected start
      return (parts, false)
    let part ← if allowsReserved then anyName else variableName false
    return (parts ++ [part], true)

/-- A dotted name. The flag admits reserved words after a point. The word `void` names nothing,
which is reported. -/
def entityName (allowsReserved : Bool) : Parse EntityName := do
  let first ← anyName
  if first = "void" then report .semicolonExpected (← here)
  return ⟨← entityTail allowsReserved [first]⟩

/-- The key of a field or of a member of a class. -/
structure Key where
  name : PropertyName
  isPrivate : Bool
  span : Span

namespace Key

/-- Whether a key is a plain word. -/
def isWord (key : Key) (text : String) : Bool := key.name = .identifier text && !key.isPrivate

/-- Whether a key names the constructor of a class. -/
def isConstructor (key : Key) : Bool :=
  !key.isPrivate && (key.name = .identifier "constructor" || key.name = .string "constructor")

end Key

variable (g : Grammar)

/-- A computed key; its bracket was taken. -/
def computedKey : Parse Unit := do
  let start ← here
  let _ ← within ({ · with inOperator := true }) g.assignment
  if ← isMark "," then
    loop do
      if !(← eatMark ",") then return false
      let _ ← within ({ · with inOperator := true }) g.assignment
      return true
    report .commaInComputedName start
  expectMark "]"

/-- The key of a field of an object. -/
def fieldKey : Parse Key := do
  let start ← here
  let name : PropertyName ← (do
    match ← required with
    | .string value _ => advance; return .string value
    | .number source => advance; return .number (Decimal.literalValue source.toList).text
    | .bigint source => advance; return .number source
    | .word text => advance; return .identifier text
    | .escapedWord text => advance; return .identifier text
    | .mark "[" => advance; computedKey g; return .computed
    | _ => unexpected "identifier, string literal, numeric literal or [ for the computed key")
  return ⟨name, false, ← spanFrom start⟩

/-- The key of a member of a class. -/
def classKey : Parse Key := do
  if ← isMark "#" then
    let start ← here
    let name ← privateName
    let span ← spanFrom start
    if name = "constructor" then report .privateConstructor start
    return ⟨.computed, true, span⟩
  else fieldKey g

end SchemaGuards.Syntax.Parse
