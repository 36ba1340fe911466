import SchemaGuards.Syntax.Bases

/-!
# Classes

Classes with their members: fields, methods, accessors, constructors, index signatures and
static blocks. Words such as `static`, `declare` or `get` are names where a member ends or
its parameters start.
-/

namespace SchemaGuards.Syntax.Parse

variable (g : Grammar)

/-- Whether the parameters of a method come next. -/
def atMethod : Parse Bool := isMarkOf ["(", "<"]

/-- Whether a field ends here or has its type or value next. The flag counts line breaks. -/
def atField (lineBreakEnds : Bool) : Parse Bool := do
  if ← isMarkOf ["!", ":", "=", "\x7d"] then return true
  if lineBreakEnds then atEnd else isMark ";"

/-- What was told about a member before its key. -/
structure MemberHead where
  start : Nat
  declared : Option Span := none
  accessible : Bool := false
  /-- The word `static` before all other modifiers. -/
  static : Option Span := none
  /-- The word `accessor`. -/
  isAccessor : Bool := false
  /-- The word `static` stands among the modifiers. -/
  isStatic : Bool := false
  isAbstract : Bool := false
  isOverride : Bool := false
  readonly : Option Span := none
  /-- The last modifier. -/
  modifier : Option Span := none

/-- What a class has to know of a member. -/
inductive MemberKind where
  /-- A constructor with a body. -/
  | constructor
  /-- An abstract field or method with a public key, by its start. -/
  | abstract (start : Nat)
  | plain
  deriving DecidableEq, Repr

/-- The kind of a field or method. -/
def MemberHead.kind (head : MemberHead) (key : Key) : MemberKind :=
  if head.isAbstract && !key.isPrivate && !head.isAccessor then .abstract head.start else .plain

/-- A field from after its key. -/
def field (head : MemberHead) (key : Key) (optional : Bool) : Parse MemberKind := do
  if key.isConstructor then failAt .constructorProperty key.span.lo
  if key.isPrivate then
    if head.declared.isSome then report (.privateModifier "declare") key.span.lo
    if head.isAbstract then report (.privateModifier "abstract") key.span.lo
  if !optional then
    let _ ← eatMark "!"
  let _ ← annotationType? g
  let hasValue ← eatMark "="
  if hasValue then
    within ({ · with inOperator := true, fieldValue := true }) do let _ ← g.assignment
  if !(← eatEnd) then reportHere .semicolonExpected
  if !head.isAccessor then
    if key.isPrivate then
      if head.accessible then report .privateAccessibility head.start
    else if head.isAbstract && hasValue then report .abstractValue head.start
  return head.kind key

/-- A method from its parameters on, which are read as the given parser tells. -/
def method (head : MemberHead) (key : Key) (parameters : Parse (List Pattern))
    (async generator : Bool) : Parse MemberKind := do
  let hasBody ← functionTail g parameters async generator
  if key.isPrivate then
    if head.accessible then report .privateAccessibility head.start
    if head.isAbstract then report (.privateModifier "abstract") head.start
  else if head.isAbstract && hasBody then report .abstractBody head.start
  return { head with isAccessor := false }.kind key

/-- A parameter of a constructor. Gives its start if it declares a field. -/
def constructorParameter : Parse (Pattern × Option Nat) := do
  let start ← here
  let accessible ← eatAccess
  let overrides ← eatModifier ["override"]
  let fixed ← eatModifier ["readonly"]
  let pattern ← parameter g
  if !(accessible || overrides || fixed) then return (pattern, none)
  match pattern.shape with
  | .name _ => return (pattern, some start)
  | .assignment => return (pattern, some start)
  | _ => failAt .parameterPropertyPattern pattern.span.lo

/-- A parameter that takes all further arguments of a constructor; its dots were taken. -/
def constructorRest (start : Nat) : Parse Pattern := do
  let _ ← g.pattern
  let _ ← annotationType? g
  return ⟨.rest, ← spanFrom start⟩

/-- The parameters of a constructor up to their closing parenthesis, which is left. Each comes
with its start if it declares a field. -/
def constructorParameters : Parse (List (Pattern × Option Nat)) :=
  iterate (fun (found : List (Pattern × Option Nat)) => do
    if (← atEof) || (← isMark ")") then return (found, false)
    match found.getLast? with
    | some (last, _) => if last.shape = .rest then report .restParameterNotLast last.span.lo
    | none => pure ()
    let start ← here
    let (pattern, declared) ← (do
      if ← eatMark "..." then return (← constructorRest g start, none)
      else constructorParameter g)
    if !(← isMark ")") then
      expectMark ","
      if (← isMark ")") && pattern.shape = .rest then
        report .commaAfterRest (← previousSpan).lo
    return (found ++ [(pattern, declared)], true)) []

/-- The type parameters of a constructor, of which it must have none. -/
def constructorTypeParameters : Parse Unit := do
  if !(← isMark "<") then return
  let start ← here
  match ← nextLexeme with
  | some ⟨.mark ">", _, _⟩ =>
    advance
    advance
    report .emptyTypeParameters start
  | first =>
    let _ ← typeParameters g false true
    report .constructorTypeParameters ((first.map (·.span.lo)).getD start)

/-- A constructor from after its key. -/
def constructor (head : MemberHead) : Parse MemberKind := do
  if head.isOverride then report (.constructorModifier "override") head.start
  constructorTypeParameters g
  expectMark "("
  let found ← within ({ · with parameters := true, function := false, fieldValue := false })
    (constructorParameters g)
  expectMark ")"
  if ← isMark ":" then
    let node ← annotationType g
    report .constructorReturnType node.span.lo
  let isPlain := found.all fun (pattern, declared) => declared.isSome || pattern.isName
  let hasBody ← functionBody g false false isPlain
  match hasBody, found.findSome? (·.2) with
  | false, some start => report .parameterProperty start
  | _, _ => pure ()
  match head.static with
  | some span => report (.constructorModifier "static") span.lo
  | none => pure ()
  match head.modifier with
  | some span => if head.isAbstract then report .abstractConstructor span.lo
  | none => pure ()
  return if hasBody then .constructor else .plain

/-- Read the modifiers before a key and check their order. -/
def memberModifiers (head : MemberHead) : Parse MemberHead :=
  iterate (fun (head : MemberHead) => do
    match ← modifier? ["abstract", "readonly", "override", "static"] true with
    | none => return (head, false)
    | some word =>
      let span ← previousSpan
      let head := { head with modifier := some span }
      match word with
      | "abstract" =>
        if head.isAbstract then report (.modifierRepeated word) span.lo
        else if head.isOverride then report (.modifierOrder word "override") span.lo
        return ({ head with isAbstract := true }, true)
      | "override" =>
        if head.isOverride then report (.modifierRepeated word) span.lo
        else if head.readonly.isSome then report (.modifierOrder word "readonly") span.lo
        else if head.declared.isSome then report (.modifierConflict word "declare") span.lo
        else if !(← get).mode.superClass then report .overrideWithoutSuperclass span.lo
        return ({ head with isOverride := true }, true)
      | "readonly" =>
        if head.readonly.isSome then
          report (.modifierRepeated word) span.lo
          return (head, true)
        return ({ head with readonly := some span }, true)
      | _ =>
        if head.isOverride then report (.modifierOrder word "override") span.lo
        return ({ head with isStatic := true }, true)) head

/-- A block that runs when the class is made. -/
def staticBlock : Parse MemberKind := do
  within (fun mode => { mode with
    staticBlock := true, classBody := true, fieldValue := true }) (withoutLabels (block g))
  return .plain

/-- An asynchronous method from after its word. -/
def asyncMethod (head : MemberHead) (optional : Bool) : Parse MemberKind := do
  let overrides ← eatModifier ["override"]
  if overrides then report (.modifierOrder "override" "async") (← previousSpan).lo
  let generator ← eatMark "*"
  let key ← classKey g
  if key.isConstructor then failAt .constructorAsync key.span.lo
  if head.readonly.isSome then report .readonlyMethod head.start
  if !optional then
    let _ ← eatMark "?"
  method g head key (parameters g) true generator

/-- A getter or a setter from after its word. -/
def classAccessor (head : MemberHead) (word : Key) : Parse MemberKind := do
  let key ← classKey g
  if head.readonly.isSome then report .readonlyAccessor word.span.lo
  if key.isConstructor then report .constructorAccessor word.span.lo
  if word.isWord "get" then method g head key (getterParameters g word.span) false false
  else method g head key (setterParameters g word.span) false false

/-- A method or a constructor from after its key. -/
def plainMethod (head : MemberHead) (key : Key) : Parse MemberKind := do
  match head.declared with
  | some span => report .declareModifier span.lo
  | none => pure ()
  if head.readonly.isSome then failAt .readonlyMethod head.start
  if key.isConstructor then constructor g head else method g head key (parameters g) false false

/-- A member with a key. -/
def keyedMember (head : MemberHead) : Parse MemberKind := do
  let key : Key ← (do
    match head.readonly with
    | some span =>
      if ← isMarkOf ["!", ":"] then return ⟨.identifier "readonly", false, span⟩ else classKey g
    | none => classKey g)
  let optional ← eatMark "?"
  if ← atMethod then return ← plainMethod g head key
  let isAccessor ← (do
    if !(key.isWord "get" || key.isWord "set") then return false
    if ← atField false then return false
    return !((← onFreshLine) && (← isMark "*")))
  let isField ← (do if isAccessor then return false else atField true)
  if isField then return ← field g head key optional
  let isAsync ← (do if key.isWord "async" then return !(← onFreshLine) else return false)
  if isAsync then asyncMethod g head optional
  else if isAccessor then classAccessor g head key
  else unexpected "* for generator, private key, identifier or async"

/-- Report modifiers before a static block. -/
def strayModifiers (spans : List (Option Span)) : Parse Unit := do
  for span in spans do
    match span with
    | some span => report .modifierMisplaced span.lo
    | none => pure ()

/-- A member from its modifiers on. -/
def memberTail (head : MemberHead) : Parse MemberKind := do
  let head ← memberModifiers head
  if (head.static.isSome || head.isStatic) && (← isMark "\x7b") then
    strayModifiers [head.declared]
    if head.accessible then reportHere .modifierMisplaced
    return ← staticBlock g
  let opensStaticBlock ← (do
    if ← isWord "static" then nextIsMark "\x7b" else return false)
  if opensStaticBlock then
    strayModifiers [head.modifier, head.static]
    advance
    return ← staticBlock g
  if !head.isAbstract && !head.isOverride && !head.accessible then
    if ← indexSignature? g then return .plain
  if ← eatMark "*" then
    let key ← classKey g
    if head.readonly.isSome then report .readonlyMethod head.start
    if key.isConstructor then report .constructorGenerator head.start
    method g head key (parameters g) false true
  else keyedMember g head

/-- A member whose key is a word that might have been a modifier, if it is one. A line break may
end it as the flag tells. -/
def wordMember? (head : MemberHead) (text : String) (lineBreakEnds : Bool) :
    Parse (Option MemberKind) := do
  let key : Key := ⟨.identifier text, false, ← previousSpan⟩
  if ← atMethod then return some (← method g head key (parameters g) false false)
  let isField ← (do if ← atField lineBreakEnds then return true else isMark "?")
  if !isField then return none
  let optional ← eatMark "?"
  return some (← field g head key optional)

/-- A member from the word `accessor` on, which may be its key. -/
def accessorMember (head : MemberHead) : Parse MemberKind := do
  if !(← eatWord "accessor") then return ← memberTail g head
  match ← wordMember? g head "accessor" false with
  | some kind => return kind
  | none => memberTail g { head with isAccessor := true }

/-- A member from the word `static` on, which may be its key. -/
def staticMember (head : MemberHead) : Parse MemberKind := do
  if !(← eatWord "static") then return ← accessorMember g head
  let span ← previousSpan
  match ← wordMember? g head "static" false with
  | some kind => return kind
  | none => accessorMember g { head with static := some span }

/-- A member of a class. -/
def classMember : Parse MemberKind := do
  let start ← here
  let declares ← eatWord "declare"
  let accessible ← eatAccess
  let declares ← (do if declares then return true else eatWord "declare")
  if !declares then return ← staticMember g { start, accessible }
  let span ← spanFrom start
  match ← wordMember? g { start, accessible } "declare" true with
  | some kind => return kind
  | none => staticMember g { start, accessible, declared := some span }

/-- The members of a class up to its closing brace, which is left. Gives where abstract ones
start. -/
def classBody : Parse (List Nat) := do
  let (_, starts) ← iterate (fun ((constructed, starts) : Bool × List Nat) => do
    if (← atEof) || (← isMark "\x7d") then return ((constructed, starts), false)
    if ← eatMark ";" then return ((constructed, starts), true)
    let start ← here
    match ← within ({ · with classBody := true }) (classMember g) with
    | .constructor =>
      if (← get).mode.declared then return ((constructed, starts), true)
      if constructed then report .constructorRepeated start
      return ((true, starts), true)
    | .abstract start => return ((constructed, starts ++ [start]), true)
    | .plain => return ((constructed, starts), true)) (false, [])
  return starts

/-- The class that a class extends. -/
def superClass : Parse Unit := do
  moreArguments g (← g.leftHand)

/-- More classes than the one that a class may extend. -/
def moreSuperclasses : Parse Unit := do
  if ← eatMark "," then
    let start ← here
    if !(← bases g).isEmpty then report .manySuperclasses start

/-- What a class extends and implements; tells whether it extends one. -/
def classHeritage : Parse Bool := do
  let first ← eatWord "extends"
  if first then
    superClass g
    moreSuperclasses g
  if ← eatWord "extends" then
    report .extendsRepeated (← previousSpan).lo
    superClass g
  if ← eatWord "implements" then
    let _ ← bases g
  if ← eatWord "implements" then
    report .implementsRepeated (← previousSpan).lo
    let _ ← bases g
  let late ← eatWord "extends"
  if late then
    report .implementsRepeated (← previousSpan).lo
    superClass g
  return first || late

/-- A class from its word on. Only an abstract one may have abstract members. -/
def classTail (namedAlways isAbstract : Bool) : Parse Unit := do
  expectWord "class"
  let start ← here
  let name ← (do
    if namedAlways then return some (← bindingName) else bindingName?)
  if name.any predefinedNames.contains then report .classNameReserved start
  let _ ← typeParameters? g true true
  let superClass ← classHeritage g
  expectMark "\x7b"
  let starts ← within ({ · with superClass }) (classBody g)
  if ← atEof then reportHere (.expected "\x7d" "<eof>") else expectMark "\x7d"
  if !isAbstract then
    for start in starts do report .abstractMember start

/-- A class used as an expression. -/
def classExpression : Parse Expr := do
  let start ← here
  classTail g false false
  otherFrom .function false start

end SchemaGuards.Syntax.Parse
