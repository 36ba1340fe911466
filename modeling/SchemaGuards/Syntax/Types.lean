import SchemaGuards.Syntax.Modifiers

/-!
# Types

The grammar of type expressions. From loose to tight: conditional types, function types,
unions, intersections, prefix operators, arrays and indexed types, and the types that stand
for themselves.

## Implementation notes

A type is read in the mode in which angle brackets stand alone. Whether a parenthesis opens
the parameters of a function type is found by looking ahead.
-/

namespace SchemaGuards.Syntax.Parse

/-- What may start a type, as a diagnostic tells it. -/
def typeStarts : String :=
  "an identifier, void, yield, null, await, break, a string literal, a numeric literal, " ++
    "true, false, `, -, import, this, typeof, \x7b, [, ("

/-- What may start a parameter of a function type, as a diagnostic tells it. -/
def signatureParameterStarts : String :=
  "an identifier, [ for an array pattern, \x7b for an object patter or ... for a rest pattern"

variable (g : Grammar)

/-- A type annotation; its colon comes next. -/
def annotationType : Parse TypeNode :=
  typeMode do
    advance
    g.type

/-- A type annotation, which may be left out. -/
def annotationType? : Parse (Option TypeNode) := do
  if ← isMark ":" then return some (← annotationType g) else return none

/-- A type after the given token, if it comes next. -/
def typeAfter? (token : Token) : Parse (Option TypeNode) :=
  typeMode do
    if ← eat token then return some (← g.type) else return none

/-- A list with commas, before which and after each part the end may stand. -/
def delimited {α : Type} (atClose : Parse Bool) (item : Parse α) : Parse (List α) := do
  iterate (fun (items : List α) => do
    if ← atClose then return (items, false)
    let a ← item
    let items := items ++ [a]
    if ← eatMark "," then return (items, true)
    if ← atClose then return (items, false)
    expectMark ","
    return (items, true)) []

/-- Split a double angle bracket that comes next, and take the first half. -/
def splitAngle : Parse Bool := do
  match ← currentLexeme with
  | some ⟨.mark "<<", span, _⟩ =>
    modify ({ · with current := some ⟨.mark "<", ⟨span.lo + 1, span.hi⟩, false⟩ })
    return true
  | _ => return false

/-- Type arguments in angle brackets. -/
def typeArguments : Parse (List TypeNode) :=
  typeMode do
    if !(← splitAngle) then expectMark "<"
    let types ← delimited (isMark ">") g.type
    expectMark ">"
    return types

/-- Type arguments, which may be left out. -/
def typeArguments? : Parse (Option (List TypeNode)) := do
  if ← isMark "<" then return some (← typeArguments g) else return none

/-- The modifiers of a type parameter, of which few are right in few places. -/
def typeParameterModifiers (admitsVariance admitsConst : Bool) : Parse Unit := do
  let _ ← iterate (fun (seen : List String) => do
    let found ← modifier? ["public", "private", "protected", "readonly", "abstract", "const",
      "override", "in", "out"] false
    match found with
    | none => return (seen, false)
    | some word =>
      let lo := (← previousSpan).lo
      if word = "const" then
        if !admitsConst then report (.modifierNeedsFunction word) lo
      else if word = "in" || word = "out" then
        if !admitsVariance then report (.modifierNeedsClass word) lo
        else if seen.contains word then report (.modifierRepeated word) lo
        else if word = "in" && seen.contains "out" then report (.modifierOrder "in" "out") lo
      else report (.modifierOnTypeParameter word) lo
      return (word :: seen, true)) []
  return

/-- A type parameter with its bound and its default. -/
def typeParameter (admitsVariance admitsConst : Bool) : Parse String := do
  typeParameterModifiers admitsVariance admitsConst
  let name ← typeMode anyName
  let _ ← typeAfter? g (.word "extends")
  let _ ← typeAfter? g (.mark "=")
  return name

/-- Type parameters in angle brackets. The flags admit `in` and `out`, and `const`. -/
def typeParameters (admitsVariance admitsConst : Bool) : Parse (List String) :=
  typeMode do
    if !(← isMark "<") then unexpected "< (jsx tag start)"
    advance
    let names ← delimited (isMark ">") (typeParameter g admitsVariance admitsConst)
    expectMark ">"
    return names

/-- Type parameters, which may be left out. -/
def typeParameters? (admitsVariance admitsConst : Bool) : Parse (List String) := do
  if ← isMark "<" then typeParameters g admitsVariance admitsConst else return []

/-- How the current token is told where one may be missing. -/
def currentShownAsOption : Parse String := do
  match ← readable with
  | some token => return s!"Some({← shown token})"
  | none => return "None"

/-- The type of a result, or a predicate on a parameter, after the given mark. -/
def resultType (mark : String) : Parse Unit :=
  typeMode do
    if !(← eatMark mark) then
      let found ← currentShownAsOption
      fail (.expected mark found)
    let asserts ← (do
      if ← isWord "asserts" then return ← nextIsName else return false)
    if asserts then advance
    let isPredicate ← (do
      if ← isName then
        if ← nextIsWord "is" then return !(← nextOnFreshLine)
      return false)
    if asserts || isPredicate then
      let _ ← anyName
      if isPredicate then
        advance
        let _ ← g.type
    else
      let _ ← g.type

/-- The type of a result after the given mark, which may be left out. -/
def resultType? (mark : String) : Parse Unit := do
  if ← isMark mark then resultType g mark

/-! ## Parameters -/

/-- The value that an equals sign gives to a parameter or variable. -/
def initializer : Parse Unit := do
  let _ ← within ({ · with inOperator := true }) g.assignment

/-- A pattern with an optional value. -/
def patternWithValue : Parse Pattern := do
  let start ← here
  let pattern ← g.pattern
  if ← eatMark "=" then
    initializer g
    let span ← spanFrom start
    if (← get).mode.declared then report .initializerWithoutBody span.lo
    return ⟨.assignment, span⟩
  return pattern

/-- A parameter after its modifiers: pattern, question mark, type and value. -/
def parameterTail (start : Nat) : Parse Pattern := do
  let patternStart ← here
  let pattern ← patternWithValue g
  let optional ← eatMark "?"
  if optional then
    match pattern.shape with
    | .name _ => pure ()
    | .list => pure ()
    | .record => pure ()
    | _ => if !(← get).mode.declared then failAt .optionalPattern (← previousSpan).lo
  let typed := (← annotationType? g).isSome
  let stop ← lastEnd
  let pattern : Pattern := if typed then { pattern with span := ⟨patternStart, stop⟩ } else pattern
  if typed && pattern.shape = .assignment then report .annotationAfterDefault pattern.span.lo
  if ← eatMark "=" then
    if optional then report .optionalWithInitializer pattern.span.lo
    let _ ← g.assignment
    if (← get).mode.declared then report .initializerWithoutBody start
    return ⟨.assignment, ← spanFrom start⟩
  return pattern

/-- A parameter of a function or of a signature. -/
def parameter : Parse Pattern := do
  let start ← here
  let modified ← eatParameterModifier
  let pattern ← parameterTail g start
  if modified then report .parameterProperty start
  return pattern

/-- A parameter that takes all further arguments; its dots were taken. -/
def restParameter (start : Nat) : Parse Pattern := do
  let pattern ← g.pattern
  if ← eatMark "=" then
    let _ ← g.assignment
    report .restInitializer pattern.span.lo
  let _ ← annotationType? g
  let span ← spanFrom start
  if ← eatMark "?" then report .restOptional (← previousSpan).lo
  return ⟨.rest, span⟩

/-- The parameters of a function up to their closing parenthesis, which is left. -/
def parametersOf (one : Parse Pattern) : Parse (List Pattern) := do
  iterate (fun (patterns : List Pattern) => do
    if (← atEof) || (← isMark ")") then return (patterns, false)
    match patterns.getLast? with
    | some last => if last.shape = .rest then report .restParameterNotLast last.span.lo
    | none => pure ()
    let start ← here
    let pattern ← (do if ← eatMark "..." then restParameter g start else one)
    if !(← isMark ")") then
      expectMark ","
      if (← isMark ")") && pattern.shape = .rest then
        report .commaAfterRest (← previousSpan).lo
    return (patterns ++ [pattern], true)) []

/-- The parameters of a function. -/
def parameters : Parse (List Pattern) := parametersOf g (parameter g)

/-- The parameters of a signature with their closing parenthesis. None has a value. -/
def signatureParameters : Parse (List Pattern) := do
  let patterns ← parameters g
  if patterns.any fun p => p.shape = .assignment || p.shape = .invalid then
    unexpected signatureParameterStarts
  expectMark ")"
  return patterns

/-- Type parameters and parameters of a signature. -/
def signatureHead : Parse Unit := do
  let _ ← typeParameters? g false true
  expectMark "("
  let _ ← signatureParameters g

/-! ## Function types -/

/-- Take the start of a parameter, if there is one. -/
def skipParameterStart : Parse Bool := do
  let _ ← eatParameterModifier
  if ← isAnyWord then
    advance
    return true
  if (← isMark "\x7b") || (← isMark "[") then
    let found ← attempt do return some (← g.pattern)
    return found.isSome
  return false

/-- Whether a parenthesis opens the parameters of a function type. -/
def opensParameters : Parse Bool := do
  advance
  if ← isMarkOf [")", "..."] then return true
  if ← skipParameterStart g then
    if ← isMarkOf [":", ",", "?", "="] then return true
    if ← eatMark ")" then return ← isMark "=>"
  return false

/-- Whether a function type comes next. -/
def startsFunctionType : Parse Bool := do
  if ← isMark "<" then return true
  if ← isMark "(" then return ← lookAhead (opensParameters g)
  return false

/-- A function type or the type of a constructor. -/
def functionType (isConstructor : Bool) : Parse TypeNode := do
  let start ← here
  if isConstructor then
    let _ ← eatWord "abstract"
    expectWord "new"
  let _ ← typeParameters? g false true
  expectMark "("
  let _ ← signatureParameters g
  resultType g "=>"
  otherType "function type" start

/-! ## Types that stand for themselves -/

/-- A chunk of a template with the mark after it; tells whether the template ends there. The
flag admits faulty escapes. -/
def templateChunk (admitsFaults : Bool) : Parse Bool := do
  match ← required with
  | .chunk _ fault =>
    advance
    match fault with
    | some fault => if !admitsFaults then throw fault
    | none => pure ()
    isMark "`"
  | _ => unexpected "template token"

/-- The chunks and holes of a template up to its closing mark, which is left. -/
def templateParts (admitsFaults : Bool) (hole : Parse Unit) : Parse Unit := do
  if ← templateChunk admitsFaults then return
  loop do
    expectMark "$\x7b"
    hole
    expectMark "\x7d"
    return !(← templateChunk admitsFaults)

/-- A template used as a type. -/
def templateType : Parse TypeNode := do
  let start ← here
  advance
  templateParts false do let _ ← g.type
  expectMark "`"
  otherType "template literal type" start

/-- A literal used as a type. -/
def literalType : Parse TypeNode := do
  let start ← here
  match ← required with
  | .string value _ =>
    advance
    return ⟨.literal (.string value), ← spanFrom start⟩
  | .number _ =>
    advance
    return ⟨.literal (.number (← textFrom start)), ← spanFrom start⟩
  | .bigint _ =>
    advance
    otherType "literal type" start
  | .word text =>
    advance
    return ⟨.literal (.boolean (text = "true")), ← spanFrom start⟩
  | _ => unexpected typeStarts

/-- A negative number used as a type. -/
def negativeType : Parse TypeNode := do
  let start ← here
  advance
  match ← required with
  | .number _ =>
    advance
    return ⟨.literal (.number (← textFrom start)), ← spanFrom start⟩
  | .bigint _ =>
    advance
    otherType "literal type" start
  | _ => unexpected "numeric literal or bigint literal"

/-- A name with its type arguments. -/
def referenceType : Parse TypeNode := do
  let start ← here
  let modified ← eatParameterModifier
  let name ← entityName true
  let arguments ← (do
    if ← onFreshLine then return none
    typeArguments? g)
  if modified then report .parameterProperty start
  return ⟨.reference name ((arguments.getD []).map (·.type)), ← spanFrom start⟩

/-- The type of an imported module, or of a name in it. -/
def importType : Parse TypeNode := do
  let start ← here
  advance
  expectMark "("
  let _ ← readable
  let argument ← currentSpan
  match ← required with
  | .string _ _ => advance
  | _ =>
    advance
    report .stringExpected argument.lo
  expectMark ")"
  if ← eatMark "." then
    let _ ← entityName false
  let _ ← typeArguments? g
  otherType "import type" start

/-- The type of a value. -/
def queryType : Parse TypeNode := do
  let start ← here
  expectWord "typeof"
  if ← isWord "import" then
    let _ ← importType g
  else
    let _ ← entityName true
  if !(← onFreshLine) then
    let _ ← typeArguments? g
  otherType "type query" start

/-- The type of the receiver, or a predicate on it. -/
def receiverType : Parse TypeNode := do
  let start ← here
  advance
  let isPredicate ← (do if ← onFreshLine then return false else isWord "is")
  if isPredicate then
    advance
    let _ ← typeMode g.type
    otherType "type predicate" start
  else return ⟨.keyword .this, ← spanFrom start⟩

/-- An assertion about the receiver. -/
def receiverAssertion : Parse TypeNode := do
  let start ← here
  advance
  expectWord "this"
  if ← eatWord "is" then
    let _ ← typeMode g.type
  otherType "type predicate" start

/-- The label of a tuple's element. -/
def tupleLabel : Parse Unit := do
  let _ ← attempt do
    let _ ← eatMark "..."
    let _ ← anyName
    let _ ← eatMark "?"
    expectMark ":"
    return some ()

/-- An element of a tuple; tells whether it is required, optional (some true) or takes
the rest (none). -/
def tupleElement : Parse (Option Bool) := do
  tupleLabel
  if ← eatMark "..." then
    let _ ← g.type
    return none
  let _ ← g.type
  return some (← eatMark "?")

/-- Whether an optional element of a tuple stands before a required one. -/
def hasRequiredAfterOptional : List (Option Bool) → Bool
  | [] => false
  | some true :: rest => rest.contains (some false) || hasRequiredAfterOptional rest
  | _ :: rest => hasRequiredAfterOptional rest

/-- A tuple. -/
def tupleType : Parse TypeNode := do
  let start ← here
  expectMark "["
  let elements ← delimited (isMark "]") (tupleElement g)
  expectMark "]"
  if hasRequiredAfterOptional elements then failAt .requiredAfterOptional start
  otherType "tuple" start

/-- A type in parentheses, which leave no trace but in its span. -/
def groupedType : Parse TypeNode := do
  let start ← here
  expectMark "("
  let inner ← g.type
  expectMark ")"
  return ⟨inner.type, ← spanFrom start⟩

/-- Whether a brace opens a mapped type. -/
def opensMappedType : Parse Bool := do
  advance
  if ← (do if ← eatMark "+" then return true else eatMark "-") then return ← isWord "readonly"
  let _ ← eatWord "readonly"
  if !(← eatMark "[") then return false
  if !(← isName) then return false
  advance
  isWord "in"

/-- A plus or a minus before a modifier, or the modifier alone. -/
def mappedModifier (token : Token) : Parse Unit := do
  if ← isMarkOf ["+", "-"] then
    advance
    if !(← eat token) then fail (.expected (← shown token) (← currentShown))
  else let _ ← eat token

/-- A mapped type. -/
def mappedType : Parse TypeNode := do
  let start ← here
  expectMark "\x7b"
  mappedModifier (.word "readonly")
  expectMark "["
  let _ ← anyName
  match ← typeAfter? g (.word "in") with
  | some _ => pure ()
  | none => fail (.unexpected (← currentShownAsOption) "in")
  if ← eatWord "as" then
    let _ ← g.type
  expectMark "]"
  mappedModifier (.mark "?")
  let _ ← annotationType? g
  expectEnd
  expectMark "\x7d"
  otherType "mapped type" start

/-- The predefined type or the kind of a word that stands alone. -/
def wordType? (text : String) : Option (Option Keyword) :=
  if text = "intrinsic" then some none
  else if text = "this" then none
  else (Keyword.ofWord? text).map some

/-- A type that starts with a plain word: predefined, or a reference. -/
def wordType (text : String) : Parse TypeNode := do
  let start ← here
  let asserts ← (do if text = "asserts" then nextIsWord "this" else return false)
  if asserts then receiverAssertion g
  else
    match wordType? text, ← nextIsMark "." with
    | some keyword, false =>
      advance
      match keyword with
      | some keyword => return ⟨.keyword keyword, ← spanFrom start⟩
      | none => otherType "keyword" start
    | _, _ => referenceType g

/-! ## Operators -/

/-- Reserved words that a type may start with as if they were names. -/
def admittedWords : List String := ["void", "yield", "null", "await", "break"]

/-- A type that stands for itself; `members` reads the type of an object. -/
def primaryType (members : Parse TypeNode) : Parse TypeNode := do
  match ← required with
  | .word text =>
    if text = "true" || text = "false" then literalType
    else if text = "import" then importType g
    else if text = "this" then receiverType g
    else if text = "typeof" then queryType g
    else if !keywords.contains text || admittedWords.contains text then wordType g text
    else unexpected typeStarts
  | .escapedWord _ => referenceType g
  | .string _ _ => literalType
  | .number _ => literalType
  | .bigint _ => literalType
  | .mark text =>
    match text with
    | "`" => templateType g
    | "-" => negativeType
    | "\x7b" => if ← lookAhead opensMappedType then mappedType g else members
    | "[" => tupleType g
    | "(" => groupedType g
    | _ => unexpected typeStarts
  | _ => unexpected typeStarts

/-- The brackets after a type: lists of it and types of its members. -/
def bracketedTypes (first : TypeNode) : Parse TypeNode :=
  iterate (fun (node : TypeNode) => do
    if ← onFreshLine then return (node, false)
    if !(← eatMark "[") then return (node, false)
    if ← eatMark "]" then
      return (⟨.array node.type, ← spanFrom node.span.lo⟩, true)
    let _ ← g.type
    expectMark "]"
    return (← otherType "indexed access type" node.span.lo, true)) first

/-- The bound of an inferred type, unless it belongs to a conditional type around it. -/
def inferBound : Parse Unit := do
  let _ ← attempt do
    expectWord "extends"
    let node ← within ({ · with plainTypes := true }) g.plainType
    if (← get).mode.plainTypes || !(← isMark "?") then return some node else return none

/-- A type with its prefix operators. -/
def operatorTypeRule (members : Parse TypeNode) : Parse TypeNode := do
  let start ← here
  if ← isWordOf ["keyof", "unique", "readonly"] then
    advance
    let _ ← g.operatorType
    otherType "type operator" start
  else if ← eatWord "infer" then
    let _ ← anyName
    inferBound g
    otherType "infer type" start
  else
    let _ ← eatModifier ["readonly"]
    bracketedTypes g (← primaryType g members)

/-- Types joined by an operator, with the operator allowed before the first. -/
def joinedTypes (mark : String) (part : Parse TypeNode) : Parse (Nat × List TypeNode) := do
  let start ← here
  let _ ← eatMark mark
  let first ← part
  let types ← iterate (fun (types : List TypeNode) => do
    if ← eatMark mark then return (types ++ [← part], true) else return (types, false)) [first]
  return (start, types)

/-- An intersection. -/
def intersectionType : Parse TypeNode := do
  match ← joinedTypes "&" g.operatorType with
  | (_, [single]) => return single
  | (start, _) => otherType "intersection" start

/-- A union. -/
def unionType : Parse TypeNode := do
  match ← joinedTypes "|" (intersectionType g) with
  | (_, [single]) => return single
  | (start, types) => return ⟨.union (types.map (·.type)), ← spanFrom start⟩

/-- A type that is not conditional at its top. -/
def plainTypeRule : Parse TypeNode := do
  if ← startsFunctionType g then functionType g false
  else
    let isConstructor ← (do
      if ← isWord "new" then return true
      if ← isWord "abstract" then nextIsWord "new" else return false)
    if isConstructor then functionType g true else unionType g

/-- A type. -/
def typeRule : Parse TypeNode :=
  within ({ · with plainTypes := false }) do
    let start ← here
    let node ← g.plainType
    if ← onFreshLine then return node
    if !(← eatWord "extends") then return node
    let _ ← within ({ · with plainTypes := true }) g.plainType
    expectMark "?"
    let _ ← g.type
    expectMark ":"
    let _ ← g.type
    otherType "conditional type" start

end SchemaGuards.Syntax.Parse
