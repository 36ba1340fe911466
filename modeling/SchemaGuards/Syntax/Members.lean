import SchemaGuards.Syntax.Types

/-!
# Members of interfaces and object types

Signatures, accessors, methods and properties. A member ends at a semicolon, a comma or a line
break, or before the closing brace. An accessor is told from a property of that name by
trying to read it to its end.
-/

namespace SchemaGuards.Syntax.Parse

variable (g : Grammar)

/-- End a member or stop. -/
def memberEnd : Parse Unit := do
  if !(← eatMark ",") then expectEnd

/-- A call signature, or after `new` a construct signature. -/
def signatureMember (isConstructor : Bool) : Parse Member := do
  if isConstructor then expectWord "new"
  signatureHead g
  resultType? g ":"
  memberEnd
  return if isConstructor then .constructSignature else .callSignature

/-- Whether a bracket opens an index signature. -/
def opensIndexSignature : Parse Bool := do
  advance
  if !(← isName) then return false
  advance
  isMarkOf [":", ","]

/-- An index signature, which may be left out; tells whether there was one. -/
def indexSignature? : Parse Bool := do
  let present ← (do
    if ← isMark "[" then lookAhead opensIndexSignature else return false)
  if !present then return false
  expectMark "["
  let start ← here
  let _ ← anyName
  if ← eatMark "," then report .manyIndexParameters start
  else expectMark ":"
  let _ ← typeMode g.type
  expectMark "]"
  let _ ← annotationType? g
  memberEnd
  return true

/-- The name that a key gives to a member, if it is a plain literal. -/
def literalName : Expr → PropertyName
  | .string value _ => .string value
  | .number source _ => .number (Decimal.literalValue source.toList).text
  | _ => .computed

/-- The name of a member. -/
def memberKey : Parse PropertyName := do
  if ← eatMark "[" then
    let _ ← g.assignment
    expectMark "]"
    return .computed
  match ← required with
  | .number _ => return literalName (← g.member true)
  | .string _ _ => return literalName (← g.member true)
  | .mark "#" =>
    let start ← here
    let _ ← privateName
    report .memberIsPrivate start
    return .computed
  | _ => return .identifier (← anyName)

/-- An accessor, which may be left out. -/
def accessor? : Parse (Option Member) :=
  attempt do
    let isGetter ← eatWord "get"
    if !isGetter then expectWord "set"
    let name ← memberKey g
    let _ ← eatMark "?"
    expectMark "("
    if isGetter then
      expectMark ")"
      let _ ← annotationType? g
    else if (← signatureParameters g).isEmpty then fail .accessorNeedsParameter
    memberEnd
    return some (.method name)

/-- A property or a method. One that is read-only is a property. -/
def propertyOrMethod (isReadonly : Bool) : Parse Member := do
  let name ← memberKey g
  let optional ← eatMark "?"
  let isMethod ← (do if isReadonly then return false else isMarkOf ["(", "<"])
  if isMethod then
    signatureHead g
    resultType? g ":"
    memberEnd
    return .method name
  else
    let node ← annotationType? g
    memberEnd
    return .property name optional (node.map (·.type))

/-- A member of an interface or of an object type. -/
def member : Parse Member := do
  if ← isMarkOf ["(", "<"] then return ← signatureMember g false
  let constructs ← (do
    if ← isWord "new" then lookAhead (do advance; isMarkOf ["(", "<"]) else return false)
  if constructs then return ← signatureMember g true
  let isReadonly ← eatModifier ["readonly"]
  if ← indexSignature? g then return .indexSignature
  match ← accessor? g with
  | some accessor => return accessor
  | none => propertyOrMethod g isReadonly

/-- The members between braces. -/
def members : Parse (List Member) := do
  expectMark "\x7b"
  let members ← gather do
    if ← isMark "\x7d" then return none else return some (← member g)
  expectMark "\x7d"
  return members

/-- The type of an object. -/
def objectType : Parse TypeNode := do
  let start ← here
  let members ← members g
  return ⟨.object members, ← spanFrom start⟩

end SchemaGuards.Syntax.Parse
