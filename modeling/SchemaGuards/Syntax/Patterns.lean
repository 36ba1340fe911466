import SchemaGuards.Syntax.Types

/-!
# Patterns

The patterns that bind names, and the reading of an expression as a pattern. The latter is
needed where only the text after a list or record tells what it was.
-/

namespace SchemaGuards.Syntax.Parse

variable (g : Grammar)

/-- An element of a list pattern with the elements before it. -/
def listPatternElement (rest : Option Span) : Parse (Option Span) := do
  match rest with
  | some span => report .restNotLast span.lo
  | none => pure ()
  let start ← here
  let rest ← (do
    if ← eatMark "..." then
      let _ ← g.pattern
      return some (← spanFrom start)
    else
      let _ ← patternWithValue g
      return rest)
  if !(← isMark "]") then
    expectMark ","
    if rest.any (·.lo = start) && (← isMark "]") then report .commaAfterRest (← previousSpan).lo
  return rest

/-- A pattern for the elements of a list. -/
def listPattern : Parse Pattern := do
  let start ← here
  advance
  let _ ← iterate (fun (rest : Option Span) => do
    if (← atEof) || (← isMark "]") then return (rest, false)
    if ← eatMark "," then return (rest, true)
    return (← listPatternElement g rest, true)) none
  expectMark "]"
  if (← get).mode.declared then
    let _ ← eatMark "?"
  return ⟨.list, ← spanFrom start⟩

/-- A field of a record pattern; gives the pattern that takes the rest. -/
def recordPatternField : Parse (Option Pattern × Span) := do
  let start ← here
  if ← eatMark "..." then
    let rest ← g.pattern
    return (some rest, ← spanFrom start)
  let key ← fieldKey g
  if ← eatMark ":" then
    let _ ← patternWithValue g
  else
    match key.name with
    | .identifier name =>
      if ← eatMark "=" then initializer g
      else if isReserved name then report .shorthandReserved key.span.lo
    | _ => unexpected "an identifier"
  return (none, ← spanFrom start)

/-- What may take the rest of a record: one name, at its end. -/
def checkRecordPattern (comma : Option Nat) : List (Option Pattern × Span) → Parse Unit
  | [] => return
  | [(some rest, span)] => do
    if rest.isName then
      match comma with
      | some comma => report .commaAfterRest comma
      | none => pure ()
    else failAt .restNotName span.lo
  | (some _, span) :: more => do
    if !more.isEmpty then report .restNotLast span.lo
    checkRecordPattern comma more
  | (none, _) :: more => checkRecordPattern comma more

/-- Fields between braces with commas, and the place of the comma before the closing brace. Any
token may stand for the opening brace, which comes next. -/
def bracedFields {α : Type} (field : Parse α) : Parse (List α × Option Nat) :=
  within ({ · with colonDue := false }) do
    let _ ← required
    advance
    let found ← iterate (fun ((fields, comma) : List α × Option Nat) => do
      if ← isMark "\x7d" then return ((fields, comma), false)
      let fields := fields ++ [← field]
      if ← isMark "\x7d" then return ((fields, comma), true)
      expectMark ","
      if ← isMark "\x7d" then return ((fields, some (← previousSpan).lo), true)
      return ((fields, comma), true)) ([], none)
    advance
    return found

/-- A pattern for the fields of a record. -/
def recordPattern : Parse Pattern := do
  let start ← here
  let (fields, comma) ← bracedFields (recordPatternField g)
  let span ← spanFrom start
  checkRecordPattern comma fields
  if (← get).mode.declared then
    let _ ← eatMark "?"
  return ⟨.record, span⟩

/-- A pattern that binds names. -/
def patternRule : Parse Pattern := do
  let start ← here
  match ← required with
  | .word _ => return ⟨.name (← bindingName), ← spanFrom start⟩
  | .escapedWord _ => return ⟨.name (← bindingName), ← spanFrom start⟩
  | .mark "[" => listPattern g
  | .mark "\x7b" => recordPattern g
  | _ => unexpected "yield, an identifier, [ or \x7b"

/-! ## Expressions read as patterns -/

/-- What a pattern is for. -/
inductive PatternUse where
  /-- The target of an assignment. -/
  | target
  /-- A part of such a target. -/
  | targetPart
  /-- The parameter of a function. -/
  | binding
  /-- A part of such a parameter. -/
  | bindingPart
  deriving DecidableEq

/-- What the parts of a pattern are for. -/
def PatternUse.part : PatternUse → PatternUse
  | target => targetPart
  | targetPart => targetPart
  | binding => bindingPart
  | bindingPart => bindingPart

/-- Report an expression that is no pattern. -/
def notAPattern (span : Span) : Parse Pattern := do
  report .notAPattern span.lo
  return ⟨.invalid, span⟩

/-- Expressions that may stand in the target of an assignment though they bind no name. -/
def admitsAsPart : Shape → Bool
  | .member => true
  | .superMember => true
  | .call => true
  | .construction => true
  | .bareConstruction => true
  | .literal => true
  | .function => true
  | .template => true
  | .asCast => true
  | _ => false

/-- Read an expression without parts of its own as a pattern. The flag tells that it may stand
in the target of an assignment. -/
def wholePattern (purpose : PatternUse) (admitted : Bool) (e : Expr) : Parse Pattern := do
  if purpose = .target then return ⟨.expression, e.span⟩
  if purpose = .targetPart && admitted then
    if !e.isTarget then report .notAssignable e.lo
    return ⟨.expression, e.span⟩
  notAPattern e.span

/-- Report that a list or record takes a rest before a comma at its end. -/
def checkRestComma (comma : Option Nat) : Parse Unit := do
  match comma with
  | some comma => report .commaAfterRest comma
  | none => return

mutual

/-- Read an expression as a pattern. -/
def patternOf (purpose : PatternUse) : Expr → Parse Pattern
  | .name text span => do
    if purpose = .targetPart && Expr.isStrictName text then report .notAssignable span.lo
    return ⟨.name text, span⟩
  | .list elements comma span => do
    elementPatterns purpose.part comma elements
    return ⟨.list, span⟩
  | .record fields comma span => do
    fieldPatterns purpose.part comma fields
    return ⟨.record, span⟩
  | .assignment target span => do
    if purpose = .target then return ⟨.expression, span⟩
    if !target.mayBePattern then
      let _ ← patternOf purpose target
    return ⟨.assignment, span⟩
  | .group inner span => wholePattern purpose true (.group inner span)
  | .string value span => wholePattern purpose true (.string value span)
  | .number source span => wholePattern purpose true (.number source span)
  | .other .invalid _ span => return ⟨.invalid, span⟩
  | .other shape target span => wholePattern purpose (admitsAsPart shape) (.other shape target span)

/-- Read the elements of a list as patterns. Only the last may take the rest. -/
def elementPatterns (purpose : PatternUse) (comma : Option Nat) : List Element → Parse Unit
  | [] => return
  | .hole :: rest => elementPatterns purpose comma rest
  | .item value :: rest => do
    let _ ← patternOf purpose value
    elementPatterns purpose comma rest
  | .spread value span :: rest => do
    if !rest.isEmpty then report .restNotLast span.lo
    else
      match value with
      | .assignment _ _ => report .restInitializer span.lo
      | _ => pure ()
      checkRestComma comma
      let _ ← patternOf purpose value
    elementPatterns purpose comma rest

/-- Read the fields of a record as patterns. -/
def fieldPatterns (purpose : PatternUse) (comma : Option Nat) : List Field → Parse Unit
  | [] => return
  | .shorthand _ _ :: rest => fieldPatterns purpose comma rest
  | .default _ _ :: rest => fieldPatterns purpose comma rest
  | .pair value _ :: rest => do
    let _ ← patternOf purpose value
    fieldPatterns purpose comma rest
  | .method span :: _ => failAt .notAPattern span.lo
  | .spread value span :: rest => do
    if !rest.isEmpty then report .restNotLast span.lo
    checkRestComma comma
    match purpose, value with
    | .bindingPart, .name _ _ => pure ()
    | .bindingPart, _ => report .restNotName span.lo
    | _, _ =>
      let pattern ← patternOf purpose value
      if pattern.shape = .assignment then report .restInitializer span.lo
    fieldPatterns purpose comma rest

end

/-- Report an expression that one cannot assign to. The flag denies calls too. -/
def checkTarget (deniesCalls : Bool) (e : Expr) : Parse Unit := do
  if e.isTarget then return
  if !deniesCalls && e.ungrouped.shape? = some .call then return
  report .targetNotAssignable e.lo

/-- Read the left side of an assignment. -/
def targetOf (e : Expr) : Parse Pattern := do
  if !e.mayBePattern then checkTarget true e
  patternOf .target e

end SchemaGuards.Syntax.Parse
