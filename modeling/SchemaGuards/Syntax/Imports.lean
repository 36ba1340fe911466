import SchemaGuards.Syntax.Statements

/-!
# Imports

Imports of modules with their bindings, and imports that only rename.
-/

namespace SchemaGuards.Syntax.Parse

variable (g : Grammar)

/-- A name that a module exports: any word, or a string. -/
def exportedName : Parse (Token × Nat) := do
  let start ← here
  match ← readable with
  | some (.string value source) =>
    advance
    return (.string value source, start)
  | some token =>
    if !token.isWord then unexpected "identifier or string"
    advance
    return (token, start)
  | none => unexpected "identifier or string"

/-- A name that an import binds here. -/
def importedBinding : Parse String :=
  within ({ · with async := false, generator := false }) bindingName

/-- The path of a module with the attributes of its import, and the end of the statement. -/
def modulePath : Parse Unit := do
  match ← required with
  | .string _ _ => advance
  | _ => unexpected "a string literal"
  let _ ← readable
  let attributes ← (do
    if ← onFreshLine then return false
    if ← eatWord "assert" then return true
    eatWord "with")
  if attributes then
    let _ ← recordLiteral g
  expectEnd

/-- The name at the start of a specifier with its place, or none where its rename was read too.
The word `type` tells of a type unless it is the name itself; where only types are named anyway,
that is a fault of the given cause. A rename is read by the given parser. -/
def specifierName (onlyTypes : Bool) (cause : Cause) (rename : Parse String) :
    Parse (Option (Token × Nat)) := do
  let (first, start) ← exportedName
  if first.wordText? ≠ some "type" || !(← isAnyWord) then return some (first, start)
  let tell : Parse Unit := do if onlyTypes then report cause start
  let place ← here
  let name ← anyName
  if name ≠ "as" then
    tell
    return some (.word name, place)
  if !(← isAnyWord) then
    tell
    return none
  if (← rename) = "as" && (← isAnyWord) then
    let _ ← rename
    tell
  return none

/-- A binding in the braces of an import. -/
def importSpecifier (onlyTypes : Bool) : Parse Unit := do
  match ← specifierName onlyTypes .typeModifierOnImport bindingName with
  | none => return
  | some (token, start) =>
    if ← eatWord "as" then
      let _ ← bindingName
    else
      match token with
      | .string value _ => failAt (.importString value) start
      | _ => if token.wordText?.any isReserved then failAt .importReserved start

/-- Specifiers between braces, of which the opening one was taken. -/
def specifiers (one : Parse Unit) : Parse Unit := do
  loop do
    if (← atEof) || (← isMark "\x7d") then return false
    one
    if ← isMark "\x7d" then return false
    expectMark ","
    return true
  expectMark "\x7d"

/-- What a name is made to stand for: a module, or a dotted name. -/
def equatedReference : Parse Unit := do
  expectMark "="
  let loads ← (do if ← isWord "require" then nextIsMark "(" else return false)
  if loads then
    advance
    expectMark "("
    match ← required with
    | .string _ _ => advance
    | _ => unexpected "a string literal"
    expectMark ")"
  else
    let _ ← entityName false
  expectEnd

/-- What an import tells before the bindings between its braces. -/
inductive ImportHead where
  /-- A name that is made to stand for what follows. -/
  | equation
  /-- Nothing, or a default; the word that tells the phase of the import may stand before it. -/
  | bindings (onlyTypes : Bool) (phase : Option String)

/-- The name of the default after a word that may be that name itself: it is unless another name
follows, where the word `from` counts only with a second one behind it. -/
def nameAfterWord? : Parse (Option String) := do
  if !(← isName) then return none
  let binds ← (do if ← isWord "from" then nextIsWord "from" else return true)
  if binds then return some (← importedBinding) else return none

/-- An import from its default on, whose name was taken. -/
def importDefault (onlyTypes : Bool) (name : String) : Parse ImportHead := do
  if ← isMark "=" then return .equation
  let tellsPhase := ["source", "defer"].contains name
  if tellsPhase && (← isMarkOf ["*", "\x7b"]) then return .bindings onlyTypes (some name)
  let second ← (do if tellsPhase then nameAfterWord? else return none)
  if !(← isWord "from") then expectMark ","
  return .bindings onlyTypes (second.map fun _ => name)

/-- What follows the word `import`. The word `type` after it is no name where a binding follows. -/
def importHead : Parse ImportHead := do
  if !(← isName) then return .bindings false none
  let name ← importedBinding
  if name ≠ "type" then return ← importDefault false name
  if ← isMarkOf ["*", "\x7b"] then return .bindings true none
  match ← nameAfterWord? with
  | some name => importDefault true name
  | none =>
    if (← isName) && (← nextIsMark "=") then importDefault true (← anyName)
    else importDefault false name

/-- The bindings of an import between its default and its path. Not each phase admits each kind. -/
def importBindings (onlyTypes : Bool) (phase : Option String) : Parse Unit := do
  let binds ← (do if phase = some "source" then return false else eatMark "*")
  if binds then
    expectWord "as"
    let _ ← importedBinding
  else if phase.isNone then
    if ← eatMark "\x7b" then specifiers (importSpecifier onlyTypes)

/-- An import. -/
def importItem : Parse Item := do
  let start ← here
  if ← atLoader then return ← loaderStatement g
  advance
  match ← readable with
  | some (.string _ _) =>
    modulePath g
    return .other "import" start
  | _ =>
    match ← importHead with
    | .equation =>
      equatedReference
      return .other "export" start
    | .bindings onlyTypes phase =>
      importBindings onlyTypes phase
      expectWord "from"
      modulePath g
      return .other "import" start

end SchemaGuards.Syntax.Parse
