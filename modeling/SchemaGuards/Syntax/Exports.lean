import SchemaGuards.Syntax.Imports

/-!
# Exports

Exported declarations, default exports, and exports of names.

## Implementation notes

A declaration behind `export` that starts with a word such as `type` is tried first. When it
cannot be read, its fault is forgotten and the word is read as the start of something else.
-/

namespace SchemaGuards.Syntax.Parse

variable (g : Grammar)

/-- Words that no export without a path may name. -/
def unexportedWords : List String :=
  ["break", "case", "catch", "class", "const", "continue", "debugger", "default", "delete", "do",
    "else", "enum", "export", "extends", "false", "finally", "for", "function", "if", "import",
    "in", "instanceof", "new", "null", "package", "return", "super", "switch", "this", "throw",
    "true", "try", "typeof", "var", "void", "while", "with"]

/-- A name in the braces of an export, with what is wrong with it when no path follows. -/
def exportSpecifier (onlyTypes : Bool) : Parse (Option (Cause × Nat)) := do
  match ← specifierName onlyTypes .typeModifierOnExport anyName with
  | none => return none
  | some (token, start) =>
    if ← eatWord "as" then
      let _ ← exportedName
    match token.wordText? with
    | some text =>
      return if unexportedWords.contains text then some (.exportReserved text, start) else none
    | none => return some (.exportString, start)

/-- The names between braces that are exported, with a path or without. -/
def exportedNames (onlyTypes : Bool) : Parse Unit := do
  expectMark "\x7b"
  let faults ← iterate (fun (faults : List (Cause × Nat)) => do
    if (← atEof) || (← isMark "\x7d") then return (faults, false)
    let found ← exportSpecifier onlyTypes
    let faults := faults ++ found.toList
    if ← isMark "\x7d" then return (faults, false)
    expectMark ","
    return (faults, true)) []
  expectMark "\x7d"
  if ← eatWord "from" then modulePath g
  else
    for (cause, start) in faults do report cause start
    let _ ← eatEnd

/-- All names of a module, under one name or each under its own. -/
def exportedModule : Parse Unit := do
  advance
  if ← eatWord "as" then
    let _ ← exportedName
  expectWord "from"
  modulePath g

/-- A default export, from after its word. -/
def defaultExport (start : Nat) : Parse Item := do
  let item := Item.other "export" start
  let abstractClass ← (do
    if !(← isWord "abstract") then return false
    if !(← nextIsWord "class") then return false
    return !(← nextOnFreshLine))
  if abstractClass then
    advance
    let _ ← current
    classTail g false true
    return item
  let abstractInterface ← (do
    if ← isWord "abstract" then nextIsWord "interface" else return false)
  if abstractInterface then
    reportHere .abstractMisplaced
    advance
  if ← eatWord "interface" then return ← interfaceItem g
  if ← isWord "class" then
    classTail g false false
    return item
  if (← atAsyncFunction) || (← isWord "function") then
    let _ ← functionDeclaration g false
    return item
  let _ ← within ({ · with inOperator := true }) g.assignment
  expectEnd
  return item

/-- A declaration with a keyword, or names that are exported. -/
def plainExport (start : Nat) : Parse Item := do
  if ← isWord "class" then
    classTail g true false
    return .other "class" start
  if (← atAsyncFunction) || (← isWord "function") then
    let _ ← functionDeclaration g true
    return .other "function" start
  let constEnum ← (do if ← isWord "const" then nextIsWord "enum" else return false)
  if constEnum then
    advance
    let _ ← current
    advance
    enumTail g
    return .other "enum" start
  if ← atVariables then
    let kind ← currentShown
    variableList g
    return .other kind start
  if ← isMark "*" then exportedModule g else exportedNames g false
  return .other "export" start

/-- Exports that are written with a sign or a word of their own. -/
def specialExport? (start : Nat) : Parse (Option Item) := do
  if ← eatWord "import" then
    let typed ← (do if ← isWord "type" then nextIsName else return false)
    if typed then advance
    let _ ← anyName
    equatedReference
    return some (.other "export" start)
  if ← eatMark "=" then
    let _ ← expression g
    expectEnd
    return some (.other "export" start)
  if ← eatWord "as" then
    expectWord "namespace"
    let _ ← variableName false
    expectEnd
    return some (.other "export" start)
  return none

/-- An exported declaration that starts with a word which is a name elsewhere. The kind and
the start of a declaration count from the word `export`. -/
def exportedDeclaration? (start : Nat) : Parse (Option Item) := do
  if ← eatWord "declare" then
    match ← declared? g start with
    | some item => return some item
    | none => pure ()
  match ← word? with
  | some word => attempt (wordDeclaration? g start word true)
  | none => return none

/-- An export. -/
def exportItem : Parse Item := do
  let start ← here
  advance
  let _ ← required
  match ← exportedDeclaration? g start with
  | some item => return item
  | none =>
    match ← specialExport? g start with
    | some item => return item
    | none =>
      if ← eatWord "type" then
        if ← isMark "*" then exportedModule g else exportedNames g true
        return .other "export" start
      if ← eatWord "default" then defaultExport g start else plainExport g start

/-- A statement of a module. -/
def moduleItemRule : Parse Item := do
  if ← isWord "import" then importItem g
  else if ← isWord "export" then exportItem g
  else innerStatement g true true

end SchemaGuards.Syntax.Parse
