import SchemaGuards.Syntax.Names

/-!
# Modifiers

A word such as `readonly` is a modifier only when something that it can modify follows on the
same line; otherwise it is a name.
-/

namespace SchemaGuards.Syntax.Parse

/-- Whether the current token can follow a modifier. -/
def followsModifier : Parse Bool := do
  if ← onFreshLine then return false
  match ← current with
  | some (.word _) => return true
  | some (.escapedWord _) => return true
  | some (.string _ _) => return true
  | some (.number _) => return true
  | some (.bigint _) => return true
  | some (.mark text) => return ["[", "\x7b", "*", "...", "#"].contains text
  | _ => return false

/-- Take one of some modifiers. The flag keeps `static` before a block for the block. -/
def modifier? (allowed : List String) (keepsStaticBlock : Bool) : Parse (Option String) := do
  match (← required).wordText? with
  | some text =>
    if !allowed.contains text then return none
    if keepsStaticBlock && (← isWord "static") && (← nextIsMark "\x7b") then return none
    attempt do
      advance
      if ← followsModifier then return some text else return none
  | none => return none

/-- Whether a modifier comes next, if it is one of some. -/
def eatModifier (allowed : List String) : Parse Bool := return (← modifier? allowed false).isSome

/-- Take a modifier of a constructor's parameter, wherever it stands. -/
def eatParameterModifier : Parse Bool := do
  if !(← isWordOf ["public", "protected", "private", "readonly"]) then return false
  let follows ← (do
    match ← next with
    | some (.word _) => return true
    | some (.escapedWord _) => return true
    | some (.mark text) => return text = "\x7b" || text = "["
    | _ => return false)
  if follows then
    let _ ← modifier? ["public", "protected", "private", "readonly"] false
    return true
  else return false

/-- Take a modifier that tells who may see a member. The words `in` and `out` are none, which is
reported. -/
def eatAccess : Parse Bool := do
  match ← modifier? ["public", "protected", "private", "in", "out"] false with
  | none => return false
  | some word =>
    if word = "in" || word = "out" then
      report (.modifierNeedsClass word) (← previousSpan).lo
      return false
    return true

end SchemaGuards.Syntax.Parse
