import SchemaGuards.Syntax.Exports

/-!
# Modules

The grammar tied together by depth, and the reading of a whole source text.

## Implementation notes

Each rule of the grammar for a depth refers to the rules for the depth below. The source text
bounds the depth: between two rules of the same kind some token was taken.
-/

namespace SchemaGuards.Syntax

namespace Grammar

/-- The grammar in which nothing can be read. -/
def exhausted : Grammar where
  type := Parse.fail .exhausted
  plainType := Parse.fail .exhausted
  operatorType := Parse.fail .exhausted
  assignment := Parse.fail .exhausted
  unary := Parse.fail .exhausted
  operators _ _ := Parse.fail .exhausted
  leftHand := Parse.fail .exhausted
  member _ := Parse.fail .exhausted
  subscripts _ _ _ := Parse.fail .exhausted
  pattern := Parse.fail .exhausted
  statement _ := Parse.fail .exhausted
  moduleItem := Parse.fail .exhausted

/-- The grammar for texts of some nesting depth. -/
def upTo : Nat → Grammar
  | 0 => exhausted
  | depth + 1 =>
    { type := fun s => Parse.typeRule (upTo depth) s
      plainType := fun s => Parse.plainTypeRule (upTo depth) s
      operatorType := fun s =>
        Parse.operatorTypeRule (upTo depth) (Parse.objectType (upTo depth)) s
      assignment := fun s => Parse.assignmentRule (upTo depth) s
      unary := fun s => Parse.unaryRule (upTo depth) s
      operators := fun e least s => Parse.operatorsRule (upTo depth) e least s
      leftHand := fun s => Parse.leftHandRule (upTo depth) s
      member := fun mayBeBare s => Parse.memberRule (upTo depth) mayBeBare s
      subscripts := fun callee noCall noComputed s =>
        Parse.subscriptsRule (upTo depth) callee noCall noComputed s
      pattern := fun s => Parse.patternRule (upTo depth) s
      statement := fun declares s => Parse.statementRule (upTo depth) declares s
      moduleItem := fun s => Parse.moduleItemRule (upTo depth) s }

end Grammar

/-- A nesting depth that no text of some length exceeds. -/
def depthFor (length : Nat) : Nat := 8 * length + 32

/-- All statements of a module. -/
def Parse.moduleItems (g : Grammar) : Parse (List Item) :=
  gather do
    if ← atEof then return none else return some (← g.moduleItem)

/-- A statement as a declaration, with its line. -/
def Item.located (source : List Char) : Item → Declaration
  | .declaration value => value
  | .text _ start => .other "statement" (Position.ofOffset source start).line
  | .other kind start => .other kind (Position.ofOffset source start).line

/-- The characters of a text without the mark of its encoding. -/
def withoutMark (source : String) : List Char :=
  match source.toList with
  | '\uFEFF' :: rest => rest
  | cs => cs

/-- Read the declarations of a source text, or tell the first fault: one that stopped the
reading, or else the first of those that did not. Where a diagnostic counts bytes, it counts the
first byte of the text by the given number. -/
def parseModuleFrom (firstByte : Nat) (source : String) : Except SyntaxError (List Declaration) :=
  let cs := withoutMark source
  let failed (fault : Fault) : SyntaxError := ⟨Position.ofOffset cs fault.offset, fault.cause⟩
  let grammar := Grammar.upTo (depthFor cs.length)
  match Parse.moduleItems grammar (State.initial cs firstByte) with
  | .error fault _ => .error (failed fault)
  | .ok items s =>
    match s.reported with
    | some fault => .error (failed fault)
    | none => .ok (items.map (·.located cs))

/-- Read the declarations of a source text on its own. -/
def parseModule (source : String) : Except SyntaxError (List Declaration) :=
  parseModuleFrom 1 source

/-- Read the declarations of several source texts. The count of their bytes runs on from one text
to the next and leaves one number between them. -/
def parseModules (sources : List String) : List (Except SyntaxError (List Declaration)) :=
  go 1 sources
where
  go (firstByte : Nat) : List String → List (Except SyntaxError (List Declaration))
    | [] => []
    | source :: rest =>
      parseModuleFrom firstByte source :: go (firstByte + source.utf8ByteSize + 1) rest

end SchemaGuards.Syntax
