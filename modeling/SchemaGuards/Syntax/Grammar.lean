import SchemaGuards.Declaration.Basic
import SchemaGuards.Syntax.Expression

/-!
# The shape of the grammar

The rules of the grammar refer to one another. Each rule is a definition over a record of the
rules that it may refer to, so that it can be read and reasoned about on its own. The record
for a nesting depth is tied together from that for the depth below it.
-/

namespace SchemaGuards.Syntax

/-- A type with the span that writes it, parentheses included. -/
structure TypeNode where
  type : TypeExpr
  span : Span
  deriving Repr, Inhabited

/-- A statement at the top of a module. -/
inductive Item where
  | declaration (value : Declaration)
  /-- A string on its own, as it is written, and its start. -/
  | text (written : String) (start : Nat)
  /-- Any other statement, by its leading word and its start. -/
  | other (kind : String) (start : Nat)
  deriving Repr

/-- The rules that others refer to. -/
structure Grammar where
  /-- A type. -/
  type : Parse TypeNode
  /-- A type that is not conditional at its top. -/
  plainType : Parse TypeNode
  /-- A type that may have prefix operators such as `keyof`. -/
  operatorType : Parse TypeNode
  /-- An expression without commas. -/
  assignment : Parse Expr
  /-- An operand with its prefix operators. -/
  unary : Parse Expr
  /-- The operators after an operand that bind more tightly than a precedence. -/
  operators : Expr → Nat → Parse Expr
  /-- A call, a member access or a name. -/
  leftHand : Parse Expr
  /-- A `new` expression or an operand; the flag lets arguments of `new` be left out. -/
  member : Bool → Parse Expr
  /-- Member accesses, calls and templates after a callee. The flags forbid calls and
  computed members. -/
  subscripts : Callee → Bool → Bool → Parse Expr
  /-- A pattern that binds names. -/
  pattern : Parse Pattern
  /-- A statement; the flag lets it be a declaration. -/
  statement : Bool → Parse Item
  /-- A statement of a module. -/
  moduleItem : Parse Item

namespace Parse

/-- The type with its text when it is of a kind that has no constructor of its own. -/
def otherType (kind : String) (start : Nat) : Parse TypeNode := do
  let span ← spanFrom start
  return ⟨.other kind (← slice span), span⟩

/-- The text between the start and the end of the last token. -/
def textFrom (start : Nat) : Parse String := do slice (← spanFrom start)

/-- An expression from a start to the last token. -/
def otherFrom (shape : Shape) (target : Bool) (start : Nat) : Parse Expr := do
  return .other shape target (← spanFrom start)

/-- Whether a binary operator that is a mark comes next. -/
def atOperator : Parse Bool := do
  match ← current with
  | some (.mark text) => return (precedence? text).isSome
  | _ => return false

end Parse

end SchemaGuards.Syntax
