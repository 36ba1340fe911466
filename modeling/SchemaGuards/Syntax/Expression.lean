import SchemaGuards.Syntax.Stream

/-!
# Expressions and patterns

No schema is made of an expression, so an expression is kept only as far as the parser asks
about it: whether it may be assigned to, and whether it can be read again as the pattern that
an arrow function or an assignment has to the left of its arrow or sign.
-/

namespace SchemaGuards.Syntax

/-- How tightly a binary operator that is a mark binds. -/
def precedence? : String → Option Nat
  | "||" => some 1
  | "??" => some 1
  | "&&" => some 2
  | "|" => some 3
  | "^" => some 4
  | "&" => some 5
  | "==" => some 6
  | "!=" => some 6
  | "===" => some 6
  | "!==" => some 6
  | "<" => some 7
  | "<=" => some 7
  | ">" => some 7
  | ">=" => some 7
  | "<<" => some 8
  | ">>" => some 8
  | ">>>" => some 8
  | "+" => some 9
  | "-" => some 9
  | "*" => some 10
  | "/" => some 10
  | "%" => some 10
  | "**" => some 11
  | _ => none

/-- Marks of assignments that also compute. -/
def computingAssignments : List String :=
  ["+=", "-=", "*=", "/=", "%=", "**=", "<<=", ">>=", ">>>=", "&=", "|=", "^=", "&&=", "||=",
    "??="]

/-- The shape of an expression that is never a pattern with parts. -/
inductive Shape where
  | literal
  | template
  | taggedTemplate
  | reference
  | function
  | member
  /-- A member of `super`. -/
  | superMember
  /-- A member in a chain that may end early. -/
  | chainMember
  /-- A call in such a chain. -/
  | chainCall
  | call
  | construction
  /-- A `new` expression without arguments. -/
  | bareConstruction
  /-- An expression with type arguments. -/
  | instantiation
  | arrow
  | conditional
  | binary (operator : String)
  | unary
  | update
  /-- An awaited value, with its name if it is one. -/
  | await (name : Option String)
  | yield
  /-- A cast with `as` and a type. -/
  | asCast
  /-- A cast to a constant. -/
  | constCast
  | cast
  /-- The assertion that a value is there; the flag tells that it belongs to a chain. -/
  | nonNull (chained : Bool)
  | sequence
  | invalid
  deriving DecidableEq, Repr

mutual

/-- An expression, as far as the parser asks about it. -/
inductive Expr where
  | name (text : String) (span : Span)
  | string (value : String) (span : Span)
  | number (source : String) (span : Span)
  | group (inner : Expr) (span : Span)
  /-- A list with the place of a comma at its end. -/
  | list (elements : List Element) (comma : Option Nat) (span : Span)
  /-- A record with the place of a comma at its end. -/
  | record (fields : List Field) (comma : Option Nat) (span : Span)
  /-- An assignment with `=`; its target was checked when it was read. -/
  | assignment (target : Expr) (span : Span)
  /-- Any other expression; `target` tells that it may be assigned to. -/
  | other (shape : Shape) (target : Bool) (span : Span)

/-- An element of a list of expressions. -/
inductive Element where
  | hole
  | item (value : Expr)
  | spread (value : Expr) (span : Span)

/-- A field of a record of expressions. -/
inductive Field where
  | shorthand (name : String) (span : Span)
  /-- A shorthand with a default, which only a pattern may have. -/
  | default (name : String) (span : Span)
  | pair (value : Expr) (span : Span)
  | method (span : Span)
  | spread (value : Expr) (span : Span)

end

namespace Expr

/-- The span of an expression. -/
def span : Expr → Span
  | name _ span => span
  | string _ span => span
  | number _ span => span
  | group _ span => span
  | list _ _ span => span
  | record _ _ span => span
  | assignment _ span => span
  | other _ _ span => span

/-- Where an expression starts. -/
def lo (e : Expr) : Nat := e.span.lo

/-- The shape of an expression without parts of its own. -/
def shape? : Expr → Option Shape
  | other shape _ _ => some shape
  | _ => none

/-- An arrow function. -/
def isArrow (e : Expr) : Bool := e.shape? = some .arrow

/-- A member or a call in a chain that may end early. -/
def endsEarly (e : Expr) : Bool :=
  match e.shape? with
  | some .chainMember => true
  | some .chainCall => true
  | _ => false

/-- An expression in a chain that may end early, so that what follows belongs to the chain. -/
def isChained (e : Expr) : Bool :=
  match e.shape? with
  | some (.nonNull chained) => chained
  | _ => e.endsEarly

/-- An expression without the parentheses around it. -/
def ungrouped : Expr → Expr
  | group inner _ => inner.ungrouped
  | e => e

/-- Names that strict code does not assign to. -/
def isStrictName (text : String) : Bool := text = "eval" || text = "arguments"

/-- A name or a place that one may assign to. -/
def isTarget : Expr → Bool
  | name text _ => !isStrictName text
  | group inner _ => inner.isTarget
  | other _ target _ => target
  | _ => false

/-- An expression that may stand to the left of an assignment, though it may be no target. -/
def standsLeft : Expr → Bool
  | name _ _ => true
  | group _ _ => true
  | other shape _ _ =>
    match shape with
    | .member => true
    | .superMember => true
    | .chainMember => true
    | .chainCall => true
    | .instantiation => true
    | .asCast => true
    | .cast => true
    | .nonNull _ => true
    | _ => false
  | _ => false

/-- An expression that a pattern with parts may be read from, or that could not be read. -/
def mayBePattern : Expr → Bool
  | list _ _ _ => true
  | record _ _ _ => true
  | other .invalid _ _ => true
  | _ => false

end Expr

mutual

/-- Where an expression binds a name that strict code does not bind, when it is read as a
pattern. -/
def Expr.strictBinding? : Expr → Option Nat
  | .name text span => if Expr.isStrictName text then some span.lo else none
  | .list elements _ _ => strictElement? elements
  | .record fields _ _ => strictField? fields
  | .assignment target _ => target.strictBinding?
  | _ => none

/-- Where the elements of a list bind such a name. -/
def strictElement? : List Element → Option Nat
  | [] => none
  | .hole :: rest => strictElement? rest
  | .item value :: rest => value.strictBinding? <|> strictElement? rest
  | .spread value _ :: rest =>
    if rest.isEmpty then value.strictBinding? else strictElement? rest

/-- Where the fields of a record bind such a name. -/
def strictField? : List Field → Option Nat
  | [] => none
  | .shorthand name span :: rest =>
    if Expr.isStrictName name then some span.lo else strictField? rest
  | .default name span :: rest =>
    if Expr.isStrictName name then some span.lo else strictField? rest
  | .pair value _ :: rest => value.strictBinding? <|> strictField? rest
  | .method _ :: rest => strictField? rest
  | .spread value _ :: rest => value.strictBinding? <|> strictField? rest

end

/-- The shape of a pattern. -/
inductive PatternShape where
  | name (text : String)
  | list
  | record
  | rest
  | assignment
  | expression
  | invalid
  deriving DecidableEq, Repr

/-- A pattern, as far as the parser asks about it. -/
structure Pattern where
  shape : PatternShape
  span : Span
  deriving Repr

namespace Pattern

/-- A pattern that is one name. -/
def isName (p : Pattern) : Bool := p.shape matches .name _

/-- A pattern for the receiver of a function, which is no parameter. -/
def isReceiver (p : Pattern) : Bool := p.shape = .name "this"

end Pattern

/-- What stands before a call, a member access or a template. -/
inductive Callee where
  | expression (value : Expr)
  /-- The word `super`. -/
  | superclass (span : Span)
  /-- The word `import`. -/
  | loader (span : Span)

namespace Callee

/-- Where a callee starts. -/
def lo : Callee → Nat
  | expression value => value.lo
  | superclass span => span.lo
  | loader span => span.lo

end Callee

end SchemaGuards.Syntax
