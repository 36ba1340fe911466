/-!
# Declarations and type expressions

The types that a module declares, as far as schemas can be made of them. Shapes with a
schema have constructors of their own. Every other type is kept with the name of its
construct and its source text, so that a diagnostic can quote it.
-/

namespace SchemaGuards

/-- The predefined types that are written as one word. -/
inductive Keyword where
  | any | unknown | number | bigint | object | boolean | string | symbol | this | void
  | undefined | null | never
  deriving DecidableEq, Repr

namespace Keyword

/-- The word that writes a predefined type. -/
def word : Keyword → String
  | any => "any"
  | unknown => "unknown"
  | number => "number"
  | bigint => "bigint"
  | object => "object"
  | boolean => "boolean"
  | string => "string"
  | symbol => "symbol"
  | this => "this"
  | void => "void"
  | undefined => "undefined"
  | null => "null"
  | never => "never"

/-- All predefined types. -/
def all : List Keyword :=
  [any, unknown, number, bigint, object, boolean, string, symbol, this, void, undefined, null,
    never]

/-- The predefined type that a word writes. -/
def ofWord? (word : String) : Option Keyword := all.find? fun k => k.word == word

theorem mem_all (k : Keyword) : k ∈ all := by cases k <;> decide

end Keyword

/-- A literal used as a type. Numbers keep their source text. -/
inductive Literal where
  | string (value : String)
  | number (source : String)
  | boolean (value : Bool)
  deriving DecidableEq, Repr

/-- The name of a member. A computed name has no text. -/
inductive PropertyName where
  | identifier (name : String)
  | string (value : String)
  | number (text : String)
  | computed
  deriving DecidableEq, Repr

/-- A dotted name, as the list of its parts. -/
structure EntityName where
  parts : List String
  deriving DecidableEq, Repr

namespace EntityName

/-- The name without dots, when it has none. -/
def identifier? (name : EntityName) : Option String :=
  match name.parts with
  | [single] => some single
  | _ => none

/-- The parts with dots between them. -/
def text (name : EntityName) : String := ".".intercalate name.parts

end EntityName

mutual

/-- A type expression. -/
inductive TypeExpr where
  | keyword (keyword : Keyword)
  | literal (literal : Literal)
  | union (types : List TypeExpr)
  | array (item : TypeExpr)
  | object (members : List Member)
  | reference (name : EntityName) (arguments : List TypeExpr)
  /-- Any other construct: intersections, tuples, function types and so on. -/
  | other (kind : String) (source : String)
  deriving Repr

/-- A member of an object type or of an interface body. -/
inductive Member where
  | property (name : PropertyName) (optional : Bool) (type : Option TypeExpr)
  /-- A method or an accessor. -/
  | method (name : PropertyName)
  | indexSignature
  | callSignature
  | constructSignature
  deriving Repr

end

instance : Inhabited TypeExpr := ⟨.keyword .any⟩
instance : Inhabited Member := ⟨.indexSignature⟩

namespace TypeExpr

/-- The keyword `null`. -/
def isNull : TypeExpr → Bool
  | keyword .null => true
  | _ => false

/-- The value of a string literal. -/
def stringLiteral? : TypeExpr → Option String
  | literal (.string value) => some value
  | _ => none

/-- The name of the construct, for diagnostics. -/
def kind : TypeExpr → String
  | keyword _ => "keyword"
  | literal _ => "literal type"
  | union _ => "union"
  | array _ => "array"
  | object _ => "object literal"
  | reference _ _ => "type reference"
  | other kind _ => kind

theorem isNull_iff {e : TypeExpr} : e.isNull = true ↔ e = keyword .null := by
  cases e with
  | keyword k => cases k <;> simp [isNull]
  | _ => simp [isNull]

theorem stringLiteral?_eq_some_iff {e : TypeExpr} {s : String} :
    e.stringLiteral? = some s ↔ e = literal (.string s) := by
  cases e with
  | literal l => cases l <;> simp [stringLiteral?]
  | _ => simp [stringLiteral?]

end TypeExpr

/-- A top-level statement of a module. -/
inductive Declaration where
  /-- The bases are the `extends` clauses as written. -/
  | interface (name : String) (typeParameters : List String) (bases : List String)
      (members : List Member)
  | typeAlias (name : String) (typeParameters : List String) (type : TypeExpr)
  /-- Any other statement, by its leading word and its line. -/
  | other (kind : String) (line : Nat)
  deriving Repr

end SchemaGuards
