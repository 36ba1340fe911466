/-!
# Schemas

A schema says which JSON values a declared type accepts. Schemas refer to one another by
the names of their bindings, so they may be recursive.
-/

namespace SchemaGuards

/-- The primitives of the schema library, named after the type keywords they stand for. -/
inductive Primitive where
  | any | number | object | boolean | string | symbol | this | void | undefined | null | never
  deriving DecidableEq, Repr

namespace Primitive

/-- The word that names a primitive. -/
def word : Primitive → String
  | any => "any"
  | number => "number"
  | object => "object"
  | boolean => "boolean"
  | string => "string"
  | symbol => "symbol"
  | this => "this"
  | void => "void"
  | undefined => "undefined"
  | null => "null"
  | never => "never"

/-- All primitives. -/
def all : List Primitive :=
  [any, number, object, boolean, string, symbol, this, void, undefined, null, never]

/-- The primitive that a word names. -/
def ofWord? (word : String) : Option Primitive := all.find? fun p => p.word == word

theorem mem_all (p : Primitive) : p ∈ all := by cases p <;> decide

end Primitive

/-- A schema. Where there is a flag, it says that a value must not be missing. -/
inductive Schema where
  | primitive (primitive : Primitive) (required : Bool)
  /-- What the inner schema accepts, and `null`; it may always be missing if the inner one may. -/
  | nullable (inner : Schema)
  /-- One of a list of strings. -/
  | enumeration (values : List String) (required : Bool)
  | array (item : Schema) (required : Bool)
  /-- Exactly the named fields, in declared order. -/
  | object (fields : List (String × Schema)) (required : Bool)
  /-- Another binding of the module, by its name. -/
  | reference (binding : String) (required : Bool)
  deriving Inhabited, Repr

namespace Schema

/-- A named field of an object schema. -/
abbrev Field := String × Schema

/-- The flag at the top of a schema; a nullable schema has none. -/
def flag? : Schema → Option Bool
  | primitive _ required => some required
  | nullable _ => none
  | enumeration _ required => some required
  | array _ required => some required
  | object _ required => some required
  | reference _ required => some required

end Schema

end SchemaGuards
