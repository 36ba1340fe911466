import SchemaGuards.Declaration.Printer
import SchemaGuards.Schema.Basic

/-!
# Schemas of type expressions

Which type expressions have a schema, and which one. Two shapes of union have schemas: a
type or `null`, and a choice of string literals. Members that are no properties with a
plain name and a type are dropped; everything else outside the supported types is refused,
and the refusal names the first type expression that has no schema.

## Implementation notes

`required` is the flag of the schema under construction. Items of arrays and the inner
schema of a nullable one never have it set; a field has it set unless its property is
optional.
-/

namespace SchemaGuards

/-- Why a declaration has no schema. -/
inductive Unsupported where
  /-- A type expression without a schema of its own. -/
  | type (offender : TypeExpr)
  /-- A declaration with type parameters. -/
  | generic (name : String) (typeParameters : List String)
  /-- An interface with bases. -/
  | inheritance (name : String) (bases : List String)
  deriving Repr

namespace Unsupported

/-- The wording of a refusal. -/
def message : Unsupported → String
  | type (.keyword k) => s!"keyword `{k.word}`"
  | type (.union types) =>
    s!"union `{(TypeExpr.union types).text}` (only `T | null` and unions of string literals " ++
      "are supported)"
  | type (.reference name arguments) =>
    if arguments.isEmpty then s!"qualified type reference `{name.text}`"
    else s!"generic type reference `{(TypeExpr.reference name arguments).text}`"
  | type offender => s!"{offender.kind} `{offender.text}`"
  | generic name typeParameters =>
    s!"generic declaration `{name}<" ++ ", ".intercalate typeParameters ++ ">`"
  | inheritance name bases =>
    s!"interface `{name}` extends `" ++ ", ".intercalate bases ++ "` (inheritance)"

end Unsupported

/-- How names are formed in one compilation: every generated name ends in the suffix. -/
structure Naming where
  suffix : String
  deriving DecidableEq, Repr

namespace Naming

/-- The name of the schema of a declaration. -/
def binding (naming : Naming) (name : String) : String := name ++ naming.suffix

/-- The name of the guard of a declaration. -/
def guard (naming : Naming) (name : String) : String := "is" ++ name ++ naming.suffix

end Naming

namespace Keyword

/-- The primitive that a keyword stands for. -/
def primitive? : Keyword → Option Primitive
  | any => some .any
  | number => some .number
  | object => some .object
  | boolean => some .boolean
  | string => some .string
  | symbol => some .symbol
  | this => some .this
  | void => some .void
  | undefined => some .undefined
  | null => some .null
  | never => some .never
  | unknown => none
  | bigint => none

end Keyword

namespace TypeExpr

/-- The values of a list of string literals. -/
def stringLiterals? (types : List TypeExpr) : Option (List String) :=
  types.mapM stringLiteral?

/-- The schema of a union that is no type-or-null: a choice of string literals. -/
def choice (required : Bool) (types : List TypeExpr) : Except Unsupported Schema :=
  match stringLiterals? types with
  | some values => .ok (.enumeration values required)
  | none => .error (.type (union types))

mutual

/-- The schema of a type expression. -/
def schema (naming : Naming) (required : Bool) : TypeExpr → Except Unsupported Schema
  | keyword k =>
    match k.primitive? with
    | some p => .ok (.primitive p required)
    | none => .error (.type (keyword k))
  | union [first, second] =>
    if first.isNull then (schema naming false second).map .nullable
    else if second.isNull then (schema naming false first).map .nullable
    else choice required [first, second]
  | union types => choice required types
  | array item => (schema naming false item).map fun s => .array s required
  | object members => (fields naming members).map fun fs => .object fs required
  | reference name arguments =>
    if arguments.isEmpty then
      match name.identifier? with
      | some identifier => .ok (.reference (naming.binding identifier) required)
      | none => .error (.type (reference name arguments))
    else .error (.type (reference name arguments))
  | literal l => .error (.type (literal l))
  | other kind source => .error (.type (other kind source))

/-- The fields of a list of members: one for each property with a plain name and a type. -/
def fields (naming : Naming) : List Member → Except Unsupported (List Schema.Field)
  | [] => .ok []
  | .property (.identifier name) optional (some type) :: rest => do
    let s ← schema naming (!optional) type
    let others ← fields naming rest
    pure ((name, s) :: others)
  | _ :: rest => fields naming rest

end

end TypeExpr

end SchemaGuards
