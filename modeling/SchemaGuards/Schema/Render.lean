import SchemaGuards.Schema.Basic
import SchemaGuards.Json.Printer

/-!
# Schemas as builder expressions

The source text of the schema library's builder calls. An object with fields is laid out
with one field a line, two blanks for each level of nesting.
-/

namespace SchemaGuards.Schema

/-- The blanks at the start of a line. -/
def indentation (level : Nat) : List Char := List.replicate (2 * level) ' '

/-- The call that makes a value required. -/
def requiredSuffix (required : Bool) : List Char :=
  if required then ".required()".toList else []

/-- String literals with commas between them. -/
def quotedList : List String → List Char
  | [] => []
  | [value] => Json.quotedChars value.toList
  | value :: rest => Json.quotedChars value.toList ++ [',', ' '] ++ quotedList rest

/-- The expression of an object schema without its flag, given its rendered fields. -/
def objectCall (level : Nat) (body : List Char) : List Char :=
  if body.isEmpty then "Joi.object(\x7b\x7d)".toList
  else "Joi.object(\x7b\n".toList ++ body ++ '\n' :: indentation level ++ ['\x7d', ')']

mutual

/-- The builder expression of a schema that starts on a line of the given level. -/
def render (level : Nat) : Schema → List Char
  | primitive p required =>
    "Joi.".toList ++ p.word.toList ++ "()".toList ++ requiredSuffix required
  | nullable inner => render level inner ++ ".allow(null)".toList
  | enumeration values required =>
    "Joi.string().valid(".toList ++ quotedList values ++ [')'] ++ requiredSuffix required
  | array item required =>
    "Joi.array().items(".toList ++ render level item ++ [')'] ++ requiredSuffix required
  | object fields required =>
    objectCall level (renderFields (level + 1) fields) ++ requiredSuffix required
  | reference binding required => binding.toList ++ requiredSuffix required

/-- Fields on lines of the given level, with a comma after each but the last. -/
def renderFields (level : Nat) : List Field → List Char
  | [] => []
  | [(name, schema)] => indentation level ++ name.toList ++ [':', ' '] ++ render level schema
  | (name, schema) :: rest =>
    indentation level ++ name.toList ++ [':', ' '] ++ render level schema ++ [',', '\n'] ++
      renderFields level rest

end

/-- The builder expression of an object with the given fields. -/
def renderObject (level : Nat) (fields : List Field) : List Char :=
  objectCall level (renderFields (level + 1) fields)

/-- The text of a builder expression. -/
def text (level : Nat) (schema : Schema) : String := String.ofList (render level schema)

end SchemaGuards.Schema
