import SchemaGuards.Module.Basic
import SchemaGuards.Schema.Render

/-!
# The generated module

The text of a module: a header with the imports, then for each binding the exported schema
and the exported guard, with a blank line before each of the two.
-/

namespace SchemaGuards.Module

/-- The comment on the first line of generated code. -/
def headerComment : String :=
  "// This file was generated by ts-joi-gen. Do not edit it by hand."

/-- The package name of the schema library. -/
def schemaLibrary : String := "joi"

/-- The first line and the two imports. -/
def headerChars (importPath : String) : List Char :=
  headerComment.toList ++ "\nimport * as Joi from ".toList ++
    Json.quotedChars schemaLibrary.toList ++ "\nimport * as types from ".toList ++
    Json.quotedChars importPath.toList ++ ['\n']

/-- The exported schema and guard of a binding. -/
def bindingChars (b : Binding) : List Char :=
  "\nexport const ".toList ++ b.name.toList ++ " = ".toList ++ b.schema.render 0 ++
    "\n\nexport function ".toList ++ b.guard.toList ++ "(obj: any): obj is types.".toList ++
    b.typeName.toList ++ " \x7b\n  return ".toList ++ b.name.toList ++
    ".validate(obj).error === undefined\n\x7d\n".toList

/-- The characters of the generated module. -/
def emit (m : Module) : List Char :=
  headerChars m.importPath ++ m.bindings.flatMap bindingChars

/-- The text of the generated module. -/
def text (m : Module) : String := String.ofList m.emit

end SchemaGuards.Module
