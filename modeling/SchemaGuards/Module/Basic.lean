import SchemaGuards.Schema.Record

/-!
# Modules of schemas

A module holds one binding for each declared type: the schema under its generated name,
the name of the guard, and the name of the type the guard asserts.
-/

namespace SchemaGuards

/-- An exported schema together with its type guard. -/
structure Binding where
  /-- The name of the schema. -/
  name : String
  /-- The name of the guard. -/
  guard : String
  /-- The declared name of the type. -/
  typeName : String
  schema : Schema
  deriving Inhabited, Repr

/-- The bindings of one source module, in the order of its declarations. -/
structure Module where
  /-- Where the declared types are imported from. -/
  importPath : String
  bindings : List Binding
  deriving Inhabited, Repr

namespace Binding

/-- The record of a binding. -/
def record (b : Binding) : Json :=
  .object [("name", .text b.name), ("guard", .text b.guard), ("type_name", .text b.typeName),
    ("schema", b.schema.record)]

/-- The binding that a record describes. -/
def ofRecord? : Json → Option Binding
  | .object entries => do
    let name ← Json.text? "name" entries
    let guard ← Json.text? "guard" entries
    let typeName ← Json.text? "type_name" entries
    let schema ← Json.lookup? "schema" entries
    let schema ← Schema.ofRecord? schema
    pure ⟨name, guard, typeName, schema⟩
  | _ => none

end Binding

namespace Module

/-- The record of a module. -/
def record (m : Module) : Json :=
  .object [("import_path", .text m.importPath), ("bindings", .list (m.bindings.map (·.record)))]

/-- The module that a record describes. -/
def ofRecord? : Json → Option Module
  | .object entries => do
    let importPath ← Json.text? "import_path" entries
    match ← Json.lookup? "bindings" entries with
    | .list items => do
      let bindings ← items.mapM Binding.ofRecord?
      pure ⟨importPath, bindings⟩
    | _ => none
  | _ => none

/-- The last binding of a name. Where a name is bound twice, the later binding counts. -/
def binding? (bindings : List Binding) (name : String) : Option Binding :=
  bindings.reverse.find? fun b => b.name == name

/-- The last binding for a declared type. -/
def bindingOfType? (bindings : List Binding) (typeName : String) : Option Binding :=
  bindings.reverse.find? fun b => b.typeName == typeName

theorem name_of_binding? {bindings : List Binding} {name : String} {b : Binding}
    (h : binding? bindings name = some b) : b.name = name := by
  simpa using List.find?_some h

theorem mem_of_binding? {bindings : List Binding} {name : String} {b : Binding}
    (h : binding? bindings name = some b) : b ∈ bindings := by
  simpa using List.mem_of_find?_eq_some h

end Module

end SchemaGuards
