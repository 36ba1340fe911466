import SchemaGuards.Module.Basic
import SchemaGuards.Module.ImportPath
import SchemaGuards.Schema.Lowering

/-!
# Compiling declarations

Each interface and each alias becomes a binding; other statements make none. One
declaration without a schema makes the whole module fail, and the first one decides how.
-/

namespace SchemaGuards

namespace Declaration

/-- The binding of a declaration, if it makes one. -/
def binding? (naming : Naming) : Declaration → Except Unsupported (Option Binding)
  | interface name typeParameters bases members =>
    if !typeParameters.isEmpty then .error (.generic name typeParameters)
    else if !bases.isEmpty then .error (.inheritance name bases)
    else do
      let fields ← TypeExpr.fields naming members
      pure (some (bound name (.object fields false)))
  | typeAlias name typeParameters type =>
    if !typeParameters.isEmpty then .error (.generic name typeParameters)
    else do
      let schema ← type.schema naming false
      pure (some (bound name schema))
  | other _ _ => .ok none
where
  /-- The binding of a schema under a declared name. -/
  bound (name : String) (schema : Schema) : Binding :=
    ⟨naming.binding name, naming.guard name, name, schema⟩

end Declaration

namespace Module

/-- The bindings of a list of declarations, in order. -/
def bindingsOf (naming : Naming) : List Declaration → Except Unsupported (List Binding)
  | [] => .ok []
  | declaration :: rest => do
    let first ← declaration.binding? naming
    let others ← bindingsOf naming rest
    pure (first.toList ++ others)

/-- The module of a list of declarations under the label of its source. -/
def ofDeclarations (naming : Naming) (label : String) (declarations : List Declaration) :
    Except Unsupported Module :=
  (bindingsOf naming declarations).map fun bindings => ⟨SchemaGuards.importPath label, bindings⟩

end Module

end SchemaGuards
