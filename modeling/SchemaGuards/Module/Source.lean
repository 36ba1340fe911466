import SchemaGuards.Module.Compile
import SchemaGuards.Module.Emit
import SchemaGuards.Syntax.Module

/-!
# Compiling source texts

A source text becomes a module when it can be read and all its declarations have schemas.
There is no output for a part of it.
-/

namespace SchemaGuards

/-- Why a source text does not compile. -/
inductive CompileFault where
  | unsupported (construct : Unsupported)
  | misread (error : Syntax.SyntaxError)
  deriving Repr

namespace CompileFault

/-- The wording of a compilation's failure. -/
def message : CompileFault → String
  | unsupported construct => s!"unsupported construct: {construct.message}"
  | misread error => s!"syntax error at {error.message}"

/-- The causes of a compilation's failure, from the outermost one on. What is wrong in a text
that cannot be read is told once with its setting and once alone. -/
def causes (fault : CompileFault) : List String :=
  match fault with
  | unsupported _ => [fault.message]
  | misread error => [fault.message, error.message]

end CompileFault

namespace Module

/-- The label of a source text that comes from no file. -/
def defaultLabel : String := "input"

/-- The module of a source text under its label. -/
def ofSource (naming : Naming) (label source : String) : Except CompileFault Module :=
  match Syntax.parseModule source with
  | .error error => .error (.misread error)
  | .ok declarations => (ofDeclarations naming label declarations).mapError .unsupported

/-- The text that is generated for a source text. -/
def textOfSource (naming : Naming) (label source : String) : Except CompileFault String :=
  (ofSource naming label source).map (·.text)

end Module

end SchemaGuards
