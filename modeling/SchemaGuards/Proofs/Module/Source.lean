import SchemaGuards.Module.Source
import SchemaGuards.Proofs.Module.Compile

/-!
# From sources to bindings

A source text that compiles has declarations, and its bindings are made of these.
-/

namespace SchemaGuards.Module

variable {naming : Naming} {label source : String} {m : Module}

/-- What a source compiles to comes from its declarations. -/
theorem exists_of_ofSource_eq_ok (compiled : ofSource naming label source = .ok m) :
    ∃ declarations, Syntax.parseModule source = .ok declarations ∧
      bindingsOf naming declarations = .ok m.bindings := by
  unfold ofSource at compiled
  split at compiled
  · cases compiled
  · next declarations parsed =>
    cases made : ofDeclarations naming label declarations with
    | error e =>
        rw [made] at compiled
        cases compiled
    | ok m' =>
        rw [made] at compiled
        exact ⟨declarations, parsed, Except.ok.inj compiled ▸ bindingsOf_of_ofDeclarations made⟩

end SchemaGuards.Module
