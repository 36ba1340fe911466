import SchemaGuards.Proofs.Check.Calls
import SchemaGuards.Proofs.Check.Tests
import SchemaGuards.Proofs.Schema.Renaming

/-!
# Checks under renamed bindings

A module with its generated names renamed checks as the module itself does, as long as
different names stay different: violations and their paths are the same, and where a name is
told, it is the renamed one.
-/

namespace SchemaGuards

/-- A binding with its names and references renamed; the declared type keeps its name. -/
def Binding.renamed (f : String → String) (b : Binding) : Binding :=
  ⟨f b.name, f b.guard, b.typeName, b.schema.renamed f⟩

/-- A module with the names and references of all bindings renamed. -/
def Module.renamed (f : String → String) (m : Module) : Module :=
  ⟨m.importPath, m.bindings.map (Binding.renamed f)⟩

namespace Module

variable {f : String → String} {bindings : List Binding}

theorem binding?_renamed (hf : Function.Injective f) (name : String) :
    binding? (bindings.map (Binding.renamed f)) (f name) =
      (binding? bindings name).map (Binding.renamed f) := by
  have hsame : ((fun b : Binding => b.name == f name) ∘ Binding.renamed f) =
      fun b => b.name == name := by
    funext b
    simp [Binding.renamed, hf.eq_iff]
  rw [binding?, binding?, ← List.map_reverse, List.find?_map, hsame]

theorem bindingOfType?_renamed (typeName : String) :
    bindingOfType? (bindings.map (Binding.renamed f)) typeName =
      (bindingOfType? bindings typeName).map (Binding.renamed f) := by
  rw [bindingOfType?, bindingOfType?, ← List.map_reverse, List.find?_map]
  rfl

end Module

namespace Check

/-- A failure with the name of a binding renamed. Declared types keep their names. -/
def Failure.renamed (f : String → String) : Failure → Failure
  | .unknownType name => .unknownType name
  | .unknownBinding name => .unknownBinding (f name)
  | .circular name => .circular (f name)
  | .violation path reason => .violation path reason

/-- A call with the names on the chain and in the schema renamed. -/
def Call.renamed (f : String → String) (c : Call) : Call :=
  ⟨c.chain.map f, c.path, c.schema.renamed f, c.value⟩

variable {f : String → String} {bindings : List Binding}

theorem unknownKey?_renamed (fields : List Schema.Field) (entries : List (String × Json)) :
    unknownKey? (Schema.renamedFields f fields) entries = unknownKey? fields entries := by
  simp only [unknownKey?, Schema.map_fst_renamedFields]

/-- A test that fails only with violations names no binding. -/
theorem mapError_renamed_of_violation {path : List Segment} {x : Except Failure Unit}
    (h : ∀ e, x = .error e → ∃ reason, e = .violation path reason) :
    x.mapError (Failure.renamed f) = x := by
  cases x with
  | ok u => rfl
  | error e =>
      obtain ⟨reason, rfl⟩ := h e rfl
      rfl

namespace Call

/-- The calls of a renamed call are the renamed calls. -/
theorem next_renamed (hf : Function.Injective f) (c : Call) :
    (c.renamed f).next (bindings.map (Binding.renamed f)) =
      (c.next bindings).map (Call.renamed f) := by
  obtain ⟨chain, path, schema, value⟩ := c
  cases schema with
  | nullable inner =>
      by_cases hv : value = some .null
      · subst hv
        rfl
      · rw [renamed, Schema.renamed, next_nullable hv, next_nullable hv]
        rfl
  | reference name required =>
      cases value with
      | none => rfl
      | some value =>
          simp only [renamed, Schema.renamed, next, List.mem_map_of_injective hf,
            Module.binding?_renamed hf]
          by_cases followed : name ∈ chain
          · simp [followed]
          · cases Module.binding? bindings name <;> simp [followed, renamed, Binding.renamed]
  | array item required =>
      rcases value with _ | (_ | _ | _ | _ | elements | _)
      case some.list => simp [renamed, Schema.renamed, next, Function.comp_def]
      all_goals rfl
  | object fields required =>
      rcases value with _ | (_ | _ | _ | _ | _ | entries)
      case some.object =>
        simp [renamed, Schema.renamed, next, Schema.renamedFields_eq_map, Function.comp_def]
      all_goals rfl
  | primitive kind required => cases value <;> rfl
  | enumeration values required => cases value <;> rfl

/-- The own test of a renamed call fails with the renamed failure. -/
theorem own_renamed (hf : Function.Injective f) (c : Call) :
    (c.renamed f).own (bindings.map (Binding.renamed f)) =
      (c.own bindings).mapError (Failure.renamed f) := by
  obtain ⟨chain, path, schema, value⟩ := c
  cases value with
  | none =>
      have habsent (required : Bool) :
          (absent path required).mapError (Failure.renamed f) = absent path required :=
        mapError_renamed_of_violation fun _ h => ⟨_, absent_eq_error h⟩
      cases schema with
      | nullable inner => rfl
      | _ => exact (habsent _).symm
  | some value =>
      cases schema with
      | nullable inner => rfl
      | primitive kind required =>
          exact (mapError_renamed_of_violation fun _ h =>
            (checkPrimitive_eq_error h).imp fun _ h => h.2).symm
      | enumeration values required =>
          exact (mapError_renamed_of_violation fun _ h =>
            (checkListed_eq_error h).imp fun _ h => h.2).symm
      | reference name required =>
          simp only [renamed, Schema.renamed, own, List.mem_map_of_injective hf,
            Module.binding?_renamed hf]
          by_cases followed : name ∈ chain
          · simp [followed, Except.mapError, Failure.renamed]
          · cases Module.binding? bindings name <;>
              simp [followed, Except.mapError, Failure.renamed]
      | array item required => cases value <;> rfl
      | object fields required =>
          cases value with
          | object entries =>
              simp only [renamed, Schema.renamed, own, unknownKey?_renamed]
              cases unknownKey? fields entries <;> rfl
          | _ => rfl

/-- A renamed call answers as the call does, up to the names that are told. -/
theorem answer_renamed (hf : Function.Injective f) (c : Call) :
    (c.renamed f).answer (bindings.map (Binding.renamed f)) =
      (c.answer bindings).mapError (Failure.renamed f) := by
  induction c using Call.induction bindings with
  | step c ih =>
      have hcalls : ((c.next bindings).map (Call.renamed f)).forM
            (answer (bindings.map (Binding.renamed f))) =
          ((c.next bindings).forM (answer bindings)).mapError (Failure.renamed f) := by
        refine Result.forM_related (R := fun x y => y = x.mapError (Failure.renamed f))
          (S := fun d d' => d' = d.renamed f) rfl ?_ ?_ ?_
        · rintro x _ y _ rfl rfl
          cases x <;> rfl
        · exact List.forall₂_map_right_iff.mpr (List.forall₂_same.mpr fun _ _ => rfl)
        · rintro d hd _ rfl
          exact ih d (mem_next_iff.mp hd)
      rw [answer_eq, answer_eq, next_renamed hf, own_renamed hf, hcalls]
      cases (c.next bindings).forM (answer bindings) <;> rfl

end Call

end Check

namespace Module

open Check

variable {f : String → String}

theorem validateBinding_renamed (hf : Function.Injective f) (m : Module) (name : String)
    (document : Json) :
    (m.renamed f).validateBinding (f name) document =
      (m.validateBinding name document).mapError (Failure.renamed f) := by
  rw [validateBinding, validateBinding, renamed, binding?_renamed hf]
  cases binding? m.bindings name with
  | none => rfl
  | some target => exact Call.answer_renamed hf (Call.start name target document)

/-- A renamed module checks a document against a declared type as the module does. -/
theorem validate_renamed (hf : Function.Injective f) (m : Module) (typeName : String)
    (document : Json) :
    (m.renamed f).validate typeName document =
      (m.validate typeName document).mapError (Failure.renamed f) := by
  have hlookup : bindingOfType? (m.renamed f).bindings typeName =
      (bindingOfType? m.bindings typeName).map (Binding.renamed f) :=
    bindingOfType?_renamed typeName
  rw [validate, validate, hlookup]
  cases bindingOfType? m.bindings typeName with
  | none => rfl
  | some target => exact validateBinding_renamed hf m target.name document

end Module

end SchemaGuards
