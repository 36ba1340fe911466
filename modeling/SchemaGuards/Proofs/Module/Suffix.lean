import SchemaGuards.Proofs.Check.Renaming
import SchemaGuards.Proofs.Module.Source
import SchemaGuards.Proofs.Schema.References

/-!
# What the suffix changes

A source compiles to the same module under every suffix, but for the suffix at the end of
every generated name. The checks are the same too. Names never run into one another: two
generated names are equal only if the declared names are, also where a declared name with
the suffix spells another declared name.
-/

namespace SchemaGuards

namespace Declaration

variable {f : String → String} {first second : Naming}

/-- The binding of a declaration under renamed names is the renamed binding; what makes no
binding makes none for the same reason. -/
theorem binding?_renamed (h : Naming.RenamedBy f first second) (d : Declaration) :
    d.binding? second = (d.binding? first).map (Option.map (Binding.renamed f)) := by
  have hbound (name : String) (s : Schema) : binding?.bound second name (s.renamed f) =
      (binding?.bound first name s).renamed f := by
    rw [binding?.bound, binding?.bound, h name]
    exact congrArg (fun guard => Binding.mk _ guard _ _) (h ("is" ++ name))
  cases d with
  | interface name typeParameters bases members =>
      rw [binding?, binding?]
      split
      · rfl
      · split
        · rfl
        · rw [TypeExpr.fields_renamed fun p _ required => TypeExpr.schema_renamed h p.type required]
          cases TypeExpr.fields first members with
          | error e => rfl
          | ok fields =>
              exact congrArg (fun b => Except.ok (some b)) (hbound name (.object fields false))
  | typeAlias name typeParameters type =>
      rw [binding?, binding?]
      split
      · rfl
      · rw [TypeExpr.schema_renamed h]
        cases type.schema first false with
        | error e => rfl
        | ok s => exact congrArg (fun b => Except.ok (some b)) (hbound name s)
  | other kind line => rfl

end Declaration

namespace Module

open Check Declaration

section Renamed

variable {f : String → String} {first second : Naming}

theorem bindingsOf_renamed (h : Naming.RenamedBy f first second)
    (declarations : List Declaration) :
    bindingsOf second declarations =
      (bindingsOf first declarations).map (List.map (Binding.renamed f)) := by
  induction declarations with
  | nil => rfl
  | cons d rest ih =>
      rw [bindingsOf, bindingsOf, Declaration.binding?_renamed h, ih]
      cases d.binding? first with
      | error e => rfl
      | ok made =>
          cases bindingsOf first rest with
          | error e => rfl
          | ok others => cases made <;> rfl

/-- A source compiles under renamed names to the renamed module, or fails as before. -/
theorem ofSource_renamed (h : Naming.RenamedBy f first second) (label source : String) :
    ofSource second label source = (ofSource first label source).map (Module.renamed f) := by
  unfold ofSource
  split
  · rfl
  · next declarations parsed =>
    rw [ofDeclarations, ofDeclarations, bindingsOf_renamed h]
    cases bindingsOf first declarations <;> rfl

end Renamed

/-- How references are written and where they lead. A schema refers to the generated names of
the types that its declaration mentions, and the generated name of a type is bound to what the
last declaration of that type is compiled to. -/
structure RefersByName (naming : Naming) (declarations : List Declaration)
    (bindings : List Binding) : Prop where
  written : ∀ b ∈ bindings, ∃ declared ∈ declarations.filterMap declared?,
    MakesBinding naming declared b ∧
      ∀ x, b.schema.Refers x ↔ ∃ name, declared.2.Mentions name ∧ naming.binding name = x
  resolved : ∀ name b, Bound bindings (naming.binding name) b ↔
    ∃ type, DeclaredAs declarations name type ∧ MakesBinding naming (name, type) b

theorem refersByName_of_bindingsOf {naming : Naming} {declarations : List Declaration}
    {bindings : List Binding} (compiled : bindingsOf naming declarations = .ok bindings) :
    RefersByName naming declarations bindings := by
  constructor
  · intro b hb
    obtain ⟨declared, hmem, made⟩ := exists_left_of_forall₂ (forall₂_of_bindingsOf compiled) hb
    obtain ⟨s, lowered, rfl⟩ := made
    refine ⟨declared, hmem, ⟨s, lowered, rfl⟩, fun x => ?_⟩
    exact TypeExpr.refers_iff_exists_mentions lowered
  · intro name b
    constructor
    · exact declaredAs_of_bound compiled
    · rintro ⟨type, declared, s, lowered, rfl⟩
      obtain ⟨b, bound, s', lowered', rfl⟩ := bound_of_declaredAs compiled declared
      obtain rfl : s' = s := Except.ok.inj (lowered'.symm.trans lowered)
      exact bound

/-- Two answers tell the same, where each tells a binding by a source name and its suffix. -/
inductive AgreeUpTo (s₁ s₂ : String) : Except Failure Unit → Except Failure Unit → Prop
  | passed : AgreeUpTo s₁ s₂ (.ok ()) (.ok ())
  | unknownType (name : String) :
      AgreeUpTo s₁ s₂ (.error (.unknownType name)) (.error (.unknownType name))
  | violation (path : List Segment) (reason : Reason) :
      AgreeUpTo s₁ s₂ (.error (.violation path reason)) (.error (.violation path reason))
  | unknownBinding (name : String) :
      AgreeUpTo s₁ s₂ (.error (.unknownBinding (name ++ s₁)))
        (.error (.unknownBinding (name ++ s₂)))
  | circular (name : String) :
      AgreeUpTo s₁ s₂ (.error (.circular (name ++ s₁))) (.error (.circular (name ++ s₂)))

theorem agreeUpTo_mapError (s₁ s₂ : String) (answer : Except Failure Unit) :
    AgreeUpTo s₁ s₂ (answer.mapError (Failure.renamed (· ++ s₁)))
      (answer.mapError (Failure.renamed (· ++ s₂))) := by
  rcases answer with failure | -
  · cases failure with
    | unknownType name => exact .unknownType name
    | unknownBinding name => exact .unknownBinding name
    | circular name => exact .circular name
    | violation path reason => exact .violation path reason
  · exact .passed

/-- A suffix is put behind the names that are formed without one. -/
theorem renamedBy_append (suffix : String) : Naming.RenamedBy (· ++ suffix) ⟨""⟩ ⟨suffix⟩ := by
  intro name
  simp [Naming.binding]

theorem validate_suffixed (m : Module) (suffix typeName : String) (document : Json) :
    (m.renamed (· ++ suffix)).validate typeName document =
      (m.validate typeName document).mapError (Failure.renamed (· ++ suffix)) :=
  validate_renamed (fun _ _ h => (String.append_left_inj suffix).mp h) m typeName document

/-- The suffix only renames. Under two suffixes a source fails for the same reason, or it
compiles to one module with the one and with the other suffix behind all generated names. The
checks against every declared type agree, and every reference leads to the last declaration of
the name that is written in the source, whatever the declared names and the suffix spell. -/
theorem suffix_only_renames (label source s₁ s₂ : String) :
    (∃ fault, ofSource ⟨s₁⟩ label source = .error fault ∧
      ofSource ⟨s₂⟩ label source = .error fault) ∨
    ∃ declarations m₁ m₂, Syntax.parseModule source = .ok declarations ∧
      ofSource ⟨s₁⟩ label source = .ok m₁ ∧ ofSource ⟨s₂⟩ label source = .ok m₂ ∧
      (∃ m : Module, m₁ = m.renamed (· ++ s₁) ∧ m₂ = m.renamed (· ++ s₂)) ∧
      (∀ typeName document,
        AgreeUpTo s₁ s₂ (m₁.validate typeName document) (m₂.validate typeName document)) ∧
      RefersByName ⟨s₁⟩ declarations m₁.bindings ∧
      RefersByName ⟨s₂⟩ declarations m₂.bindings := by
  have h₁ := ofSource_renamed (renamedBy_append s₁) label source
  have h₂ := ofSource_renamed (renamedBy_append s₂) label source
  cases compiled : ofSource ⟨""⟩ label source with
  | error fault =>
      rw [compiled] at h₁ h₂
      exact Or.inl ⟨fault, h₁, h₂⟩
  | ok m =>
      rw [compiled] at h₁ h₂
      obtain ⟨declarations, parsed, hb₁⟩ := exists_of_ofSource_eq_ok h₁
      obtain ⟨declarations', parsed', hb₂⟩ := exists_of_ofSource_eq_ok h₂
      obtain rfl : declarations' = declarations := Except.ok.inj (parsed'.symm.trans parsed)
      refine Or.inr ⟨declarations', _, _, parsed, h₁, h₂, ⟨m, rfl, rfl⟩, ?_,
        refersByName_of_bindingsOf hb₁, refersByName_of_bindingsOf hb₂⟩
      intro typeName document
      rw [validate_suffixed, validate_suffixed]
      exact agreeUpTo_mapError s₁ s₂ (m.validate typeName document)

/-- With the suffix `S` the name of the first type spells the name of the second one. -/
theorem suffix_only_renames_collision :
    ∃ m₁ m₂, ofSource ⟨""⟩ "input" "type A=AS[];type AS=string" = .ok m₁ ∧
      ofSource ⟨"S"⟩ "input" "type A=AS[];type AS=string" = .ok m₂ ∧
      m₁.bindings.map Binding.name = ["A", "AS"] ∧ m₂.bindings.map Binding.name = ["AS", "ASS"] ∧
      AgreeUpTo "" "S" (m₁.validate "A" (.list [.text "a"]))
        (m₂.validate "A" (.list [.text "a"])) := by
  have names₁ : ∃ m, ofSource ⟨""⟩ "input" "type A=AS[];type AS=string" = .ok m ∧
      m.bindings.map Binding.name = ["A", "AS"] := by decide +kernel
  have names₂ : ∃ m, ofSource ⟨"S"⟩ "input" "type A=AS[];type AS=string" = .ok m ∧
      m.bindings.map Binding.name = ["AS", "ASS"] := by decide +kernel
  obtain ⟨m₁, compiled₁, hn₁⟩ := names₁
  obtain ⟨m₂, compiled₂, hn₂⟩ := names₂
  rcases suffix_only_renames "input" "type A=AS[];type AS=string" "" "S" with
    ⟨fault, failed, -⟩ | ⟨declarations, m₁', m₂', -, h₁, h₂, -, agree, -⟩
  · cases failed.symm.trans compiled₁
  · obtain rfl := Except.ok.inj (h₁.symm.trans compiled₁)
    obtain rfl := Except.ok.inj (h₂.symm.trans compiled₂)
    exact ⟨_, _, compiled₁, compiled₂, hn₁, hn₂, agree "A" _⟩

end Module

end SchemaGuards
