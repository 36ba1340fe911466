import SchemaGuards.Proofs.Schema.Lowering

/-!
# Induction over schemas and type expressions

Both kinds of trees have lists of trees below them. To show something of every tree, show it
of each shape from the trees that count there: the fields of an object, the members of a
union, and the properties that are kept of a list of members.
-/

namespace SchemaGuards

namespace Schema

variable {motive : Schema → Prop}

/-- To show something of every schema, show it of each shape from the schemas inside. -/
theorem induction
    (primitive : ∀ p required, motive (.primitive p required))
    (nullable : ∀ inner, motive inner → motive (.nullable inner))
    (enumeration : ∀ values required, motive (.enumeration values required))
    (array : ∀ item required, motive item → motive (.array item required))
    (object : ∀ fields required, (∀ f ∈ fields, motive f.2) → motive (.object fields required))
    (reference : ∀ name required, motive (.reference name required)) (s : Schema) : motive s :=
  @Schema.rec motive (fun fields => ∀ f ∈ fields, motive f.2) (fun f => motive f.2)
    primitive nullable enumeration array object reference nofun
    (fun _ _ hf hrest => List.forall_mem_cons.mpr ⟨hf, hrest⟩) (fun _ _ h => h) s

end Schema

namespace TypeExpr

variable {motive : TypeExpr → Prop}

/-- To show something of every type expression, show it of each shape from the types inside.
Of a list of members only the properties that are kept count. -/
theorem induction
    (keyword : ∀ k, motive (.keyword k))
    (literal : ∀ l, motive (.literal l))
    (union : ∀ types, (∀ t ∈ types, motive t) → motive (.union types))
    (array : ∀ item, motive item → motive (.array item))
    (object : ∀ members, (∀ p ∈ Member.kept members, motive p.type) → motive (.object members))
    (reference : ∀ name arguments, motive (.reference name arguments))
    (other : ∀ kind source, motive (.other kind source)) (e : TypeExpr) : motive e :=
  @TypeExpr.rec motive (fun m => ∀ p, m.kept? = some p → motive p.type)
    (fun types => ∀ t ∈ types, motive t) (fun members => ∀ p ∈ Member.kept members, motive p.type)
    (fun type => ∀ t, type = some t → motive t)
    keyword literal union array object (fun name arguments _ => reference name arguments) other
    (fun _ _ _ h p hp => by
      have hm := Member.kept?_eq_some_iff.mp hp
      exact h p.type (Member.property.inj hm).2.2)
    nofun nofun nofun nofun nofun
    (fun _ _ ht hrest => List.forall_mem_cons.mpr ⟨ht, hrest⟩) nofun
    (fun m _ hm hrest p hp => by
      obtain ⟨m', hmem, hkept⟩ := List.mem_filterMap.mp hp
      rcases List.mem_cons.mp hmem with rfl | hmem
      · exact hm p hkept
      · exact hrest p (List.mem_filterMap.mpr ⟨m', hmem, hkept⟩))
    nofun (fun _ h _ ht => Option.some.inj ht ▸ h) e

end TypeExpr

end SchemaGuards
