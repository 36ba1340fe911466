import SchemaGuards.Proofs.Check.Causes
import SchemaGuards.Proofs.Schema.Induction

/-!
# References of a schema and mentions of a type

The names that a schema refers to are the generated names of the types that its type
expression mentions. Types in dropped members are not mentioned: no schema is made of them.
-/

namespace SchemaGuards

namespace Schema

mutual

/-- The names that a schema refers to, in the order of its text. -/
def references : Schema → List String
  | primitive _ _ => []
  | nullable inner => references inner
  | enumeration _ _ => []
  | array item _ => references item
  | object fields _ => fieldReferences fields
  | reference name _ => [name]

/-- The names that the schemas of fields refer to. -/
def fieldReferences : List Field → List String
  | [] => []
  | (_, schema) :: rest => references schema ++ fieldReferences rest

end

theorem mem_fieldReferences_iff {fields : List Field} {x : String} :
    x ∈ fieldReferences fields ↔ ∃ f ∈ fields, x ∈ f.2.references := by
  induction fields with
  | nil => simp [fieldReferences]
  | cons f rest ih => simp [fieldReferences, ih]

theorem mem_references_iff {s : Schema} {x : String} : x ∈ s.references ↔ s.Refers x := by
  constructor
  · induction s using Schema.induction with
    | primitive p required => simp [references]
    | enumeration values required => simp [references]
    | nullable inner ih =>
        rw [references]
        exact fun h => .inner (ih h)
    | array item required ih =>
        rw [references]
        exact fun h => .item (ih h)
    | object fields required ih =>
        rw [references, mem_fieldReferences_iff]
        rintro ⟨f, hf, h⟩
        exact .field hf (ih f hf h)
    | reference name required =>
        rw [references, List.mem_singleton]
        rintro rfl
        exact .here
  · intro h
    induction h with
    | here => simp [references]
    | inner _ ih => rwa [references]
    | item _ ih => rwa [references]
    | field declared _ ih =>
        rw [references, mem_fieldReferences_iff]
        exact ⟨_, declared, ih⟩

end Schema

namespace TypeExpr

/-- A type expression mentions a declared name in a place of which a schema is made. -/
inductive Mentions : TypeExpr → String → Prop
  | here {name} : Mentions (reference ⟨[name]⟩ []) name
  | orNull {types other name} (shape : OrNull types other) (h : Mentions other name) :
      Mentions (union types) name
  | item {item name} (h : Mentions item name) : Mentions (array item) name
  | property {members property name} (kept : property ∈ Member.kept members)
      (h : Mentions property.type name) : Mentions (object members) name

variable {naming : Naming} {e : TypeExpr} {s : Schema}

theorem Mentions.refers {name : String} (h : e.Mentions name) :
    ∀ {required s}, e.schema naming required = .ok s → s.Refers (naming.binding name) := by
  induction h with
  | here =>
      intro required s lowered
      cases schema_eq_ok_iff.mp lowered with
      | reference => exact .here
  | orNull shape _ ih =>
      intro required s lowered
      obtain ⟨inner, hother, rfl⟩ := exists_of_orNull shape lowered
      exact .inner (ih hother)
  | item _ ih =>
      intro required s lowered
      cases schema_eq_ok_iff.mp lowered with
      | array item => exact .item (ih item)
  | property kept _ ih =>
      intro required s lowered
      cases schema_eq_ok_iff.mp lowered with
      | object body =>
          obtain ⟨f, hf, -, hs⟩ := exists_left_of_forall₂ (fields_eq_ok_iff.mp body).flip kept
          exact .field hf (ih hs)

/-- Whatever the schema of a type refers to is the generated name of a mentioned type. -/
theorem exists_mentions_of_refers {x : String} (h : s.Refers x) :
    ∀ {e : TypeExpr} {required}, e.schema naming required = .ok s →
      ∃ name, e.Mentions name ∧ naming.binding name = x := by
  induction h with
  | here =>
      intro e required lowered
      cases schema_eq_ok_iff.mp lowered with
      | reference name => exact ⟨name, .here, rfl⟩
  | inner _ ih =>
      intro e required lowered
      cases schema_eq_ok_iff.mp lowered with
      | orNull shape other =>
          obtain ⟨name, hname, hx⟩ := ih other
          exact ⟨name, .orNull shape hname, hx⟩
  | item _ ih =>
      intro e required lowered
      cases schema_eq_ok_iff.mp lowered with
      | array item =>
          obtain ⟨name, hname, hx⟩ := ih item
          exact ⟨name, .item hname, hx⟩
  | field declared _ ih =>
      intro e required lowered
      cases schema_eq_ok_iff.mp lowered with
      | object body =>
          obtain ⟨p, hp, -, hs⟩ := exists_left_of_forall₂ (fields_eq_ok_iff.mp body) declared
          obtain ⟨name, hname, hx⟩ := ih hs
          exact ⟨name, .property hp hname, hx⟩

theorem refers_iff_exists_mentions {required : Bool} {x : String}
    (lowered : e.schema naming required = .ok s) :
    s.Refers x ↔ ∃ name, e.Mentions name ∧ naming.binding name = x := by
  constructor
  · intro h
    exact exists_mentions_of_refers h lowered
  · rintro ⟨name, hname, rfl⟩
    exact hname.refers lowered

end TypeExpr

end SchemaGuards
