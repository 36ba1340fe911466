import SchemaGuards.Proofs.Schema.Induction

/-!
# Renaming what schemas refer to

A schema with its references renamed, and the schema of a type under two ways to form names:
where one way is the other one followed by a renaming, so are the schemas, and a type that
has no schema has none for the same reason.
-/

namespace SchemaGuards

namespace Schema

mutual

/-- The schema in which every reference has a new name. -/
def renamed (f : String → String) : Schema → Schema
  | primitive p required => primitive p required
  | nullable inner => nullable (renamed f inner)
  | enumeration values required => enumeration values required
  | array item required => array (renamed f item) required
  | object fields required => object (renamedFields f fields) required
  | reference name required => reference (f name) required

/-- Fields with their references renamed; the fields keep their own names. -/
def renamedFields (f : String → String) : List Field → List Field
  | [] => []
  | (name, schema) :: rest => (name, renamed f schema) :: renamedFields f rest

end

variable {f g : String → String}

theorem renamedFields_eq_map (fields : List Field) :
    renamedFields f fields = fields.map fun field => (field.1, field.2.renamed f) := by
  induction fields with
  | nil => rfl
  | cons field rest ih => rw [renamedFields, ih, List.map_cons]

@[simp] theorem map_fst_renamedFields (fields : List Field) :
    (renamedFields f fields).map (·.1) = fields.map (·.1) := by
  simp [renamedFields_eq_map]

end Schema

/-- Names formed the second way are names formed the first way and then renamed. -/
def Naming.RenamedBy (f : String → String) (first second : Naming) : Prop :=
  ∀ name, second.binding name = f (first.binding name)

namespace TypeExpr

variable {f : String → String} {first second : Naming}

/-- The fields of members are renamed as the schemas of their types are. -/
theorem fields_renamed {members : List Member}
    (h : ∀ p ∈ Member.kept members, ∀ required,
      p.type.schema second required = (p.type.schema first required).map (Schema.renamed f)) :
    fields second members = (fields first members).map (Schema.renamedFields f) := by
  have hmap : Schema.renamedFields f = List.map fun field => (field.1, field.2.renamed f) :=
    funext Schema.renamedFields_eq_map
  rw [fields_eq_mapM, fields_eq_mapM, hmap]
  refine Result.mapM_eq_map fun p hp => ?_
  rw [h p hp]
  cases p.type.schema first (!p.optional) <;> rfl

/-- The schema of a type under renamed names is the renamed schema; without a schema, the
refusal is the same. -/
theorem schema_renamed (h : Naming.RenamedBy f first second) (e : TypeExpr) (required : Bool) :
    e.schema second required = (e.schema first required).map (Schema.renamed f) := by
  induction e using TypeExpr.induction generalizing required with
  | keyword k =>
      rw [schema, schema]
      cases k.primitive? <;> rfl
  | literal l => rfl
  | other kind source => rfl
  | union types ih =>
      by_cases shape : ∃ other, OrNull types other
      · obtain ⟨other, shape⟩ := shape
        rw [schema_of_orNull shape, schema_of_orNull shape, ih other shape.mem]
        cases other.schema first false <;> rfl
      · rw [schema_of_not_orNull (not_exists.mp shape), schema_of_not_orNull (not_exists.mp shape),
          choice]
        cases stringLiterals? types <;> rfl
  | array item ih =>
      rw [schema, schema, ih]
      cases item.schema first false <;> rfl
  | object members ih =>
      rw [schema, schema, fields_renamed ih]
      cases fields first members <;> rfl
  | reference name arguments =>
      rw [schema, schema]
      split
      · cases name.identifier? with
        | none => rfl
        | some identifier =>
            change Except.ok (Schema.reference (second.binding identifier) required) = _
            rw [h]
            rfl
      · rfl

end TypeExpr

end SchemaGuards
