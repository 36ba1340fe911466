import SchemaGuards.Proofs.Declaration.Meaning
import SchemaGuards.Proofs.Schema.Inlining
import SchemaGuards.Proofs.Schema.References

/-!
# Flags of compiled schemas

The flag at the top of a compiled schema is the one that was asked for, and below it the flags are
those that are written: a field is required unless its property may be missing, and nothing else is.
Every schema of that form is compiled from some type expression, which is computed here.
-/

namespace SchemaGuards

/-- The keyword that stands for a primitive. -/
def Primitive.keyword : Primitive → Keyword
  | any => .any
  | number => .number
  | object => .object
  | boolean => .boolean
  | string => .string
  | symbol => .symbol
  | this => .this
  | void => .void
  | undefined => .undefined
  | null => .null
  | never => .never

theorem Primitive.word_keyword (p : Primitive) : p.keyword.word = p.word := by
  cases p <;> rfl

namespace Naming

/-- The declared name of a generated one: the suffix is taken off. -/
def declared (naming : Naming) (name : String) : String :=
  String.ofList (name.toList.take (name.toList.length - naming.suffix.toList.length))

/-- A name that ends in the suffix is generated. -/
theorem binding_declared {naming : Naming} {name : String}
    (ends : naming.suffix.toList <:+ name.toList) :
    naming.binding (naming.declared name) = name := by
  apply String.toList_injective
  rw [binding, declared, String.toList_append, String.toList_ofList]
  obtain ⟨front, whole⟩ := ends
  rw [← whole, List.length_append, Nat.add_sub_cancel, List.take_left]

/-- A generated name ends in the suffix. -/
theorem suffix_binding (naming : Naming) (name : String) :
    naming.suffix.toList <:+ (naming.binding name).toList := by
  rw [binding, String.toList_append]
  exact List.suffix_append _ _

end Naming

namespace Schema

/-- The form of a schema that is compiled with a flag asked for at its top. -/
structure CompiledForm (naming : Naming) (required : Bool) (s : Schema) : Prop where
  inside : s.InnerOptional
  top : ∀ flag, s.flag? = some flag → flag = required
  names : ∀ name, s.Refers name → naming.suffix.toList <:+ name.toList

/-! ### A type expression for a schema -/

mutual

/-- A type expression of which a schema of that form is made. -/
def typeExpr (naming : Naming) : Schema → TypeExpr
  | primitive p _ => .keyword p.keyword
  | nullable inner => .union [typeExpr naming inner, .keyword .null]
  | enumeration values _ => .union (values.map fun s => .literal (.string s))
  | array item _ => .array (typeExpr naming item)
  | object fields _ => .object (members naming fields)
  | reference name _ => .reference ⟨[naming.declared name]⟩ []

/-- A property for each field; it is optional unless the field is required. -/
def members (naming : Naming) : List Field → List Member
  | [] => []
  | (name, s) :: rest =>
    .property (.identifier name) (s.flag? != some true) (some (typeExpr naming s)) ::
      members naming rest

end

theorem kept_members (naming : Naming) (fields : List Field) :
    Member.kept (members naming fields) =
      fields.map fun f => ⟨f.1, f.2.flag? != some true, f.2.typeExpr naming⟩ := by
  induction fields with
  | nil => rfl
  | cons f rest ih =>
      have kept : (Member.property (.identifier f.1) (f.2.flag? != some true)
          (some (f.2.typeExpr naming))).kept? =
          some ⟨f.1, f.2.flag? != some true, f.2.typeExpr naming⟩ := rfl
      rw [members, Member.kept, List.filterMap_cons_some kept, ← Member.kept, ih, List.map_cons]

variable {naming : Naming} {required : Bool} {s : Schema}

/-- A schema has the form that is compiled for a field if what it requires is written there. -/
theorem CompiledForm.of_field (inside : s.InnerOptional)
    (names : ∀ name, s.Refers name → naming.suffix.toList <:+ name.toList) :
    CompiledForm naming (!(s.flag? != some true)) s := by
  refine ⟨inside, ?_, names⟩
  intro flag hflag
  rw [hflag]
  cases flag <;> rfl

/-- What is not required at its top has the form that is compiled without a flag. -/
theorem CompiledForm.of_free (free : s.flag? ≠ some true) (inside : s.InnerOptional)
    (names : ∀ name, s.Refers name → naming.suffix.toList <:+ name.toList) :
    CompiledForm naming false s := by
  refine ⟨inside, ?_, names⟩
  intro flag hflag
  cases flag with
  | true => exact absurd hflag free
  | false => rfl

/-- The type expression for a schema is compiled to the schema. -/
theorem schema_typeExpr (form : s.CompiledForm naming required) :
    (s.typeExpr naming).schema naming required = .ok s := by
  rw [TypeExpr.schema_eq_ok_iff]
  induction s using Schema.induction generalizing required with
  | primitive p flag =>
      obtain rfl := form.top flag rfl
      exact .keyword p.word_keyword.symm
  | enumeration values flag =>
      obtain rfl := form.top flag rfl
      exact .choice values
  | reference name flag =>
      obtain rfl := form.top flag rfl
      have generated := Naming.binding_declared (form.names name .here)
      have lowers : TypeExpr.Lowers naming flag (typeExpr naming (reference name flag))
          (.reference (naming.binding (naming.declared name)) flag) :=
        .reference (naming.declared name)
      rwa [generated] at lowers
  | nullable inner ih =>
      cases form.inside with
      | nullable free inside =>
          have hinner := CompiledForm.of_free free inside fun name h => form.names name (.inner h)
          exact .orNull .second (TypeExpr.schema_eq_ok_iff.mpr (ih hinner))
  | array item flag ih =>
      obtain rfl := form.top flag rfl
      cases form.inside with
      | array free inside =>
          have hitem := CompiledForm.of_free free inside fun name h => form.names name (.item h)
          exact .array (TypeExpr.schema_eq_ok_iff.mpr (ih hitem))
  | object fields flag ih =>
      obtain rfl := form.top flag rfl
      cases form.inside with
      | object inside =>
          apply TypeExpr.Lowers.object
          rw [TypeExpr.fields_eq_ok_iff, kept_members, List.forall₂_map_left_iff,
            List.forall₂_same]
          intro f hf
          have hfield := CompiledForm.of_field (inside f hf) fun name h =>
            form.names name (.field hf h)
          exact ⟨rfl, TypeExpr.schema_eq_ok_iff.mpr (ih f hf hfield)⟩

end Schema

/-! ### The flags of a compiled schema -/

/-- A field is made of a property. It is required unless the property may be missing. -/
structure Property.MakesField (p : Property) (f : Schema.Field) : Prop where
  name : f.1 = p.name
  required_iff : f.2.flag? = some true ↔ p.optional = false ∧ ¬ p.type.IsOrNull

namespace TypeExpr

/-- At any depth of a type expression and its schema, the fields of objects are made of the
properties that are kept, one by one. -/
inductive FieldsAsWritten : TypeExpr → Schema → Prop
  | keyword {k p required} : FieldsAsWritten (keyword k) (.primitive p required)
  | orNull {types other inner} (shape : OrNull types other) (inside : FieldsAsWritten other inner) :
      FieldsAsWritten (union types) (.nullable inner)
  | choice {types values required} :
      FieldsAsWritten (union types) (.enumeration values required)
  | array {item s required} (inside : FieldsAsWritten item s) :
      FieldsAsWritten (array item) (.array s required)
  | object {members fs required} (each : List.Forall₂ Property.MakesField (Member.kept members) fs)
      (inside : ∀ made ∈ (Member.kept members).zip fs, FieldsAsWritten made.1.type made.2.2) :
      FieldsAsWritten (object members) (.object fs required)
  | reference {name arguments binding required} :
      FieldsAsWritten (reference name arguments) (.reference binding required)

variable {naming : Naming} {required : Bool} {e : TypeExpr} {s : Schema}

/-- Another flag at the top makes no other difference to a compiled schema. -/
theorem schema_withFlag (lowered : e.schema naming required = .ok s) (flag : Bool) :
    e.schema naming flag = .ok (s.withFlag flag) := by
  rw [schema_eq_ok_iff] at lowered ⊢
  cases lowered with
  | keyword named => exact .keyword named
  | orNull shape inner => exact .orNull shape inner
  | choice values => exact .choice values
  | array item => exact .array item
  | object body => exact .object body
  | reference name => exact .reference name

/-- The schema of a type and `null` is nullable, and no other schema is. -/
theorem isNullable_iff (lowered : e.schema naming required = .ok s) :
    (∃ inner, s = .nullable inner) ↔ e.IsOrNull := by
  constructor
  · rintro ⟨inner, rfl⟩
    cases schema_eq_ok_iff.mp lowered with
    | orNull shape inner => exact ⟨_, _, rfl, shape⟩
  · rintro ⟨types, other, rfl, shape⟩
    obtain ⟨inner, -, hs⟩ := exists_of_orNull shape lowered
    exact ⟨inner, hs⟩

/-- A compiled schema is required at its top if that was asked for, unless it is nullable. -/
theorem flag?_eq_some_true_iff (lowered : e.schema naming required = .ok s) :
    s.flag? = some true ↔ required = true ∧ ¬ e.IsOrNull := by
  rw [← isNullable_iff lowered]
  rcases flag?_schema lowered with ⟨inner, rfl⟩ | h
  · constructor
    · nofun
    · rintro ⟨-, notNullable⟩
      exact absurd ⟨inner, rfl⟩ notNullable
  · rw [h, Option.some.injEq]
    constructor
    · rintro rfl
      refine ⟨rfl, ?_⟩
      rintro ⟨inner, rfl⟩
      cases h
    · exact And.left

/-- The fields of a compiled schema are made of the properties of its type, at any depth. -/
theorem fieldsAsWritten_schema (lowered : e.schema naming required = .ok s) :
    e.FieldsAsWritten s := by
  induction e using TypeExpr.induction generalizing s required with
  | literal l => cases lowered
  | other kind source => cases lowered
  | keyword k =>
      cases schema_eq_ok_iff.mp lowered with
      | keyword named => exact .keyword
  | reference name arguments =>
      cases schema_eq_ok_iff.mp lowered with
      | reference name => exact .reference
  | union types ih =>
      cases schema_eq_ok_iff.mp lowered with
      | orNull shape other => exact .orNull shape (ih _ shape.mem other)
      | choice values => exact .choice
  | array item ih =>
      cases schema_eq_ok_iff.mp lowered with
      | array item => exact .array (ih item)
  | object members ih =>
      cases schema_eq_ok_iff.mp lowered with
      | object body =>
          have each := fields_eq_ok_iff.mp body
          constructor
          · refine each.imp fun p f h => ⟨h.1, ?_⟩
            rw [flag?_eq_some_true_iff h.2, Bool.not_eq_true']
          · intro made hmade
            have made_lowered := (List.forall₂_iff_zip.mp each).2 hmade
            exact ih made.1 (List.of_mem_zip hmade).1 made_lowered.2

/-- What a compiled schema says about missing values is what is written in the type expression
and what was asked for at the top. -/
structure FlagsAsWritten (naming : Naming) (required : Bool) (e : TypeExpr) (s : Schema) :
    Prop where
  top : (∃ inner, s = .nullable inner) ∨ s.flag? = some required
  other : ∀ flag, e.schema naming flag = .ok (s.withFlag flag)
  inside : s.InnerOptional
  fields : e.FieldsAsWritten s

/-- Compiled schemas require what is written and nothing else, and the schemas of that form are
exactly the compiled ones. -/
theorem flags_exactly_written (naming : Naming) (required : Bool) :
    (∀ (e : TypeExpr) (s : Schema), e.schema naming required = .ok s →
      FlagsAsWritten naming required e s) ∧
    ∀ s : Schema, (∃ e : TypeExpr, e.schema naming required = .ok s) ↔
      s.CompiledForm naming required := by
  constructor
  · intro e s lowered
    exact ⟨flag?_schema lowered, schema_withFlag lowered, innerOptional_schema lowered,
      fieldsAsWritten_schema lowered⟩
  · intro s
    constructor
    · rintro ⟨e, lowered⟩
      refine ⟨innerOptional_schema lowered, ?_, ?_⟩
      · intro flag hflag
        rcases flag?_schema lowered with ⟨inner, rfl⟩ | h
        · cases hflag
        · exact Option.some.inj (hflag.symm.trans h)
      · intro name refers
        obtain ⟨declared, -, rfl⟩ := exists_mentions_of_refers refers lowered
        exact naming.suffix_binding declared
    · intro form
      exact ⟨s.typeExpr naming, Schema.schema_typeExpr form⟩

/-- A table whose rows may be `null`, with a remark that may be missing. -/
def table : TypeExpr :=
  .object [
    .property (.identifier "rows") false
      (some (.array (.union [.reference ⟨["Row"]⟩ [], .keyword .null]))),
    .property (.identifier "remark") true
      (some (.object [
        .property (.identifier "by") false (some (.union [.keyword .null, .keyword .string])),
        .property (.identifier "text") false (some (.keyword .string))]))]

/-- The table has the flags that are written, and the schema of its rows is made of some type. -/
theorem flags_exactly_written_table :
    (∃ s, table.schema ⟨"V"⟩ true = .ok s ∧ FlagsAsWritten ⟨"V"⟩ true table s) ∧
    ∃ e : TypeExpr, e.schema ⟨"V"⟩ true =
      .ok (.array (.nullable (.reference "RowV" false)) true) := by
  constructor
  · obtain ⟨s, lowered⟩ : ∃ s, table.schema ⟨"V"⟩ true = .ok s := ⟨_, rfl⟩
    exact ⟨s, lowered, (flags_exactly_written ⟨"V"⟩ true).1 table s lowered⟩
  · rw [(flags_exactly_written ⟨"V"⟩ true).2]
    constructor
    · exact .array nofun (.nullable (by decide) .reference)
    · rintro flag ⟨⟩
      rfl
    · intro name refers
      cases refers with
      | item refers =>
          cases refers with
          | inner refers =>
              cases refers
              exact ⟨"Row".toList, rfl⟩

end TypeExpr

end SchemaGuards
