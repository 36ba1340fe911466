import SchemaGuards.Proofs.Check.Acceptance
import SchemaGuards.Proofs.Module.Compile
import SchemaGuards.Proofs.Schema.Lowering

/-!
# What declarations mean

The documents that a declared type describes, read off the declarations alone, and the
guards of the compiled module: a guard answers `true` exactly on the documents that its type
describes.

## Implementation notes

The meaning is a least relation, since declared types may be recursive. Its rules go by the
shape of the type alone, and a keyword means the primitive of the same word. It knows of no
flag: whether a property may be missing is read off the property. The flag of its schema
says the same, and a nullable schema, which has no flag, may always be missing because
nothing below it requires a value.
-/

namespace SchemaGuards

/-- The type is a union of a type and `null`. -/
def TypeExpr.IsOrNull (type : TypeExpr) : Prop :=
  ∃ types other, type = .union types ∧ OrNull types other

/-- Objects need not have a property that is optional or that may be `null`. -/
def Property.MayBeMissing (p : Property) : Prop := p.optional = true ∨ p.type.IsOrNull

namespace Declaration

/-- The documents that a type expression describes where some types are declared. -/
inductive Satisfies (declarations : List Declaration) : TypeExpr → Json → Prop
  | keyword {k p document} (named : p.word = k.word)
      (holds : Check.isOfKind p document = true) : Satisfies declarations (.keyword k) document
  | null {types other} (shape : TypeExpr.OrNull types other) :
      Satisfies declarations (.union types) .null
  | orNull {types other document} (shape : TypeExpr.OrNull types other)
      (h : Satisfies declarations other document) :
      Satisfies declarations (.union types) document
  | choice {values : List String} {s} (listed : s ∈ values) :
      Satisfies declarations (.union (values.map fun s => .literal (.string s))) (.text s)
  | array {item elements} (h : ∀ e ∈ elements, Satisfies declarations item e) :
      Satisfies declarations (.array item) (.list elements)
  | object {members : List Member} {entries}
      (known : ∀ e ∈ entries, ∃ p ∈ Member.kept members, p.name = e.1)
      (present : ∀ p ∈ Member.kept members, ∀ document,
        Json.lookup? p.name entries = some document → Satisfies declarations p.type document)
      (missing : ∀ p ∈ Member.kept members,
        Json.lookup? p.name entries = none → p.MayBeMissing) :
      Satisfies declarations (.object members) (.object entries)
  | reference {name type document} (declared : DeclaredAs declarations name type)
      (h : Satisfies declarations type document) :
      Satisfies declarations (.reference ⟨[name]⟩ []) document

end Declaration

namespace Check

open Declaration

variable {naming : Naming} {declarations : List Declaration} {bindings : List Binding}
  {type : TypeExpr} {s : Schema} {required : Bool}

/-- A schema that does not require a value accepts that there is none. -/
theorem accepts_missing {type : TypeExpr} {s : Schema}
    (lowered : type.schema naming false = .ok s) : Accepts bindings s none := by
  cases TypeExpr.schema_eq_ok_iff.mp lowered with
  | orNull shape inner => exact .nullable (accepts_missing inner)
  | _ => exact .missing rfl

/-- Only a type that may be `null` may be missing where its schema requires a value. -/
theorem accepts_missing_iff (lowered : type.schema naming required = .ok s) :
    Accepts bindings s none ↔ required = false ∨ type.IsOrNull := by
  constructor
  · intro h
    cases TypeExpr.schema_eq_ok_iff.mp lowered with
    | orNull shape _ => exact Or.inr ⟨_, _, rfl, shape⟩
    | _ =>
        cases h with
        | missing optional => exact Or.inl (Option.some.inj optional)
  · rintro (rfl | ⟨types, other, rfl, shape⟩)
    · exact accepts_missing lowered
    · obtain ⟨inner, hother, rfl⟩ := TypeExpr.exists_of_orNull shape lowered
      exact .nullable (accepts_missing hother)

/-- The schema of a property accepts that there is no value when the property may be
missing. -/
theorem accepts_missing_iff_mayBeMissing {p : Property}
    (lowered : p.type.schema naming (!p.optional) = .ok s) :
    Accepts bindings s none ↔ p.MayBeMissing := by
  rw [accepts_missing_iff lowered, Property.MayBeMissing, Bool.not_eq_false']

/-- What a type describes its schema accepts. -/
theorem accepts_of_satisfies (compiled : Module.bindingsOf naming declarations = .ok bindings)
    {document : Json} (h : Satisfies declarations type document) :
    ∀ {required s}, type.schema naming required = .ok s →
      Accepts bindings s (some document) := by
  -- for every flag: items are lowered without it, and each field with one of its own
  induction h with
  | keyword named holds =>
      intro required s lowered
      rw [TypeExpr.schema_eq_ok_iff.mpr (.keyword named)] at lowered
      exact Except.ok.inj lowered ▸ .primitive holds
  | null shape =>
      intro required s lowered
      obtain ⟨inner, -, rfl⟩ := TypeExpr.exists_of_orNull shape lowered
      exact .null
  | orNull shape _ ih =>
      intro required s lowered
      obtain ⟨inner, hother, rfl⟩ := TypeExpr.exists_of_orNull shape lowered
      exact .nullable (ih hother)
  | @choice values _ listed =>
      intro required s lowered
      rw [TypeExpr.schema_eq_ok_iff.mpr (.choice values)] at lowered
      exact Except.ok.inj lowered ▸ .enumeration listed
  | array _ ih =>
      intro required s lowered
      cases TypeExpr.schema_eq_ok_iff.mp lowered with
      | array item => exact .array fun e he => ih e he item
  | object known _ missing ih =>
      intro required s lowered
      cases TypeExpr.schema_eq_ok_iff.mp lowered with
      | object body =>
          have fields := TypeExpr.fields_eq_ok_iff.mp body
          refine .object (fun f hf => ?_) fun e he => ?_
          · obtain ⟨p, hp, hname, hs⟩ := exists_left_of_forall₂ fields hf
            rw [hname]
            cases found : Json.lookup? p.name _ with
            | none => exact (accepts_missing_iff_mayBeMissing hs).mpr (missing p hp found)
            | some document => exact ih p hp document found hs
          · obtain ⟨p, hp, hname⟩ := known e he
            obtain ⟨f, hf, hfname, -⟩ := exists_left_of_forall₂ fields.flip hp
            exact ⟨f, hf, hfname.trans hname⟩
  | reference declared _ ih =>
      intro required s lowered
      cases TypeExpr.schema_eq_ok_iff.mp lowered with
      | reference name =>
          obtain ⟨b, bound, s, hs, rfl⟩ := Module.bound_of_declaredAs compiled declared
          exact .reference bound (ih hs)

/-- What the schema of a type accepts the type describes. -/
theorem satisfies_of_accepts (compiled : Module.bindingsOf naming declarations = .ok bindings)
    {value : Option Json} (h : Accepts bindings s value) :
    ∀ {type required document}, type.schema naming required = .ok s → value = some document →
      Satisfies declarations type document := by
  induction h with
  | null =>
      rintro type required document lowered ⟨⟩
      cases TypeExpr.schema_eq_ok_iff.mp lowered with
      | orNull shape _ => exact .null shape
  | nullable _ ih =>
      rintro type required document lowered hv
      cases TypeExpr.schema_eq_ok_iff.mp lowered with
      | orNull shape inner => exact .orNull shape (ih inner hv)
  | missing => nofun
  | reference bound _ ih =>
      rintro type required document lowered ⟨⟩
      cases TypeExpr.schema_eq_ok_iff.mp lowered with
      | reference name =>
          obtain ⟨type, declared, s, hs, rfl⟩ := Module.declaredAs_of_bound compiled bound
          exact .reference declared (ih hs rfl)
  | primitive holds =>
      rintro type required document lowered ⟨⟩
      cases TypeExpr.schema_eq_ok_iff.mp lowered with
      | keyword named => exact .keyword named holds
  | enumeration listed =>
      rintro type required document lowered ⟨⟩
      cases TypeExpr.schema_eq_ok_iff.mp lowered with
      | choice values => exact .choice listed
  | array _ ih =>
      rintro type required document lowered ⟨⟩
      cases TypeExpr.schema_eq_ok_iff.mp lowered with
      | array item => exact .array fun e he => ih e he item rfl
  | object h known ih =>
      rintro type required document lowered ⟨⟩
      cases TypeExpr.schema_eq_ok_iff.mp lowered with
      | object body =>
          have fields := TypeExpr.fields_eq_ok_iff.mp body
          refine .object (fun e he => ?_) (fun p hp document found => ?_) fun p hp found => ?_
          · obtain ⟨f, hf, hfname⟩ := known e he
            obtain ⟨p, hp, hname, -⟩ := exists_left_of_forall₂ fields hf
            exact ⟨p, hp, hname.symm.trans hfname⟩
          · obtain ⟨f, hf, hname, hs⟩ := exists_left_of_forall₂ fields.flip hp
            exact ih f hf hs (hname ▸ found)
          · obtain ⟨f, hf, hname, hs⟩ := exists_left_of_forall₂ fields.flip hp
            have none := h f hf
            rw [hname, found] at none
            exact (accepts_missing_iff_mayBeMissing hs).mp none

/-- The schema of a type accepts exactly what the type describes. -/
theorem accepts_iff_satisfies (compiled : Module.bindingsOf naming declarations = .ok bindings)
    (lowered : type.schema naming required = .ok s) {document : Json} :
    Accepts bindings s (some document) ↔ Satisfies declarations type document :=
  ⟨fun h => satisfies_of_accepts compiled h lowered rfl,
    fun h => accepts_of_satisfies compiled h lowered⟩

end Check

namespace Module

open Declaration

variable {naming : Naming} {declarations : List Declaration} {m : Module} {name : String}

/-- The guard of a type of a compiled module checks against the generated name. -/
theorem accepts_eq_true_iff_exists (compiled : bindingsOf naming declarations = .ok m.bindings)
    {document : Json} :
    m.accepts name document = .ok true ↔
      ∃ b, Bound m.bindings (naming.binding name) b ∧
        Check.Accepts m.bindings b.schema (some document) := by
  rw [accepts_eq_true_iff]
  constructor
  · intro h
    cases found : bindingOfType? m.bindings name with
    | none => simp [validate, found] at h
    | some b =>
        have last := bindingOfType?_eq_some_iff.mp found
        have bound := (bound_iff_last_typeName compiled).mpr last
        rw [validate_eq_validateBinding last, bound.name_eq] at h
        exact ⟨b, bound, (validateBinding_eq_ok_iff_of_bound bound).mp h⟩
  · rintro ⟨b, bound, h⟩
    rw [validate_eq_validateBinding ((bound_iff_last_typeName compiled).mp bound), bound.name_eq]
    exact (validateBinding_eq_ok_iff_of_bound bound).mpr h

/-- The guard of a type of a compiled module accepts the documents that the type describes. -/
theorem accepts_eq_true_iff_satisfies (compiled : bindingsOf naming declarations = .ok m.bindings)
    {document : Json} :
    m.accepts name document = .ok true ↔
      ∃ type, DeclaredAs declarations name type ∧ Satisfies declarations type document := by
  rw [accepts_eq_true_iff_exists compiled]
  constructor
  · rintro ⟨b, bound, h⟩
    obtain ⟨type, declared, s, hs, rfl⟩ := declaredAs_of_bound compiled bound
    exact ⟨type, declared, (Check.accepts_iff_satisfies compiled hs).mp h⟩
  · rintro ⟨type, declared, h⟩
    obtain ⟨b, bound, s, hs, rfl⟩ := bound_of_declaredAs compiled declared
    exact ⟨_, bound, (Check.accepts_iff_satisfies compiled hs).mpr h⟩

/-- Declarations that have schemas compile together, whatever the suffix of the generated
names, and the guard of a name answers `true` exactly on the documents that the type declared
last under the name describes. -/
theorem accepts_iff_describes (naming : Naming) (label : String)
    (declarations : List Declaration)
    (lowered : ∀ d ∈ declarations, ∃ made, d.binding? naming = .ok made) :
    ∃ m, ofDeclarations naming label declarations = .ok m ∧
      ∀ name document, m.accepts name document = .ok true ↔
        ∃ type, DeclaredAs declarations name type ∧ Satisfies declarations type document := by
  obtain ⟨bindings, compiled⟩ := exists_bindingsOf lowered
  refine ⟨⟨SchemaGuards.importPath label, bindings⟩, by rw [ofDeclarations, compiled]; rfl, ?_⟩
  exact fun name document => accepts_eq_true_iff_satisfies compiled

/-- The rest of a list of nodes. -/
def nodeRest : TypeExpr := .union [.reference ⟨["Node"]⟩ [], .keyword .null]

/-- The properties of a list of nodes: tags may be left out, and so may the rest. -/
def nodeMembers : List Member :=
  [.property (.identifier "value") false (some (.keyword .number)),
    .property (.identifier "next") false (some nodeRest),
    .property (.identifier "tags") true (some (.array (.keyword .string)))]

/-- A name that is declared again as a list of nodes. -/
def nodes : List Declaration :=
  [.typeAlias "Node" [] (.keyword .string), .interface "Node" [] [] nodeMembers]

theorem accepts_iff_describes_nodes :
    (∀ d ∈ nodes, ∃ made, d.binding? ⟨"Schema"⟩ = .ok made) ∧
    ∃ m, ofDeclarations ⟨"Schema"⟩ "nodes.ts" nodes = .ok m ∧
      m.accepts "Node" (.object [("value", .number "1"),
        ("next", .object [("value", .text "2"), ("tags", .list [.text "b"])])]) =
          .ok true := by
  have lowered : ∀ d ∈ nodes, ∃ made, d.binding? ⟨"Schema"⟩ = .ok made := by
    simp only [nodes, List.forall_mem_cons]
    exact ⟨⟨_, rfl⟩, ⟨_, rfl⟩, nofun⟩
  have declared : DeclaredAs nodes "Node" (.object nodeMembers) :=
    ⟨[("Node", .keyword .string)], [], rfl, rfl, nofun⟩
  have kept : Member.kept nodeMembers = [⟨"value", false, .keyword .number⟩,
      ⟨"next", false, nodeRest⟩, ⟨"tags", true, .array (.keyword .string)⟩] := rfl
  have rest : Property.MayBeMissing ⟨"next", false, nodeRest⟩ := .inr ⟨_, _, rfl, .second⟩
  have tags : Property.MayBeMissing ⟨"tags", true, .array (.keyword .string)⟩ := .inl rfl
  have second : Satisfies nodes (.object nodeMembers)
      (.object [("value", .text "2"), ("tags", .list [.text "b"])]) := by
    have hvalue : Satisfies nodes (.keyword .number) (.text "2") :=
      .keyword (p := .number) rfl (by decide)
    have htag : Satisfies nodes (.keyword .string) (.text "b") :=
      .keyword (p := .string) rfl (by decide)
    have htags : Satisfies nodes (.array (.keyword .string)) (.list [.text "b"]) :=
      .array (by simpa using htag)
    refine .object ?_ ?_ ?_
    · simp [kept]
    · simpa [kept, Json.lookup?] using ⟨hvalue, htags⟩
    · simpa [kept, Json.lookup?] using rest
  have first : Satisfies nodes (.object nodeMembers) (.object [("value", .number "1"),
      ("next", .object [("value", .text "2"), ("tags", .list [.text "b"])])]) := by
    have hvalue : Satisfies nodes (.keyword .number) (.number "1") :=
      .keyword (p := .number) rfl rfl
    have hnext := Satisfies.orNull .second (.reference declared second)
    refine .object ?_ ?_ ?_
    · simp [kept]
    · simpa [kept, Json.lookup?] using ⟨hvalue, hnext⟩
    · simpa [kept, Json.lookup?] using tags
  obtain ⟨m, hm, agree⟩ := accepts_iff_describes ⟨"Schema"⟩ "nodes.ts" nodes lowered
  exact ⟨lowered, m, hm, (agree _ _).mpr ⟨_, declared, first⟩⟩

end Module

end SchemaGuards
