import SchemaGuards.Proofs.Result
import SchemaGuards.Schema.Lowering
import Mathlib.Data.List.Forall2

/-!
# The steps of lowering

Which type expressions have a schema, told step by step: one rule for each supported shape,
whose premises speak of the parts. Only properties with a plain name and a type are looked
at in a list of members; all other members are dropped.
-/

namespace SchemaGuards

/-- A keyword stands for the primitive that has the same word as its name. -/
theorem Keyword.primitive?_eq_some_iff {k : Keyword} {p : Primitive} :
    k.primitive? = some p ↔ p.word = k.word := by
  have each : ∀ k ∈ Keyword.all, ∀ p ∈ Primitive.all,
      (k.primitive? = some p ↔ p.word = k.word) := by decide
  exact each k k.mem_all p p.mem_all

/-- A property that makes a field of a schema. -/
structure Property where
  name : String
  optional : Bool
  type : TypeExpr

namespace Member

/-- The property that a member is, if it has a plain name and a type. -/
def kept? : Member → Option Property
  | property (.identifier name) optional (some type) => some ⟨name, optional, type⟩
  | _ => none

theorem kept?_eq_some_iff {m : Member} {p : Property} :
    m.kept? = some p ↔ m = property (.identifier p.name) p.optional (some p.type) := by
  cases m with
  | property name optional type => cases name <;> cases type <;> cases p <;> simp [kept?]
  | _ => simp [kept?]

/-- The properties that are kept of a list of members, in order. -/
def kept (members : List Member) : List Property := members.filterMap kept?

end Member

namespace TypeExpr

/-- A list of two types is a type and `null`, in either order. -/
inductive OrNull : List TypeExpr → TypeExpr → Prop
  | first {other} : OrNull [keyword .null, other] other
  | second {other} : OrNull [other, keyword .null] other

theorem OrNull.mem {types : List TypeExpr} {other : TypeExpr} (shape : OrNull types other) :
    other ∈ types := by
  cases shape with
  | first => exact .tail _ (.head _)
  | second => exact .head _

/-- Types that keep `null` where it stands keep a type and `null`. -/
theorem OrNull.exists_of_forall₂ {r : TypeExpr → TypeExpr → Prop}
    (keeps : ∀ t t', r t t' → t = keyword .null → t' = keyword .null)
    {types types' : List TypeExpr} {other : TypeExpr} (each : List.Forall₂ r types types')
    (shape : OrNull types other) : ∃ other', OrNull types' other' ∧ r other other' := by
  cases shape with
  | first =>
      obtain ⟨first, rest, hfirst, hrest, rfl⟩ := List.forall₂_cons_left_iff.mp each
      obtain ⟨second, rest, hsecond, hnil, rfl⟩ := List.forall₂_cons_left_iff.mp hrest
      obtain rfl := List.forall₂_nil_left_iff.mp hnil
      obtain rfl := keeps _ _ hfirst rfl
      exact ⟨second, .first, hsecond⟩
  | second =>
      obtain ⟨first, rest, hfirst, hrest, rfl⟩ := List.forall₂_cons_left_iff.mp each
      obtain ⟨second, rest, hsecond, hnil, rfl⟩ := List.forall₂_cons_left_iff.mp hrest
      obtain rfl := List.forall₂_nil_left_iff.mp hnil
      obtain rfl := keeps _ _ hsecond rfl
      exact ⟨first, .second, hfirst⟩

/-- The rules for the schema of a type expression. -/
inductive Lowers (naming : Naming) (required : Bool) : TypeExpr → Schema → Prop
  | keyword {k p} (named : p.word = k.word) :
      Lowers naming required (keyword k) (.primitive p required)
  | orNull {types other inner} (shape : OrNull types other)
      (lowered : other.schema naming false = .ok inner) :
      Lowers naming required (union types) (.nullable inner)
  | choice (values : List String) :
      Lowers naming required (union (values.map fun s => literal (.string s)))
        (.enumeration values required)
  | array {item s} (lowered : item.schema naming false = .ok s) :
      Lowers naming required (array item) (.array s required)
  | object {members fs} (lowered : fields naming members = .ok fs) :
      Lowers naming required (object members) (.object fs required)
  | reference (name : String) :
      Lowers naming required (reference ⟨[name]⟩ []) (.reference (naming.binding name) required)

variable {naming : Naming} {required : Bool} {e : TypeExpr} {s : Schema}

theorem stringLiterals?_map (values : List String) :
    stringLiterals? (values.map fun s => literal (.string s)) = some values := by
  induction values with
  | nil => rfl
  | cons s rest ih =>
      simp only [stringLiterals?] at ih
      simp [stringLiterals?, stringLiteral?, ih]

theorem eq_map_of_stringLiterals? {types : List TypeExpr} {values : List String}
    (h : stringLiterals? types = some values) :
    types = values.map fun s => literal (.string s) := by
  induction types generalizing values with
  | nil => simp_all [stringLiterals?]
  | cons t rest ih =>
      simp only [stringLiterals?, List.mapM_cons, Option.pure_def, Option.bind_eq_bind,
        Option.bind_eq_some_iff, Option.some.injEq] at h
      obtain ⟨s, hs, others, hothers, rfl⟩ := h
      rw [List.map_cons, ← ih hothers, stringLiteral?_eq_some_iff.mp hs]

/-- A choice of string literals is no type-or-null. -/
theorem not_orNull_map (values : List String) (other : TypeExpr) :
    ¬ OrNull (values.map fun s => literal (.string s)) other := by
  intro shape
  generalize ht : values.map (fun s => literal (.string s)) = types at shape
  cases shape with
  | first =>
      have hnull : keyword .null ∈ values.map fun s => literal (.string s) := ht ▸ .head _
      simp at hnull
  | second =>
      have hnull : keyword .null ∈ values.map fun s => literal (.string s) :=
        ht ▸ .tail _ (.head _)
      simp at hnull

/-- The schema of a type and `null` is that of the type, not required, made nullable. -/
theorem schema_of_orNull {types : List TypeExpr} {other : TypeExpr} (shape : OrNull types other) :
    (union types).schema naming required = (other.schema naming false).map .nullable := by
  cases shape with
  | first => rw [schema, if_pos (isNull_iff.mpr rfl)]
  | second =>
      rw [schema]
      by_cases h : other.isNull = true
      · rw [if_pos h, isNull_iff.mp h]
      · rw [if_neg h, if_pos (isNull_iff.mpr rfl)]

theorem exists_of_orNull {types : List TypeExpr} {other : TypeExpr} (shape : OrNull types other)
    (h : (union types).schema naming required = .ok s) :
    ∃ inner, other.schema naming false = .ok inner ∧ s = .nullable inner := by
  rw [schema_of_orNull shape, Result.map_eq_ok_iff] at h
  obtain ⟨inner, lowered, hs⟩ := h
  exact ⟨inner, lowered, hs.symm⟩

/-- Any other union is tried as a choice. -/
theorem schema_of_not_orNull {types : List TypeExpr} (shape : ∀ other, ¬ OrNull types other) :
    (union types).schema naming required = choice required types := by
  rcases types with _ | ⟨first, _ | ⟨second, _ | ⟨third, rest⟩⟩⟩
  case cons.cons.nil =>
    have hfirst : ¬ first.isNull = true := fun h => shape second (isNull_iff.mp h ▸ .first)
    have hsecond : ¬ second.isNull = true := fun h => shape first (isNull_iff.mp h ▸ .second)
    rw [schema, if_neg hfirst, if_neg hsecond]
  all_goals
    rw [schema]
    nofun

/-- Unions of related types have related schemas, or both have none, where the relation keeps `null`
and string literals. -/
theorem union_together {r : TypeExpr → TypeExpr → Prop} {q : Schema → Schema → Prop}
    {types types' : List TypeExpr} {required' : Bool} (each : List.Forall₂ r types types')
    (null : ∀ t t', r t t' → (t' = keyword .null ↔ t = keyword .null))
    (text : ∀ t t', r t t' → t'.stringLiteral? = t.stringLiteral?)
    (inside : ∀ t ∈ types, ∀ t', r t t' →
      Result.Together q (t.schema naming false) (t'.schema naming false))
    (nullable : ∀ s s', q s s' → q (.nullable s) (.nullable s'))
    (listed : ∀ values, q (.enumeration values required) (.enumeration values required')) :
    Result.Together q ((union types).schema naming required)
      ((union types').schema naming required') := by
  by_cases shape : ∃ other, OrNull types other
  · obtain ⟨other, shape⟩ := shape
    obtain ⟨other', shape', h⟩ :=
      shape.exists_of_forall₂ (fun t t' h => (null t t' h).mpr) each
    rw [schema_of_orNull shape, schema_of_orNull shape']
    exact (inside other shape.mem other' h).map nullable
  · have shape' : ∀ other, ¬ OrNull types' other := by
      intro other' shape'
      obtain ⟨other, shape'', -⟩ :=
        shape'.exists_of_forall₂ (fun t' t h => (null t t' h).mp) each.flip
      exact shape ⟨other, shape''⟩
    have literals : stringLiterals? types' = stringLiterals? types := by
      clear shape shape' inside
      induction each with
      | nil => rfl
      | cons h _ ih =>
          simp only [stringLiterals?] at ih
          simp only [stringLiterals?, List.mapM_cons, text _ _ h, ih]
    rw [schema_of_not_orNull (not_exists.mp shape), schema_of_not_orNull shape', choice, choice,
      literals]
    cases stringLiterals? types with
    | none => exact .error
    | some values => exact .ok (listed values)

theorem eq_of_identifier? {name : EntityName} {identifier : String}
    (h : name.identifier? = some identifier) : name = ⟨[identifier]⟩ := by
  obtain ⟨parts⟩ := name
  unfold EntityName.identifier? at h
  split at h
  · next single hparts =>
    rw [show parts = [single] from hparts, Option.some.inj h]
  · cases h

/-- Lowering succeeds exactly by the rules. -/
theorem schema_eq_ok_iff : e.schema naming required = .ok s ↔ Lowers naming required e s := by
  constructor
  · intro h
    cases e with
    | keyword k =>
        simp only [schema] at h
        split at h
        · next p stands =>
          exact Except.ok.inj h ▸ .keyword (Keyword.primitive?_eq_some_iff.mp stands)
        · cases h
    | union types =>
        by_cases shape : ∃ other, OrNull types other
        · obtain ⟨other, shape⟩ := shape
          obtain ⟨inner, lowered, rfl⟩ := exists_of_orNull shape h
          exact .orNull shape lowered
        · rw [schema_of_not_orNull (not_exists.mp shape), choice] at h
          split at h
          · next values hvalues =>
            rw [eq_map_of_stringLiterals? hvalues, ← Except.ok.inj h]
            exact .choice values
          · cases h
    | array item =>
        rw [schema, Result.map_eq_ok_iff] at h
        obtain ⟨s, lowered, rfl⟩ := h
        exact .array lowered
    | object members =>
        rw [schema, Result.map_eq_ok_iff] at h
        obtain ⟨fs, lowered, rfl⟩ := h
        exact .object lowered
    | reference name arguments =>
        simp only [schema] at h
        split at h
        · next hargs =>
          split at h
          · next identifier hname =>
            rw [← Except.ok.inj h, List.isEmpty_iff.mp hargs, eq_of_identifier? hname]
            exact .reference identifier
          · cases h
        · cases h
    | literal l => cases h
    | other kind source => cases h
  · intro h
    cases h with
    | keyword named => rw [schema, Keyword.primitive?_eq_some_iff.mpr named]
    | orNull shape lowered => rw [schema_of_orNull shape, lowered]; rfl
    | choice values =>
        rw [schema_of_not_orNull (not_orNull_map values), choice, stringLiterals?_map]
    | array lowered => rw [schema, lowered]; rfl
    | object lowered => rw [schema, lowered]; rfl
    | reference name => rfl

/-- A dropped member adds nothing. -/
theorem fields_cons_of_kept?_eq_none {m : Member} (h : m.kept? = none) (rest : List Member) :
    fields naming (m :: rest) = fields naming rest := by
  cases m with
  | property name optional type =>
      cases name with
      | identifier name =>
          cases type with
          | none => rfl
          | some type => cases h
      | string value | number text | computed => rfl
  | method name | indexSignature | callSignature | constructSignature => rfl

/-- The fields of members are made of the kept properties, in order. -/
theorem fields_eq_mapM (members : List Member) :
    fields naming members = (Member.kept members).mapM fun p =>
      (p.type.schema naming (!p.optional)).map fun s => (p.name, s) := by
  induction members with
  | nil => rfl
  | cons m rest ih =>
      cases hm : m.kept? with
      | none =>
          rw [fields_cons_of_kept?_eq_none hm, ih, Member.kept, Member.kept,
            List.filterMap_cons_none hm]
      | some p =>
          rw [Member.kept, List.filterMap_cons_some hm, ← Member.kept, List.mapM_cons, ← ih]
          obtain rfl := Member.kept?_eq_some_iff.mp hm
          rw [fields]
          cases p.type.schema naming (!p.optional) <;> rfl

/-- The fields are those of the kept properties, one by one. -/
theorem fields_eq_ok_iff {members : List Member} {fs : List Schema.Field} :
    fields naming members = .ok fs ↔
      List.Forall₂ (fun p f => f.1 = p.name ∧ p.type.schema naming (!p.optional) = .ok f.2)
        (Member.kept members) fs := by
  have field (p : Property) (f : Schema.Field) :
      ((p.type.schema naming (!p.optional)).map fun s => (p.name, s)) = .ok f ↔
        f.1 = p.name ∧ p.type.schema naming (!p.optional) = .ok f.2 := by
    rw [Result.map_eq_ok_iff]
    constructor
    · rintro ⟨s, hs, rfl⟩
      exact ⟨rfl, hs⟩
    · rintro ⟨hname, hs⟩
      exact ⟨f.2, hs, hname ▸ rfl⟩
  rw [fields_eq_mapM, Result.mapM_eq_ok_iff]
  simp only [field]

end TypeExpr

end SchemaGuards
