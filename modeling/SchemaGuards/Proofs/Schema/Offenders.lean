import SchemaGuards.Proofs.Schema.Induction

/-!
# Types without a schema

The parts of a type expression that have no schema of their own, in source order. Lowering stops
at the first of them: it succeeds exactly where there is none, and its refusal tells the first.
-/

namespace SchemaGuards

namespace TypeExpr

/-- A list of types is a choice when all of them are string literals. -/
def isChoice : List TypeExpr → Bool
  | [] => true
  | literal (.string _) :: others => isChoice others
  | _ => false

/-- A union that is no type-or-null offends unless it is a choice of string literals. -/
def unlessChoice (types : List TypeExpr) : List TypeExpr :=
  if isChoice types then [] else [union types]

mutual

/-- The parts of a type expression that have no schema of their own, in source order. Of a type
and `null` only the type is looked into; any other union is judged as a whole. -/
def offenders : TypeExpr → List TypeExpr
  | keyword .unknown => [keyword .unknown]
  | keyword .bigint => [keyword .bigint]
  | keyword _ => []
  | literal l => [literal l]
  | union [keyword .null, type] => offenders type
  | union [type, keyword .null] => offenders type
  | union types => unlessChoice types
  | array item => offenders item
  | object members => memberOffenders members
  | reference name arguments =>
    if arguments.isEmpty && name.parts.length == 1 then [] else [reference name arguments]
  | other kind source => [other kind source]

/-- The offenders in the types of the properties with a plain name. No other member is looked
at. -/
def memberOffenders : List Member → List TypeExpr
  | [] => []
  | .property (.identifier _) _ (some type) :: rest => offenders type ++ memberOffenders rest
  | _ :: rest => memberOffenders rest

end

/-- What a refusal calls a type expression. -/
def construct : TypeExpr → String
  | reference _ arguments =>
    if arguments.isEmpty then "qualified type reference" else "generic type reference"
  | e => e.kind

/-- How a refusal ends after a type expression: for a union it tells which ones have schemas. -/
def remark : TypeExpr → String
  | union _ => "` (only `T | null` and unions of string literals are supported)"
  | _ => "`"

theorem text_keyword (k : Keyword) : (keyword k).text = k.word := by
  rw [text, chars, String.ofList_toList]

theorem text_reference (name : EntityName) : (reference name []).text = name.text := by
  rw [text, chars]
  simp

/-- A refusal of a type expression quotes it, after the name of its construct. -/
theorem message_type (e : TypeExpr) :
    (Unsupported.type e).message = e.construct ++ " `" ++ e.text ++ e.remark := by
  cases e with
  | keyword k =>
    rw [text_keyword]
    rfl
  | literal l => rfl
  | union types =>
      have joined : "union `" ++ (union types).text ++
            "` (only `T | null` and unions of string literals " ++ "are supported)" =
          "union `" ++ (union types).text ++
            ("` (only `T | null` and unions of string literals " ++ "are supported)") :=
        String.append_assoc
      exact joined
  | array item => rfl
  | object members => rfl
  | other kind source => rfl
  | reference name arguments =>
      cases arguments with
      | nil =>
        rw [text_reference]
        rfl
      | cons first others => rfl

/-- How offenders decide a lowering: without any it succeeds, and else the first is refused. -/
inductive Decided {α : Type} : List TypeExpr → Except Unsupported α → Prop
  | supported (a : α) : Decided [] (.ok a)
  | refused (first : TypeExpr) (others : List TypeExpr) :
      Decided (first :: others) (.error (.type first))

section Decided

variable {α β : Type} {found later : List TypeExpr} {x : Except Unsupported α}

theorem Decided.map (h : Decided found x) (f : α → β) : Decided found (x.map f) := by
  cases h with
  | supported a => exact .supported (f a)
  | refused first others => exact .refused first others

/-- Steps in a row are decided by the offenders of the first step and then those of the next. -/
theorem Decided.bind {f : α → Except Unsupported β} (h : Decided found x)
    (next : ∀ a, x = .ok a → Decided later (f a)) : Decided (found ++ later) (x >>= f) := by
  cases h with
  | supported a => exact next a rfl
  | refused first others => exact .refused first (others ++ later)

/-- A traversal is decided by the offenders of its steps, in order. -/
theorem Decided.mapM {items : List β} {offending : β → List TypeExpr}
    {f : β → Except Unsupported α} (h : ∀ b ∈ items, Decided (offending b) (f b)) :
    Decided (items.flatMap offending) (items.mapM f) := by
  induction items with
  | nil => exact .supported []
  | cons b rest ih =>
      obtain ⟨hb, hrest⟩ := List.forall_mem_cons.mp h
      rw [List.flatMap_cons, List.mapM_cons]
      refine hb.bind fun a _ => ?_
      have others := (ih hrest).bind (f := fun others => pure (a :: others))
        fun others _ => .supported _
      rwa [List.append_nil] at others

theorem Decided.exists_ok_iff (h : Decided found x) : (∃ a, x = .ok a) ↔ found = [] := by
  cases h with
  | supported a => exact ⟨fun _ => rfl, fun _ => ⟨a, rfl⟩⟩
  | refused first others => exact ⟨nofun, nofun⟩

theorem Decided.eq_error {first : TypeExpr} {others : List TypeExpr}
    (h : Decided (first :: others) x) : x = .error (.type first) := by
  cases h with
  | refused => rfl

end Decided

section Unions

variable {types : List TypeExpr} {other : TypeExpr}

/-- The offenders of a type and `null` are those of the type. -/
theorem offenders_of_orNull (shape : OrNull types other) :
    (union types).offenders = other.offenders := by
  cases shape with
  | first => rw [offenders]
  | second =>
      by_cases h : other = keyword .null
      · rw [h]
        rfl
      · rw [offenders]
        exact h

theorem offenders_of_not_orNull (shape : ∀ other, ¬ OrNull types other) :
    (union types).offenders = unlessChoice types := by
  rw [offenders]
  · rintro other rfl
    exact shape other .first
  · rintro other rfl
    exact shape other .second

theorem isChoice_eq_all (types : List TypeExpr) :
    isChoice types = types.all fun t => t.stringLiteral?.isSome := by
  induction types with
  | nil => rfl
  | cons t others ih =>
      rw [List.all_cons, ← ih]
      cases t with
      | literal l => cases l <;> rfl
      | _ => rfl

theorem isChoice_iff : isChoice types = true ↔ ∀ t ∈ types, ∃ s, t = literal (.string s) := by
  simp only [isChoice_eq_all, List.all_eq_true, Option.isSome_iff_exists,
    stringLiteral?_eq_some_iff]

/-- The values of a list of types are found exactly where it is a choice. -/
theorem isSome_stringLiterals? (types : List TypeExpr) :
    (stringLiterals? types).isSome = isChoice types := by
  rw [isChoice_eq_all]
  induction types with
  | nil => rfl
  | cons t rest ih =>
      simp only [stringLiterals?] at ih
      rw [stringLiterals?, List.mapM_cons, List.all_cons, ← ih]
      cases t.stringLiteral? with
      | none => rfl
      | some s => cases rest.mapM stringLiteral? <;> rfl

theorem unlessChoice_eq_nil_iff :
    unlessChoice types = [] ↔
      ∃ values : List String, types = values.map fun s => literal (.string s) := by
  rw [unlessChoice, ← isSome_stringLiterals?]
  constructor
  · intro h
    cases hvalues : stringLiterals? types with
    | none => simp [hvalues] at h
    | some values => exact ⟨values, eq_map_of_stringLiterals? hvalues⟩
  · rintro ⟨values, rfl⟩
    rw [stringLiterals?_map]
    rfl

/-- Any other union is supported as a choice of strings, and else refused as a whole. -/
theorem decided_choice (required : Bool) (types : List TypeExpr) :
    Decided (unlessChoice types) (choice required types) := by
  rw [unlessChoice, ← isSome_stringLiterals?, choice]
  cases stringLiterals? types with
  | none => exact .refused (union types) []
  | some values => exact .supported _

end Unions

/-- A dropped member does not offend. -/
theorem memberOffenders_cons_of_kept?_eq_none {m : Member} (h : m.kept? = none)
    (rest : List Member) : memberOffenders (m :: rest) = memberOffenders rest := by
  cases m with
  | property name optional type =>
      cases name with
      | identifier name =>
          cases type with
          | none => rfl
          | some type => cases h
      | string value | number text | computed => rfl
  | method name | indexSignature | callSignature | constructSignature => rfl

/-- The offenders of members are those of the kept properties' types, in source order. -/
theorem memberOffenders_eq_flatMap (members : List Member) :
    memberOffenders members = (Member.kept members).flatMap fun p => p.type.offenders := by
  induction members with
  | nil => rfl
  | cons m rest ih =>
      cases hm : m.kept? with
      | none =>
          rw [Member.kept, List.filterMap_cons_none hm, ← Member.kept, ← ih]
          exact memberOffenders_cons_of_kept?_eq_none hm rest
      | some p =>
          rw [Member.kept, List.filterMap_cons_some hm, ← Member.kept, List.flatMap_cons, ← ih]
          obtain rfl := Member.kept?_eq_some_iff.mp hm
          rw [memberOffenders]

/-- The fields of members are decided as the schemas of the kept properties are, in order. -/
theorem decided_fields {naming : Naming} {members : List Member}
    (h : ∀ p ∈ Member.kept members, ∀ required,
      Decided p.type.offenders (p.type.schema naming required)) :
    Decided (memberOffenders members) (fields naming members) := by
  rw [memberOffenders_eq_flatMap, fields_eq_mapM]
  exact Decided.mapM fun p hp => (h p hp (!p.optional)).map _

/-- Whatever flag and names are asked for, the schema of a type is decided by its offenders. -/
theorem decided_schema (naming : Naming) (e : TypeExpr) (required : Bool) :
    Decided e.offenders (e.schema naming required) := by
  induction e using TypeExpr.induction generalizing required with
  | keyword k =>
      cases k <;> first | exact .supported _ | exact .refused _ _
  | literal l => exact .refused _ _
  | other kind source => exact .refused _ _
  | union types ih =>
      by_cases shape : ∃ other, OrNull types other
      · obtain ⟨other, shape⟩ := shape
        rw [offenders_of_orNull shape, schema_of_orNull shape]
        exact (ih other shape.mem false).map _
      · rw [offenders_of_not_orNull (not_exists.mp shape),
          schema_of_not_orNull (not_exists.mp shape)]
        exact decided_choice required types
  | array item ih =>
      rw [offenders, schema]
      exact (ih false).map _
  | object members ih =>
      rw [offenders, schema]
      exact (decided_fields ih).map _
  | reference name arguments =>
      rw [offenders, schema]
      obtain ⟨parts⟩ := name
      cases arguments with
      | cons first others => exact .refused _ []
      | nil =>
          rcases parts with _ | ⟨single, _ | ⟨second, more⟩⟩
          · exact .refused _ []
          · exact .supported _
          · exact .refused _ []

/-- A lowering succeeds exactly where there are no offenders, and else it is refused for the first
of them, which the wording of the refusal quotes. -/
structure BlamesFirst {α : Type} (found : List TypeExpr) (x : Except Unsupported α) : Prop where
  succeeds : (∃ a, x = .ok a) ↔ found = []
  fails : ∀ first others, found = first :: others → x = .error (.type first) ∧
    (Unsupported.type first).message =
      first.construct ++ " `" ++ first.text ++ first.remark

theorem Decided.blamesFirst {α : Type} {found : List TypeExpr} {x : Except Unsupported α}
    (h : Decided found x) : BlamesFirst found x := by
  refine ⟨h.exists_ok_iff, ?_⟩
  rintro first others rfl
  exact ⟨h.eq_error, message_type first⟩

/-- Types and members have schemas exactly when none of their parts offends, whatever the flag and
the suffix, and else the first offender in source order is what the refusal tells. -/
theorem lowering_blames_first_offender (naming : Naming) :
    (∀ (e : TypeExpr) (required : Bool), BlamesFirst e.offenders (e.schema naming required)) ∧
      ∀ members : List Member, BlamesFirst (memberOffenders members) (fields naming members) := by
  refine ⟨fun e required => (decided_schema naming e required).blamesFirst, fun members => ?_⟩
  have decided : Decided (memberOffenders members) (fields naming members) :=
    decided_fields fun p _ => decided_schema naming p.type
  exact decided.blamesFirst

example : (object [.property (.string "a") false (some (keyword .unknown)),
      .property (.identifier "b") true
        (some (union [keyword .null, literal (.string "c")]))]).offenders =
    [literal (.string "c")] := rfl

end TypeExpr

end SchemaGuards
