import SchemaGuards.Module.Emit
import SchemaGuards.Proofs.Module.Compile
import Mathlib.Data.List.Nodup

/-!
# Names at the top level of generated modules

A generated module imports two names, and it exports a constant and a guard for each binding. The
names of constants and guards are put together from declared names, so that they may meet each
other and the imports. A module in which two of its names are the same does not load.
-/

namespace SchemaGuards

namespace Module

/-- A statement at the top level of a generated module. -/
inductive Statement where
  /-- All exports of another module under one name. -/
  | imported (name path : String)
  | constant (name : String) (schema : Schema)
  /-- A guard of a type that asks a constant. -/
  | guard (name typeName asked : String)

namespace Statement

/-- The name that a statement declares. -/
def name : Statement → String
  | imported name _ => name
  | constant name _ => name
  | guard name _ _ => name

/-- The lines of a statement, with the blank line before an export. -/
def chars : Statement → List Char
  | imported name path =>
    "import * as ".toList ++ name.toList ++ " from ".toList ++ Json.quotedChars path.toList ++
      ['\n']
  | constant name schema =>
    "\nexport const ".toList ++ name.toList ++ " = ".toList ++ schema.render 0 ++ ['\n']
  | guard name typeName asked =>
    "\nexport function ".toList ++ name.toList ++ "(obj: any): obj is types.".toList ++
      typeName.toList ++ " \x7b\n  return ".toList ++ asked.toList ++
      ".validate(obj).error === undefined\n\x7d\n".toList

end Statement

/-- The statements of a generated module, in the order of its text. -/
def statements (m : Module) : List Statement :=
  .imported "Joi" schemaLibrary :: .imported "types" m.importPath ::
    m.bindings.flatMap fun b => [.constant b.name b.schema, .guard b.guard b.typeName b.name]

theorem headerChars_eq (path : String) :
    headerChars path = headerComment.toList ++ '\n' ::
      ((Statement.imported "Joi" schemaLibrary).chars ++
        (Statement.imported "types" path).chars) := by
  change headerComment.toList ++ "\nimport * as Joi from ".toList ++
    Json.quotedChars schemaLibrary.toList ++ "\nimport * as types from ".toList ++
    Json.quotedChars path.toList ++ ['\n'] = headerComment.toList ++ '\n' ::
      (("import * as ".toList ++ "Joi".toList ++ " from ".toList ++
        Json.quotedChars schemaLibrary.toList ++ ['\n']) ++
        ("import * as ".toList ++ "types".toList ++ " from ".toList ++
          Json.quotedChars path.toList ++ ['\n']))
  have joi : "\nimport * as Joi from ".toList =
      '\n' :: ("import * as ".toList ++ "Joi".toList ++ " from ".toList) := rfl
  have types : "\nimport * as types from ".toList =
      '\n' :: ("import * as ".toList ++ "types".toList ++ " from ".toList) := rfl
  rw [joi, types]
  simp only [List.append_assoc, List.cons_append, List.nil_append]

theorem bindingChars_eq_chars (b : Binding) :
    bindingChars b = (Statement.constant b.name b.schema).chars ++
      (Statement.guard b.guard b.typeName b.name).chars := by
  change "\nexport const ".toList ++ b.name.toList ++ " = ".toList ++ b.schema.render 0 ++
      "\n\nexport function ".toList ++ b.guard.toList ++ "(obj: any): obj is types.".toList ++
      b.typeName.toList ++ " \x7b\n  return ".toList ++ b.name.toList ++
      ".validate(obj).error === undefined\n\x7d\n".toList =
    ("\nexport const ".toList ++ b.name.toList ++ " = ".toList ++ b.schema.render 0 ++ ['\n']) ++
      ("\nexport function ".toList ++ b.guard.toList ++ "(obj: any): obj is types.".toList ++
        b.typeName.toList ++ " \x7b\n  return ".toList ++ b.name.toList ++
        ".validate(obj).error === undefined\n\x7d\n".toList)
  have gap : "\n\nexport function ".toList = ['\n'] ++ "\nexport function ".toList := rfl
  rw [gap]
  simp only [List.append_assoc]

/-- The text of a module is its first line and its statements. -/
theorem emit_eq_statements (m : Module) :
    m.emit = headerComment.toList ++ '\n' :: m.statements.flatMap Statement.chars := by
  have body : m.bindings.flatMap bindingChars =
      (m.bindings.flatMap fun b => [Statement.constant b.name b.schema,
        .guard b.guard b.typeName b.name]).flatMap Statement.chars := by
    rw [List.flatMap_assoc]
    congr 1
    funext b
    simp [bindingChars_eq_chars]
  rw [emit, headerChars_eq, body, statements, List.flatMap_cons, List.flatMap_cons]
  simp only [List.append_assoc, List.cons_append]

end Module

namespace Naming

variable {naming : Naming} {names : List String} {x y : String}

/-- The names that are made of a declared name. -/
def generated (naming : Naming) (name : String) : List String :=
  [naming.binding name, naming.guard name]

/-- The guard of one name is the constant of another that is `is` and the one name. -/
theorem guard_eq_binding_iff : naming.guard y = naming.binding x ↔ x = "is" ++ y := by
  rw [guard, binding, String.append_left_inj, eq_comm]

theorem ne_is_append (x : String) : x ≠ "is" ++ x := by
  intro h
  have hlength := congrArg String.length h
  rw [String.length_append] at hlength
  have his : "is".length = 2 := rfl
  omega

theorem nodup_generated (naming : Naming) (x : String) : (naming.generated x).Nodup := by
  have apart : naming.binding x ≠ naming.guard x := by
    intro h
    exact ne_is_append x (guard_eq_binding_iff.mp h.symm)
  simpa [generated] using apart

theorem disjoint_generated_iff :
    List.Disjoint (naming.generated x) (naming.generated y) ↔
      x ≠ y ∧ x ≠ "is" ++ y ∧ y ≠ "is" ++ x := by
  have bindings : naming.binding x = naming.binding y ↔ x = y := String.append_left_inj _
  have guards : naming.guard x = naming.guard y ↔ x = y := by
    rw [guard, guard, String.append_left_inj, String.append_right_inj]
  have meets : naming.binding x = naming.guard y ↔ x = "is" ++ y := by
    rw [eq_comm, guard_eq_binding_iff]
  simp only [generated, List.disjoint_cons_left, List.disjoint_nil_left, List.mem_cons,
    List.not_mem_nil, or_false, not_or, bindings, guards, meets, guard_eq_binding_iff]
  tauto

/-- A guard has no name that is imported. -/
theorem guard_ne {imported : String} (h : imported.toList.head? ≠ some 'i') (x : String) :
    naming.guard x ≠ imported := by
  rintro rfl
  apply h
  rw [guard, String.append_assoc, String.toList_append]
  rfl

theorem mem_flatMap_generated_iff {imported : String} (h : imported.toList.head? ≠ some 'i') :
    imported ∈ names.flatMap naming.generated ↔ ∃ x ∈ names, x ++ naming.suffix = imported := by
  rw [List.mem_flatMap]
  have made x : imported ∈ naming.generated x ↔ x ++ naming.suffix = imported := by
    have hguard : naming.guard x ≠ imported := guard_ne h x
    simp [generated, binding, hguard.symm, eq_comm]
  simp only [made]

/-- The generated names are distinct exactly when the declared names are and none of these is `is`
and another one. -/
theorem nodup_flatMap_generated_iff :
    (names.flatMap naming.generated).Nodup ↔
      names.Nodup ∧ ∀ x ∈ names, ∀ y ∈ names, x ≠ "is" ++ y := by
  have apart : names.Pairwise (fun x y => (naming.generated x).Disjoint (naming.generated y)) ↔
      names.Pairwise fun x y => x ≠ y ∧ x ≠ "is" ++ y ∧ y ≠ "is" ++ x :=
    List.Pairwise.iff fun _ _ => disjoint_generated_iff
  rw [List.nodup_flatMap, and_iff_right fun x _ => nodup_generated naming x]
  apply apart.trans
  rw [List.pairwise_and_iff, List.pairwise_and_iff]
  constructor
  · rintro ⟨distinct, forward, backward⟩
    exact ⟨distinct, forward.forall_of_forall_of_flip (fun x _ => ne_is_append x) backward⟩
  · rintro ⟨distinct, unguarded⟩
    have forward := List.pairwise_of_forall_mem_list unguarded
    have backward := List.pairwise_of_forall_mem_list fun x hx y hy => unguarded y hy x hx
    exact ⟨distinct, forward, backward⟩

/-- With the imports, the generated names are distinct exactly when they are among themselves and no
declared name becomes that of an import with the suffix. Guards never do. -/
theorem nodup_imports_iff (naming : Naming) (names : List String) :
    ("Joi" :: "types" :: names.flatMap naming.generated).Nodup ↔
      names.Nodup ∧ (∀ x ∈ names, ∀ y ∈ names, x ≠ "is" ++ y) ∧
      ∀ x ∈ names, x ++ naming.suffix ≠ "Joi" ∧ x ++ naming.suffix ≠ "types" := by
  rw [List.nodup_cons, List.nodup_cons, List.mem_cons,
    mem_flatMap_generated_iff (by decide), mem_flatMap_generated_iff (by decide),
    nodup_flatMap_generated_iff]
  constructor
  · rintro ⟨noJoi, noTypes, distinct, unguarded⟩
    refine ⟨distinct, unguarded, ?_⟩
    intro x hx
    constructor
    · exact fun h => noJoi (Or.inr ⟨x, hx, h⟩)
    · exact fun h => noTypes ⟨x, hx, h⟩
  · rintro ⟨distinct, unguarded, free⟩
    refine ⟨?_, ?_, distinct, unguarded⟩
    · rintro (h | ⟨x, hx, h⟩)
      · exact absurd h (by decide)
      · exact (free x hx).1 h
    · rintro ⟨x, hx, h⟩
      exact (free x hx).2 h

end Naming

/-- The names of the interfaces and aliases of a list of declarations, in order. -/
def Declaration.declaredNames (declarations : List Declaration) : List String :=
  (declarations.filterMap declared?).map Prod.fst

namespace Module

open Declaration (declaredNames MakesBinding)

variable {naming : Naming} {label : String} {declarations : List Declaration} {m : Module}

theorem flatMap_names_of_forall₂ {declared : List (String × TypeExpr)} {bindings : List Binding}
    (made : List.Forall₂ (MakesBinding naming) declared bindings) :
    bindings.flatMap (fun b => [b.name, b.guard]) =
      (declared.map Prod.fst).flatMap naming.generated := by
  induction made with
  | nil => rfl
  | cons h _ ih =>
      obtain ⟨schema, -, rfl⟩ := h
      rw [List.flatMap_cons, ih]
      rfl

theorem map_name_statements (m : Module) :
    m.statements.map Statement.name =
      "Joi" :: "types" :: m.bindings.flatMap fun b => [b.name, b.guard] := by
  rw [statements, List.map_cons, List.map_cons, List.map_flatMap]
  rfl

/-- The text of a compiled module is its first line and its statements, and these declare different
names exactly when the source does not make them clash: its declared names are distinct, none of
them is `is` and another one, and none of them becomes the name of an import with the suffix. -/
theorem names_nodup_iff (compiled : ofDeclarations naming label declarations = .ok m) :
    m.emit = headerComment.toList ++ '\n' :: m.statements.flatMap Statement.chars ∧
    ((m.statements.map Statement.name).Nodup ↔
      (declaredNames declarations).Nodup ∧
      (∀ x ∈ declaredNames declarations, ∀ y ∈ declaredNames declarations, x ≠ "is" ++ y) ∧
      ∀ x ∈ declaredNames declarations,
        x ++ naming.suffix ≠ "Joi" ∧ x ++ naming.suffix ≠ "types") := by
  have made := forall₂_of_bindingsOf (bindingsOf_of_ofDeclarations compiled)
  constructor
  · exact emit_eq_statements m
  · rw [map_name_statements, flatMap_names_of_forall₂ made]
    exact Naming.nodup_imports_iff naming (declaredNames declarations)

/-- A type and another one with a name like that of its guard. -/
def lookalikes : List Declaration :=
  [.typeAlias "User" [] (.keyword .string), .other "import" 2,
    .typeAlias "isUser" [] (.keyword .null)]

/-- Two declared names that meet in a guard, and the first one alone. -/
theorem names_nodup_iff_lookalikes :
    (∃ m, ofDeclarations ⟨"V"⟩ "a.ts" lookalikes = .ok m ∧
      m.statements.map Statement.name =
        ["Joi", "types", "UserV", "isUserV", "isUserV", "isisUserV"] ∧
      ¬ (m.statements.map Statement.name).Nodup) ∧
    ∃ m, ofDeclarations ⟨"V"⟩ "a.ts" (lookalikes.take 2) = .ok m ∧
      (m.statements.map Statement.name).Nodup := by
  constructor
  · obtain ⟨m, compiled, names⟩ : ∃ m, ofDeclarations ⟨"V"⟩ "a.ts" lookalikes = .ok m ∧
        m.statements.map Statement.name =
          ["Joi", "types", "UserV", "isUserV", "isUserV", "isisUserV"] :=
      ⟨_, rfl, by decide +kernel⟩
    refine ⟨m, compiled, names, ?_⟩
    rw [(names_nodup_iff compiled).2]
    decide
  · obtain ⟨m, compiled⟩ : ∃ m, ofDeclarations ⟨"V"⟩ "a.ts" (lookalikes.take 2) = .ok m := ⟨_, rfl⟩
    refine ⟨m, compiled, ?_⟩
    rw [(names_nodup_iff compiled).2]
    decide

end Module

end SchemaGuards
