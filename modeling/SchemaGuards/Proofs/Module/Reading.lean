import SchemaGuards.Module.Emit
import SchemaGuards.Proofs.Schema.Reading

/-!
# Reading generated modules back

The text of a module gives back the module: the import path, and of every binding its names
and its schema. All that it takes is that the names in the module are names.

## Implementation notes

The writer is unfolded by `change`, which leaves its long literals alone; rewriting by its
equations would evaluate them.
-/

namespace SchemaGuards

open Text Text.Reading

/-- The binding, its guard and its type have names, and so has all in its schema. -/
def Binding.named (b : Binding) : Bool :=
  isName b.name && isName b.guard && isName b.typeName && b.schema.named

namespace Module

/-- All bindings have names. -/
def named (m : Module) : Bool := m.bindings.all Binding.named

/-- The exported schema and guard of a binding, after the words that announce the schema. -/
def readBinding : Reading Binding := do
  let binding ← name
  exactly " = ".toList
  let schema ← fun cs => Schema.read cs.length 0 cs
  exactly "\n\nexport function ".toList
  let guard ← name
  exactly "(obj: any): obj is types.".toList
  let typeName ← name
  exactly " \x7b\n  return ".toList
  exactly binding.toList
  exactly ".validate(obj).error === undefined\n\x7d\n".toList
  pure ⟨binding, guard, typeName, schema⟩

/-- Bindings as long as there are any. -/
def readBindings : Nat → Reading (List Binding)
  | 0 => failure
  | budget + 1 => do
    if ← isNext "\nexport const ".toList then
      let b ← readBinding
      let rest ← readBindings budget
      pure (b :: rest)
    else pure []

/-- A module: the first line, the two imports and the bindings. -/
def readModule : Reading Module := do
  exactly headerComment.toList
  exactly "\nimport * as Joi from ".toList
  exactly (Json.quotedChars schemaLibrary.toList)
  exactly "\nimport * as types from ".toList
  let importPath ← literal
  exactly ['\n']
  let bindings ← fun cs => readBindings (cs.length + 1) cs
  pure ⟨importPath, bindings⟩

/-- The module that a text is generated from. -/
def read? (text : String) : Option Module :=
  match readModule.run text.toList with
  | some (m, []) => some m
  | _ => none

variable {rest : List Char}

/-- What comes after the words that announce the schema of a binding. -/
def bindingTail (b : Binding) : List Char :=
  b.name.toList ++ (" = ".toList ++ (b.schema.render 0 ++ ("\n\nexport function ".toList ++
    (b.guard.toList ++ ("(obj: any): obj is types.".toList ++ (b.typeName.toList ++
      (" \x7b\n  return ".toList ++ (b.name.toList ++
        ".validate(obj).error === undefined\n\x7d\n".toList))))))))

theorem bindingChars_eq (b : Binding) :
    bindingChars b = "\nexport const ".toList ++ bindingTail b := by
  change "\nexport const ".toList ++ b.name.toList ++ " = ".toList ++ b.schema.render 0 ++
    "\n\nexport function ".toList ++ b.guard.toList ++ "(obj: any): obj is types.".toList ++
    b.typeName.toList ++ " \x7b\n  return ".toList ++ b.name.toList ++
    ".validate(obj).error === undefined\n\x7d\n".toList = _
  simp only [List.append_assoc]
  rfl

/-- A schema at the start of a module's line is read back. -/
theorem reads_schema (s : Schema) (names : s.named = true) (more : List Char) :
    Reads (fun cs => Schema.read cs.length 0 cs) (s.render 0) s ('\n' :: more) := by
  refine Schema.reads_read s names ?_ (.line more)
  rw [List.length_append]
  exact Nat.le_add_right _ _

theorem reads_binding (b : Binding) (names : b.named = true) :
    Reads readBinding (bindingTail b) b rest := by
  obtain ⟨⟨⟨hname, hguard⟩, htype⟩, hschema⟩ : ((isName b.name = true ∧ isName b.guard = true) ∧
      isName b.typeName = true) ∧ b.schema.named = true := by
    simpa only [Binding.named, Bool.and_eq_true] using names
  have blank : isNamePart ' ' = false := by decide
  have open' : isNamePart '(' = false := by decide
  refine (reads_name hname ?_).bind ((reads_exactly _ _).bind
    ((reads_schema b.schema hschema _).bind ((reads_exactly _ _).bind
      ((reads_name hguard ?_).bind ((reads_exactly _ _).bind
        ((reads_name htype ?_).bind ((reads_exactly _ _).bind
          ((reads_exactly _ _).bind ((reads_exactly _ rest).map _)))))))))
  · exact fun c hc => Option.some.inj hc ▸ blank
  · exact fun c hc => Option.some.inj hc ▸ open'
  · exact fun c hc => Option.some.inj hc ▸ blank

theorem reads_bindings {budget : Nat} {bindings : List Binding}
    (names : ∀ b ∈ bindings, b.named = true) (enough : bindings.length < budget) :
    Reads (readBindings budget) (bindings.flatMap bindingChars) bindings [] := by
  obtain ⟨budget, rfl⟩ := Nat.exists_eq_add_one_of_ne_zero (Nat.ne_zero_of_lt enough)
  induction bindings generalizing budget with
  | nil => rfl
  | cons b bindings ih =>
      obtain ⟨hb, hbindings⟩ := List.forall_mem_cons.mp names
      obtain ⟨budget, rfl⟩ := Nat.exists_eq_add_one_of_ne_zero
        (Nat.ne_zero_of_lt (Nat.lt_of_succ_lt_succ enough))
      have hrest := ih hbindings budget (Nat.lt_of_succ_lt_succ enough)
      rw [List.flatMap_cons, bindingChars_eq, List.append_assoc]
      exact (reads_isNext_true _ _).bind ((reads_binding b hb).bind (hrest.map _))

theorem bindingChars_ne_nil (b : Binding) : bindingChars b ≠ [] := by
  rw [bindingChars_eq]
  exact List.cons_ne_nil _ _

theorem emit_eq (m : Module) :
    m.emit = headerComment.toList ++ ("\nimport * as Joi from ".toList ++
      (Json.quotedChars schemaLibrary.toList ++ ("\nimport * as types from ".toList ++
        (Json.quotedChars m.importPath.toList ++
          (['\n'] ++ m.bindings.flatMap bindingChars))))) := by
  change headerComment.toList ++ "\nimport * as Joi from ".toList ++
    Json.quotedChars schemaLibrary.toList ++ "\nimport * as types from ".toList ++
    Json.quotedChars m.importPath.toList ++ ['\n'] ++ m.bindings.flatMap bindingChars = _
  simp only [List.append_assoc]

theorem reads_module (m : Module) (names : m.named = true) : Reads readModule m.emit m [] := by
  have hbindings : Reads (fun cs => readBindings (cs.length + 1) cs)
      (m.bindings.flatMap bindingChars) m.bindings [] := by
    refine reads_bindings (List.all_eq_true.mp names) ?_
    rw [List.append_nil]
    exact Nat.lt_succ_of_le (length_le_length_flatMap bindingChars_ne_nil m.bindings)
  rw [emit_eq]
  exact (reads_exactly _ _).bind ((reads_exactly _ _).bind ((reads_exactly _ _).bind
    ((reads_exactly _ _).bind ((reads_literal m.importPath _).bind ((reads_exactly _ _).bind
      (hbindings.map _))))))

/-- The text of a module whose names are names can be read back without loss, whatever its
schemas and its import path: a reader recovers the module, and so no two such modules have
the same text. -/
theorem text_readable :
    (∀ m : Module, m.named = true → read? m.text = some m) ∧
    ∀ m m' : Module, m.named = true → m'.named = true → m.text = m'.text → m = m' := by
  have readable (m : Module) (names : m.named = true) : read? m.text = some m := by
    have h := reads_module m names
    rw [Reads, List.append_nil] at h
    rw [read?, text, String.toList_ofList, h]
  refine ⟨readable, fun m m' names names' same => ?_⟩
  exact Option.some.inj ((readable m names).symm.trans (same ▸ readable m' names'))

/-- A module whose names and strings look like builder calls. -/
def misleading (inner : Schema) : Module :=
  ⟨"./\"types\"\nexport const A = Joi.any()",
    [⟨"Joi", "required", "allow", .nullable (.nullable (.reference "Joi" true))⟩,
      ⟨"A", "isA", "A", .enumeration ["", ".required()", "\").allow(null)", "\x01\\"] false⟩,
      ⟨"B", "isB", "B", .object [("Joi", .object [] true),
        ("string", .array (.nullable (.enumeration [] true)) false), ("valid", inner)] true⟩]⟩

/-- Misleading modules are read back, and they differ in text where only the innermost schema
differs: a string, none of the strings, or a binding that has the name of the library. -/
theorem text_readable_misleading :
    (∀ inner ∈ [.primitive .string false, .enumeration [] false, .reference "Joi" false],
      read? (misleading inner).text = some (misleading inner)) ∧
    (misleading (.primitive .string false)).text ≠ (misleading (.enumeration [] false)).text := by
  have string : (misleading (.primitive .string false)).named = true := by decide
  have values : (misleading (.enumeration [] false)).named = true := by decide
  have library : (misleading (.reference "Joi" false)).named = true := by decide
  refine ⟨?_, fun same => ?_⟩
  · simp only [List.forall_mem_cons, List.not_mem_nil, false_imp_iff, implies_true, and_true]
    exact ⟨text_readable.1 _ string, text_readable.1 _ values, text_readable.1 _ library⟩
  · cases text_readable.2 _ _ string values same

end Module

end SchemaGuards
