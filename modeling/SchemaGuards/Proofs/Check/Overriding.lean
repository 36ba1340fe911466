import SchemaGuards.Proofs.Check.Acceptance
import SchemaGuards.Module.Compile

/-!
# Fields that are overridden

An object schema may have several fields of one name. The expression that is written for it is an
object literal, which keeps the last of them and overrides the others, while a check tries each of
them on the same value. So a check never accepts what the literals refuse, and it refuses more than
they do exactly where it comes to an overridden field that refuses its value.
-/

namespace SchemaGuards

namespace Schema

/-- The last field of each name. -/
def lastFields : List Field → List Field
  | [] => []
  | f :: rest => if ∃ g ∈ rest, g.1 = f.1 then lastFields rest else f :: lastFields rest

mutual

/-- A schema in which objects keep the last field of each name alone, at any depth. -/
def asLiteral : Schema → Schema
  | primitive p required => primitive p required
  | nullable inner => nullable (asLiteral inner)
  | enumeration values required => enumeration values required
  | array item required => array (asLiteral item) required
  | object fields required => object (lastFields (asLiteralFields fields)) required
  | reference name required => reference name required

/-- Fields in whose schemas objects keep the last field of each name alone. -/
def asLiteralFields : List Field → List Field
  | [] => []
  | (name, s) :: rest => (name, asLiteral s) :: asLiteralFields rest

end

/-- A field is followed by another one of its name. -/
def Overridden (fields : List Field) (f : Field) : Prop :=
  ∃ earlier later, fields = earlier ++ f :: later ∧ ∃ g ∈ later, g.1 = f.1

variable {fields : List Field} {f : Field}

theorem mem_lastFields_iff :
    f ∈ lastFields fields ↔ LastWhere (fun g => g.1 = f.1) fields f := by
  induction fields with
  | nil =>
      constructor
      · nofun
      · intro h
        cases h.mem
  | cons g rest ih =>
      rw [LastWhere.cons_iff, lastFields]
      split
      · next repeated =>
        rw [ih]
        constructor
        · exact Or.inl
        · rintro (h | ⟨rfl, -, last⟩)
          · exact h
          · obtain ⟨g', hg', same⟩ := repeated
            exact absurd same (last g' hg')
      · next last =>
        rw [List.mem_cons, ih]
        constructor
        · rintro (rfl | h)
          · exact Or.inr ⟨rfl, rfl, fun g' hg' same => last ⟨g', hg', same⟩⟩
          · exact Or.inl h
        · rintro (h | ⟨rfl, -, -⟩)
          · exact Or.inr h
          · exact Or.inl rfl

/-- A field is the last one of its name, or it is overridden. -/
theorem last_or_overridden (hf : f ∈ fields) :
    LastWhere (fun g => g.1 = f.1) fields f ∨ Overridden fields f := by
  obtain ⟨earlier, later, rfl⟩ := List.append_of_mem hf
  by_cases h : ∃ g ∈ later, g.1 = f.1
  · exact Or.inr ⟨earlier, later, rfl, h⟩
  · exact Or.inl ⟨earlier, later, rfl, rfl, fun g hg same => h ⟨g, hg, same⟩⟩

theorem Overridden.mem (h : Overridden fields f) : f ∈ fields := by
  obtain ⟨earlier, later, rfl, -⟩ := h
  simp

theorem asLiteralFields_eq_map (fields : List Field) :
    asLiteralFields fields = fields.map fun f => (f.1, f.2.asLiteral) := by
  induction fields with
  | nil => rfl
  | cons f rest ih => rw [asLiteralFields, ih, List.map_cons]

/-- Overridden fields may be left out before or after looking into the schemas of fields. -/
theorem lastFields_asLiteralFields (fields : List Field) :
    lastFields (asLiteralFields fields) = asLiteralFields (lastFields fields) := by
  induction fields with
  | nil => rfl
  | cons f rest ih =>
      have repeated : (∃ g ∈ asLiteralFields rest, g.1 = f.1) ↔ ∃ g ∈ rest, g.1 = f.1 := by
        simp [asLiteralFields_eq_map]
      simp only [asLiteralFields, lastFields, repeated]
      split
      · exact ih
      · rw [ih, asLiteralFields]

/-- The fields of an object literal are the last ones of each name, with literals inside. -/
theorem mem_asLiteral_iff :
    f ∈ lastFields (asLiteralFields fields) ↔
      ∃ g, LastWhere (fun g' => g'.1 = g.1) fields g ∧ (g.1, g.2.asLiteral) = f := by
  rw [lastFields_asLiteralFields, asLiteralFields_eq_map, List.mem_map]
  simp only [mem_lastFields_iff]

/-- An object literal has the same names as the fields it is written for. -/
theorem exists_asLiteral_iff {name : String} :
    (∃ f ∈ lastFields (asLiteralFields fields), f.1 = name) ↔ ∃ f ∈ fields, f.1 = name := by
  simp only [mem_asLiteral_iff]
  constructor
  · rintro ⟨_, ⟨g, last, rfl⟩, rfl⟩
    exact ⟨g, last.mem, rfl⟩
  · rintro ⟨f, hf, rfl⟩
    obtain ⟨g, last⟩ := LastWhere.exists_of_mem (p := fun g : Field => g.1 = f.1) hf rfl
    have same : g.1 = f.1 := last.holds
    exact ⟨_, ⟨g, same ▸ last, rfl⟩, same⟩

theorem flag?_asLiteral (s : Schema) : s.asLiteral.flag? = s.flag? := by
  cases s <;> rfl

end Schema

/-- A binding of the schema of object literals. -/
def Binding.asLiteral (b : Binding) : Binding := { b with schema := b.schema.asLiteral }

/-- A module in whose objects the last field of each name is kept alone, at any depth. -/
def Module.asLiteral (m : Module) : Module :=
  { m with bindings := m.bindings.map Binding.asLiteral }

namespace Check

/-- Checking a value comes to an overridden field that refuses its value. -/
inductive OverriddenRefuses (bindings : List Binding) : Schema → Option Json → Prop
  | here {fields f required entries} (overridden : Schema.Overridden fields f)
      (refused : ¬ Accepts bindings f.2 (Json.lookup? f.1 entries)) :
      OverriddenRefuses bindings (.object fields required) (some (.object entries))
  | field {fields : List Schema.Field} {f required entries} (declared : f ∈ fields)
      (h : OverriddenRefuses bindings f.2 (Json.lookup? f.1 entries)) :
      OverriddenRefuses bindings (.object fields required) (some (.object entries))
  | element {item required elements e} (listed : e ∈ elements)
      (h : OverriddenRefuses bindings item (some e)) :
      OverriddenRefuses bindings (.array item required) (some (.list elements))
  | inner {inner value} (present : value ≠ some .null)
      (h : OverriddenRefuses bindings inner value) :
      OverriddenRefuses bindings (.nullable inner) value
  | reference {name required target value} (bound : Module.Bound bindings name target)
      (h : OverriddenRefuses bindings target.schema (some value)) :
      OverriddenRefuses bindings (.reference name required) (some value)

variable {bindings : List Binding} {s : Schema} {value : Option Json}

theorem bound_asLiteral_iff {name : String} {target' : Binding} :
    Module.Bound (bindings.map Binding.asLiteral) name target' ↔
      ∃ target, Module.Bound bindings name target ∧ target.asLiteral = target' := by
  have found : Module.binding? (bindings.map Binding.asLiteral) name =
      (Module.binding? bindings name).map Binding.asLiteral := by
    rw [Module.binding?, ← List.map_reverse, List.find?_map]
    rfl
  simp only [← Module.binding?_eq_some_iff, found, Option.map_eq_some_iff]

/-- What a schema accepts its object literals accept. -/
theorem Accepts.asLiteral (h : Accepts bindings s value) :
    Accepts (bindings.map Binding.asLiteral) s.asLiteral value := by
  induction h with
  | null => exact .null
  | nullable _ ih => exact .nullable ih
  | missing optional => exact .missing ((Schema.flag?_asLiteral _).trans optional)
  | reference bound _ ih => exact .reference (bound_asLiteral_iff.mpr ⟨_, bound, rfl⟩) ih
  | primitive holds => exact .primitive holds
  | enumeration listed => exact .enumeration listed
  | array _ ih => exact .array ih
  | object _ known ih =>
      apply Accepts.object
      · intro f hf
        obtain ⟨g, last, rfl⟩ := Schema.mem_asLiteral_iff.mp hf
        exact ih g last.mem
      · intro e he
        exact Schema.exists_asLiteral_iff.mpr (known e he)

/-- Where a value is accepted, no overridden field refuses its value. -/
theorem OverriddenRefuses.not_accepts (h : OverriddenRefuses bindings s value) :
    ¬ Accepts bindings s value := by
  induction h with
  | here overridden refused =>
      intro accepted
      cases accepted with
      | object each known => exact refused (each _ overridden.mem)
  | field declared _ ih =>
      intro accepted
      cases accepted with
      | object each known => exact ih (each _ declared)
  | element listed _ ih =>
      intro accepted
      cases accepted with
      | array each => exact ih (each _ listed)
  | inner present _ ih =>
      intro accepted
      cases accepted with
      | null => exact present rfl
      | nullable inside => exact ih inside
      | missing optional => cases optional
  | reference bound _ ih =>
      intro accepted
      cases accepted with
      | reference bound' inside => exact ih (LastWhere.unique bound bound' ▸ inside)

/-- What the object literals accept is accepted, unless an overridden field refuses its value. -/
theorem accepts_of_literal {t : Schema} (h : Accepts (bindings.map Binding.asLiteral) t value) :
    ∀ s : Schema, s.asLiteral = t → ¬ OverriddenRefuses bindings s value →
      Accepts bindings s value := by
  induction h with
  | null =>
      intro s same _
      cases s with
      | nullable inner => exact .null
      | _ => cases same
  | @nullable inner value _ ih =>
      intro s same spared
      cases s with
      | nullable inner =>
          by_cases hv : value = some .null
          · exact hv ▸ .null
          · apply Accepts.nullable
            apply ih inner (Schema.nullable.inj same)
            intro refused
            exact spared (.inner hv refused)
      | _ => cases same
  | missing optional =>
      intro s same _
      subst same
      exact .missing ((Schema.flag?_asLiteral s).symm.trans optional)
  | reference bound' _ ih =>
      intro s same spared
      cases s with
      | reference name required =>
          obtain ⟨rfl, rfl⟩ := Schema.reference.inj same
          obtain ⟨target, bound, rfl⟩ := bound_asLiteral_iff.mp bound'
          apply Accepts.reference bound
          apply ih target.schema rfl
          intro refused
          exact spared (.reference bound refused)
      | _ => cases same
  | primitive holds =>
      intro s same _
      cases s with
      | primitive p required =>
          obtain ⟨rfl, rfl⟩ := Schema.primitive.inj same
          exact .primitive holds
      | _ => cases same
  | enumeration listed =>
      intro s same _
      cases s with
      | enumeration values required =>
          obtain ⟨rfl, rfl⟩ := Schema.enumeration.inj same
          exact .enumeration listed
      | _ => cases same
  | array _ ih =>
      intro s same spared
      cases s with
      | array item required =>
          obtain ⟨rfl, rfl⟩ := Schema.array.inj same
          apply Accepts.array
          intro e he
          apply ih e he item rfl
          intro refused
          exact spared (.element he refused)
      | _ => cases same
  | object _ known ih =>
      intro s same spared
      cases s with
      | object fields required =>
          obtain ⟨rfl, rfl⟩ := Schema.object.inj same
          apply Accepts.object
          · intro f hf
            rcases Schema.last_or_overridden hf with last | overridden
            · apply ih _ (Schema.mem_asLiteral_iff.mpr ⟨f, last, rfl⟩) f.2 rfl
              intro refused
              exact spared (.field hf refused)
            · by_contra refused
              exact spared (.here overridden refused)
          · intro e he
            exact Schema.exists_asLiteral_iff.mp (known e he)
      | _ => cases same

/-- A schema accepts exactly what its object literals accept without an overridden field that
refuses its value. -/
theorem accepts_iff_literal :
    Accepts bindings s value ↔ Accepts (bindings.map Binding.asLiteral) s.asLiteral value ∧
      ¬ OverriddenRefuses bindings s value := by
  constructor
  · intro h
    exact ⟨h.asLiteral, fun refused => refused.not_accepts h⟩
  · rintro ⟨h, spared⟩
    exact accepts_of_literal h s rfl spared

end Check

namespace Module

open Check

/-- A document passes exactly when it passes with the last field of each name alone and no
overridden field refuses its value, wherever the check of the document comes to one. -/
theorem validateBinding_iff_literal (m : Module) (name : String) (document : Json) :
    m.validateBinding name document = .ok () ↔
      m.asLiteral.validateBinding name document = .ok () ∧
        ∀ target, Bound m.bindings name target →
          ¬ OverriddenRefuses m.bindings target.schema (some document) := by
  rw [validateBinding_eq_ok_iff, validateBinding_eq_ok_iff]
  constructor
  · rintro ⟨target, bound, h⟩
    obtain ⟨accepted, spared⟩ := accepts_iff_literal.mp h
    refine ⟨⟨target.asLiteral, bound_asLiteral_iff.mpr ⟨target, bound, rfl⟩, accepted⟩, ?_⟩
    intro target' bound'
    exact LastWhere.unique bound bound' ▸ spared
  · rintro ⟨⟨target', bound', accepted⟩, spared⟩
    obtain ⟨target, bound, rfl⟩ := bound_asLiteral_iff.mp bound'
    exact ⟨target, bound, accepts_iff_literal.mpr ⟨accepted, spared target bound⟩⟩

/-- An object whose only name has two fields. -/
def twofold : Module :=
  ⟨"./input", [⟨"A", "isA", "A",
    .object [("a", .primitive .string true), ("a", .primitive .number true)] false⟩]⟩

/-- An interface may have two properties of one name. A number passes for the last of them, and the
check refuses it for the first. -/
theorem not_literal_of_repeated_name :
    ofDeclarations ⟨""⟩ "input" [.interface "A" [] [] [
        .property (.identifier "a") false (some (.keyword .string)),
        .property (.identifier "a") false (some (.keyword .number))]] = .ok twofold ∧
      twofold.asLiteral.validateBinding "A" (.object [("a", .number "1")]) = .ok () ∧
      twofold.validateBinding "A" (.object [("a", .number "1")]) ≠ .ok () := by
  refine ⟨rfl, ?_, ?_⟩
  · simp [twofold, asLiteral, Binding.asLiteral, Schema.asLiteral, Schema.asLiteralFields,
      Schema.lastFields, validateBinding, Module.binding?, check, checkFields, Json.lookup?,
      checkPrimitive, isOfKind, unknownKey?, bind, Except.bind]
  · simp [twofold, validateBinding, Module.binding?, check, checkFields, Json.lookup?,
      checkPrimitive, isOfKind, violated, bind, Except.bind]

end Module

end SchemaGuards
