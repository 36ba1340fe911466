import SchemaGuards.Proofs.Module.Compile
import SchemaGuards.Proofs.Schema.Induction

/-!
# Writing a reference out in a schema

A reference of a field is replaced by a schema. Set at its top, the schema may carry the flag of
the reference; nullable schemas carry none, and those that are compiled require nothing.
-/

namespace SchemaGuards

namespace Schema

/-- The schema with another flag at its top. A nullable schema has none to set. -/
def withFlag (required : Bool) : Schema → Schema
  | primitive p _ => primitive p required
  | nullable inner => nullable inner
  | enumeration values _ => enumeration values required
  | array item _ => array item required
  | object fields _ => object fields required
  | reference binding _ => reference binding required

/-- What is inside a nullable schema is never required at its top. -/
inductive Lenient : Schema → Prop
  | primitive {p required} : Lenient (.primitive p required)
  | nullable {inner} (free : inner.flag? ≠ some true) (inside : Lenient inner) :
      Lenient (.nullable inner)
  | enumeration {values required} : Lenient (.enumeration values required)
  | array {item required} (inside : Lenient item) : Lenient (.array item required)
  | object {fields : List Field} {required} (inside : ∀ f ∈ fields, Lenient f.2) :
      Lenient (.object fields required)
  | reference {name required} : Lenient (.reference name required)

/-- At any depth, the items of arrays and what is inside nullable schemas are not required at their
top. -/
inductive InnerOptional : Schema → Prop
  | primitive {p required} : InnerOptional (.primitive p required)
  | nullable {inner} (free : inner.flag? ≠ some true) (inside : InnerOptional inner) :
      InnerOptional (.nullable inner)
  | enumeration {values required} : InnerOptional (.enumeration values required)
  | array {item required} (free : item.flag? ≠ some true) (inside : InnerOptional item) :
      InnerOptional (.array item required)
  | object {fields : List Field} {required} (inside : ∀ f ∈ fields, InnerOptional f.2) :
      InnerOptional (.object fields required)
  | reference {name required} : InnerOptional (.reference name required)

theorem InnerOptional.lenient {s : Schema} (h : s.InnerOptional) : s.Lenient := by
  induction h with
  | primitive => exact .primitive
  | nullable free _ ih => exact .nullable free ih
  | enumeration => exact .enumeration
  | array _ _ ih => exact .array ih
  | object _ ih => exact .object ih
  | reference => exact .reference

/-- One field that refers to a name is filled with a schema instead. -/
inductive Inlined (field name : String) (required : Bool) (filling : Schema) :
    Schema → Schema → Prop
  | here {before after : List Field} {flag} :
      Inlined field name required filling
        (.object (before ++ (field, .reference name required) :: after) flag)
        (.object (before ++ (field, filling) :: after) flag)
  | within {before after : List Field} {key s s' flag}
      (h : Inlined field name required filling s s') :
      Inlined field name required filling (.object (before ++ (key, s) :: after) flag)
        (.object (before ++ (key, s') :: after) flag)
  | item {s s' flag} (h : Inlined field name required filling s s') :
      Inlined field name required filling (.array s flag) (.array s' flag)
  | inner {s s'} (h : Inlined field name required filling s s') :
      Inlined field name required filling (.nullable s) (.nullable s')

section Inlined

variable {field name : String} {required : Bool} {filling s t' : Schema}

theorem Inlined.exists_of_nullable (h : Inlined field name required filling s (.nullable t')) :
    ∃ t, s = .nullable t ∧ Inlined field name required filling t t' := by
  cases h with
  | inner h => exact ⟨_, rfl, h⟩

theorem not_inlined_reference {n : String} {flag : Bool} :
    ¬ Inlined field name required filling s (.reference n flag) := nofun

end Inlined

end Schema

namespace TypeExpr

variable {naming : Naming} {required : Bool} {e : TypeExpr} {s : Schema}

/-- The flag at the top of a compiled schema is the one that was asked for, if there is any. -/
theorem flag?_schema (lowered : e.schema naming required = .ok s) :
    (∃ inner, s = .nullable inner) ∨ s.flag? = some required := by
  cases schema_eq_ok_iff.mp lowered with
  | orNull shape inner => exact Or.inl ⟨_, rfl⟩
  | _ => exact Or.inr rfl

theorem flag?_ne_some_true (lowered : e.schema naming false = .ok s) : s.flag? ≠ some true := by
  rcases flag?_schema lowered with ⟨inner, rfl⟩ | h
  · nofun
  · rw [h]
    nofun

/-- In a compiled schema no item and nothing inside a nullable schema is required. -/
theorem innerOptional_schema (lowered : e.schema naming required = .ok s) : s.InnerOptional := by
  induction s using Schema.induction generalizing e required with
  | primitive p flag => exact .primitive
  | enumeration values flag => exact .enumeration
  | reference name flag => exact .reference
  | nullable inner ih =>
      cases schema_eq_ok_iff.mp lowered with
      | orNull shape other => exact .nullable (flag?_ne_some_true other) (ih other)
  | array item flag ih =>
      cases schema_eq_ok_iff.mp lowered with
      | array item => exact .array (flag?_ne_some_true item) (ih item)
  | object fs flag ih =>
      cases schema_eq_ok_iff.mp lowered with
      | object body =>
          apply Schema.InnerOptional.object
          intro f hf
          obtain ⟨p, -, -, hs⟩ := exists_left_of_forall₂ (fields_eq_ok_iff.mp body) hf
          exact ih f hf hs

end TypeExpr

/-- Compiled modules require nothing inside a nullable schema. -/
theorem Module.lenient_of_bindingsOf {naming : Naming} {declarations : List Declaration}
    {bindings : List Binding} (compiled : bindingsOf naming declarations = .ok bindings) :
    ∀ b ∈ bindings, b.schema.Lenient := by
  intro b hb
  obtain ⟨declared, -, s, lowered, rfl⟩ :=
    exists_left_of_forall₂ (forall₂_of_bindingsOf compiled) hb
  exact (TypeExpr.innerOptional_schema lowered).lenient

end SchemaGuards
