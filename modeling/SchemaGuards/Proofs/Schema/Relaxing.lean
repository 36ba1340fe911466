import SchemaGuards.Proofs.Schema.Induction

/-!
# Schemas that require less

Flags of a schema may be cleared, and properties of a type may be made optional. The second is the
first, seen from the source: a type with more optional properties has a schema exactly if the type
has one, and that schema is the schema of the type with some flags cleared.
-/

namespace SchemaGuards

namespace Schema

mutual

/-- The second schema is the first one with some flags cleared, at any depth. -/
inductive Relaxed : Schema → Schema → Prop
  | primitive {kind flag flag'} (cleared : flag' ≤ flag) :
      Relaxed (.primitive kind flag) (.primitive kind flag')
  | nullable {inner inner'} (h : Relaxed inner inner') :
      Relaxed (.nullable inner) (.nullable inner')
  | enumeration {values flag flag'} (cleared : flag' ≤ flag) :
      Relaxed (.enumeration values flag) (.enumeration values flag')
  | array {item item' flag flag'} (h : Relaxed item item') (cleared : flag' ≤ flag) :
      Relaxed (.array item flag) (.array item' flag')
  | object {fields fields' flag flag'} (each : List.Forall₂ RelaxedField fields fields')
      (cleared : flag' ≤ flag) : Relaxed (.object fields flag) (.object fields' flag')
  | reference {name flag flag'} (cleared : flag' ≤ flag) :
      Relaxed (.reference name flag) (.reference name flag')

/-- The schema of a field has some flags cleared; the field keeps its name. -/
inductive RelaxedField : Field → Field → Prop
  | mk {name s s'} (h : Relaxed s s') : RelaxedField (name, s) (name, s')

end

theorem RelaxedField.name_eq {f f' : Field} (h : RelaxedField f f') : f'.1 = f.1 := by
  cases h with
  | mk h => rfl

end Schema

namespace TypeExpr

mutual

/-- The second type is the first one with some properties made optional, at any depth. -/
inductive Loosened : TypeExpr → TypeExpr → Prop
  | keyword (k) : Loosened (keyword k) (keyword k)
  | literal (l) : Loosened (literal l) (literal l)
  | union {types types'} (each : List.Forall₂ Loosened types types') :
      Loosened (union types) (union types')
  | array {item item'} (h : Loosened item item') : Loosened (array item) (array item')
  | object {members members'} (each : List.Forall₂ LoosenedMember members members') :
      Loosened (object members) (object members')
  | reference (name) {arguments arguments'} (each : List.Forall₂ Loosened arguments arguments') :
      Loosened (reference name arguments) (reference name arguments')
  | other (kind source) : Loosened (other kind source) (other kind source)

/-- A property may be made optional, and so may be those inside its type. -/
inductive LoosenedMember : Member → Member → Prop
  | typed {name optional optional' type type'} (added : optional ≤ optional')
      (h : Loosened type type') :
      LoosenedMember (.property name optional (some type)) (.property name optional' (some type'))
  | untyped {name optional optional'} (added : optional ≤ optional') :
      LoosenedMember (.property name optional none) (.property name optional' none)
  | method (name) : LoosenedMember (.method name) (.method name)
  | indexSignature : LoosenedMember .indexSignature .indexSignature
  | callSignature : LoosenedMember .callSignature .callSignature
  | constructSignature : LoosenedMember .constructSignature .constructSignature

end

variable {naming : Naming} {e e' : TypeExpr} {types types' : List TypeExpr}
  {members members' : List Member}

theorem Loosened.eq_null_iff (h : e.Loosened e') : e' = .keyword .null ↔ e = .keyword .null := by
  cases h <;> simp

theorem Loosened.stringLiteral?_eq (h : e.Loosened e') :
    e'.stringLiteral? = e.stringLiteral? := by
  cases h <;> rfl

/-- A property that may have become optional, with such properties inside its type. -/
structure LoosenedProperty (p p' : Property) : Prop where
  name : p'.name = p.name
  added : p.optional ≤ p'.optional
  type : p.type.Loosened p'.type

theorem LoosenedMember.rel_kept? {m m' : Member} (h : LoosenedMember m m') :
    Option.Rel LoosenedProperty m.kept? m'.kept? := by
  cases h with
  | @typed name optional optional' type type' added h =>
      cases name with
      | identifier name => exact .some ⟨rfl, added, h⟩
      | string value | number text | computed => exact .none
  | @untyped name => cases name <;> exact .none
  | method name | indexSignature | callSignature | constructSignature => exact .none

theorem not_le_not : ∀ {b c : Bool}, b ≤ c → (!c) ≤ (!b) := by decide

/-- Members with more optional properties have fields if the members have. -/
theorem fields_loosened (each : List.Forall₂ LoosenedMember members members')
    (inside : ∀ p ∈ Member.kept members, ∀ t', p.type.Loosened t' → ∀ required required',
      required' ≤ required → Result.Together Schema.Relaxed (p.type.schema naming required)
        (t'.schema naming required')) :
    Result.Together (List.Forall₂ Schema.RelaxedField) (fields naming members)
      (fields naming members') := by
  have kept : List.Forall₂ LoosenedProperty (Member.kept members) (Member.kept members') :=
    List.rel_filterMap (fun _ _ h => h.rel_kept?) each
  rw [fields_eq_mapM, fields_eq_mapM]
  refine Result.Together.mapM kept fun p hp p' h => ?_
  refine (inside p hp p'.type h.type _ _ (not_le_not h.added)).map fun s s' hs => ?_
  exact h.name ▸ .mk hs

/-- The schema of a type with more optional properties is that of the type with flags cleared. -/
theorem schema_loosened (h : e.Loosened e') {required required' : Bool}
    (cleared : required' ≤ required) :
    Result.Together Schema.Relaxed (e.schema naming required) (e'.schema naming required') := by
  induction e using TypeExpr.induction generalizing e' required required' with
  | keyword k =>
      cases h
      rw [schema, schema]
      cases k.primitive? with
      | none => exact .error
      | some p => exact .ok (.primitive cleared)
  | literal l =>
      cases h
      exact .error
  | other kind source =>
      cases h
      exact .error
  | union types ih =>
      cases h with
      | union each =>
          refine union_together each (fun _ _ h => h.eq_null_iff) (fun _ _ h => h.stringLiteral?_eq)
            ?_ (fun _ _ h => .nullable h) (fun _ => .enumeration cleared)
          exact fun t ht t' h => ih t ht h (Bool.le_refl _)
  | array item ih =>
      cases h with
      | array h =>
          rw [schema, schema]
          exact (ih h (Bool.le_refl _)).map fun _ _ h => .array h cleared
  | object members ih =>
      cases h with
      | object each =>
          rw [schema, schema]
          refine (fields_loosened each ?_).map fun _ _ each => .object each cleared
          exact fun p hp t' h _ _ cleared => ih p hp h cleared
  | reference name arguments =>
      cases h with
      | reference _ each =>
          cases each with
          | cons h rest => exact .error
          | nil =>
              rw [schema, schema]
              cases name.identifier? with
              | none => exact .error
              | some identifier => exact .ok (.reference cleared)

end TypeExpr

end SchemaGuards
