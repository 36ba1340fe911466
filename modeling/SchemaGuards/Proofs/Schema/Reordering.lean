import SchemaGuards.Proofs.Rearranged
import SchemaGuards.Proofs.Schema.Offenders

/-!
# Types with members in another order

The members of unions and of object types may be put in another order, at any depth. The first part
without a schema is then another one, but there is one exactly if there was one before.
-/

namespace SchemaGuards

namespace TypeExpr

mutual

/-- Two types differ only by the order of members of unions and of object types, at any depth. -/
inductive Reordered : TypeExpr → TypeExpr → Prop
  | keyword (k) : Reordered (keyword k) (keyword k)
  | literal (l) : Reordered (literal l) (literal l)
  | union {types types'} (order : Rearranged Reordered types types') :
      Reordered (union types) (union types')
  | array {item item'} (h : Reordered item item') : Reordered (array item) (array item')
  | object {members members'} (order : Rearranged ReorderedMember members members') :
      Reordered (object members) (object members')
  | reference (name) {arguments arguments'} (each : List.Forall₂ Reordered arguments arguments') :
      Reordered (reference name arguments) (reference name arguments')
  | other (kind source) : Reordered (other kind source) (other kind source)

/-- Two members differ only by the order of members inside their types. -/
inductive ReorderedMember : Member → Member → Prop
  | typed (name optional) {type type'} (h : Reordered type type') :
      ReorderedMember (.property name optional (some type)) (.property name optional (some type'))
  | untyped (name optional) :
      ReorderedMember (.property name optional none) (.property name optional none)
  | method (name) : ReorderedMember (.method name) (.method name)
  | indexSignature : ReorderedMember .indexSignature .indexSignature
  | callSignature : ReorderedMember .callSignature .callSignature
  | constructSignature : ReorderedMember .constructSignature .constructSignature

end

variable {e e' other : TypeExpr} {types types' : List TypeExpr} {members members' : List Member}

theorem Reordered.symm (h : e.Reordered e') : e'.Reordered e :=
  @Reordered.rec (fun e e' _ => e'.Reordered e) (fun m m' _ => ReorderedMember m' m)
    (fun types types' _ => Rearranged Reordered types' types)
    (fun members members' _ => Rearranged ReorderedMember members' members)
    (fun types types' _ => List.Forall₂ Reordered types' types)
    .keyword .literal (fun _ => .union) (fun _ => .array) (fun _ => .object)
    (fun name _ _ _ => .reference name) .other
    (fun name optional _ _ _ => .typed name optional) .untyped
    .method .indexSignature .callSignature .constructSignature
    .nil (fun _ _ => .cons) (fun _ order h => h.reorder_left order.symm)
    .nil (fun _ _ => .cons) (fun _ order h => h.reorder_left order.symm)
    .nil (fun _ _ => .cons) e e' h

theorem union_symm (order : Rearranged Reordered types types') :
    Rearranged Reordered types' types := by
  cases (Reordered.union order).symm with
  | union back => exact back

theorem Reordered.eq_null (h : e.Reordered e') (isNull : e = .keyword .null) :
    e' = .keyword .null := by
  subst isNull
  cases h
  rfl

/-- A type and `null` stay so in another order. -/
theorem OrNull.exists_reordered (order : Rearranged Reordered types types')
    (shape : OrNull types other) : ∃ other', OrNull types' other' ∧ other.Reordered other' := by
  obtain ⟨middle, each, order⟩ := order.exists_forall₂
  obtain ⟨other', shape', h⟩ := shape.exists_of_forall₂ (fun _ _ => Reordered.eq_null) each
  refine ⟨other', ?_, h⟩
  cases shape' with
  | first =>
      obtain rfl | rfl := List.pair_perm.mp order
      · exact .first
      · exact .second
  | second =>
      obtain rfl | rfl := List.pair_perm.mp order
      · exact .second
      · exact .first

/-- Two properties differ only by the order of members inside their types. -/
structure ReorderedProperty (p p' : Property) : Prop where
  name : p'.name = p.name
  optional : p'.optional = p.optional
  type : p.type.Reordered p'.type

theorem ReorderedMember.rel_kept? {m m' : Member} (h : ReorderedMember m m') :
    Option.Rel ReorderedProperty m.kept? m'.kept? := by
  cases h with
  | typed name optional h =>
      cases name with
      | identifier name => exact .some ⟨rfl, rfl, h⟩
      | string value | number text | computed => exact .none
  | untyped name => cases name <;> exact .none
  | method name | indexSignature | callSignature | constructSignature => exact .none

/-- Members in another order keep the same properties, in another order. -/
theorem kept_reordered (order : Rearranged ReorderedMember members members') :
    Rearranged ReorderedProperty (Member.kept members) (Member.kept members') :=
  order.filterMap fun _ _ h => h.rel_kept?

theorem unlessChoice_reordered (order : Rearranged Reordered types types')
    (supported : unlessChoice types = []) : unlessChoice types' = [] := by
  obtain ⟨values, rfl⟩ := unlessChoice_eq_nil_iff.mp supported
  have each : ∀ t' ∈ types', ∃ s, t' = literal (.string s) := by
    intro t' ht'
    obtain ⟨t, ht, h⟩ := order.exists_left t' ht'
    obtain ⟨s, -, rfl⟩ := List.mem_map.mp ht
    cases h
    exact ⟨s, rfl⟩
  rw [unlessChoice, if_pos (isChoice_iff.mpr each)]

/-- Nothing in a type offends if nothing in it does in another order. -/
theorem offenders_reordered (h : e.Reordered e') : e.offenders = [] ↔ e'.offenders = [] := by
  induction e using TypeExpr.induction generalizing e' with
  | keyword k =>
      cases h
      rfl
  | literal l =>
      cases h
      rfl
  | other kind source =>
      cases h
      rfl
  | union types ih =>
      cases h with
      | @union _ types' order =>
          have back := union_symm order
          by_cases shape : ∃ other, OrNull types other
          · obtain ⟨other, shape⟩ := shape
            obtain ⟨other', shape', h⟩ := shape.exists_reordered order
            rw [offenders_of_orNull shape, offenders_of_orNull shape']
            exact ih other shape.mem h
          · have shape' : ∀ other, ¬ OrNull types' other := by
              intro other' shape'
              obtain ⟨other, shape'', -⟩ := shape'.exists_reordered back
              exact shape ⟨other, shape''⟩
            rw [offenders_of_not_orNull (not_exists.mp shape), offenders_of_not_orNull shape']
            exact ⟨unlessChoice_reordered order, unlessChoice_reordered back⟩
  | array item ih =>
      cases h with
      | array h =>
          rw [offenders, offenders]
          exact ih h
  | object members ih =>
      cases h with
      | object order =>
          have kept := kept_reordered order
          rw [offenders, offenders, memberOffenders_eq_flatMap, memberOffenders_eq_flatMap,
            List.flatMap_eq_nil_iff, List.flatMap_eq_nil_iff]
          constructor
          · intro none p' hp'
            obtain ⟨p, hp, h⟩ := kept.exists_left p' hp'
            exact (ih p hp h.type).mp (none p hp)
          · intro none p hp
            obtain ⟨p', hp', h⟩ := kept.exists_right p hp
            exact (ih p hp h.type).mpr (none p' hp')
  | reference name arguments =>
      cases h with
      | reference _ each =>
          rw [offenders, offenders]
          cases each with
          | nil => rfl
          | cons h rest => simp

/-- A type has a schema if it has one with its members in another order. -/
theorem exists_schema_reordered (naming : Naming) (h : e.Reordered e') (required : Bool) :
    (∃ s, e.schema naming required = .ok s) ↔ ∃ s, e'.schema naming required = .ok s := by
  rw [(decided_schema naming e required).exists_ok_iff,
    (decided_schema naming e' required).exists_ok_iff]
  exact offenders_reordered h

/-- Members have fields if they have them in another order. -/
theorem exists_fields_reordered (naming : Naming)
    (order : Rearranged ReorderedMember members members') :
    (∃ fs, fields naming members = .ok fs) ↔ ∃ fs, fields naming members' = .ok fs := by
  have decided (members : List Member) :
      Decided (memberOffenders members) (fields naming members) :=
    decided_fields fun p _ => decided_schema naming p.type
  rw [(decided members).exists_ok_iff, (decided members').exists_ok_iff]
  exact offenders_reordered (.object order)

end TypeExpr

end SchemaGuards
