import SchemaGuards.Declaration.Basic

/-!
# Equality of declarations

Two type expressions are compared part by part.
-/

namespace SchemaGuards

mutual

/-- Whether two type expressions are the same. -/
def TypeExpr.same : TypeExpr → TypeExpr → Bool
  | .keyword k, .keyword k' => k = k'
  | .literal l, .literal l' => l = l'
  | .union types, .union types' => sameTypes types types'
  | .array item, .array item' => item.same item'
  | .object members, .object members' => sameMembers members members'
  | .reference name arguments, .reference name' arguments' =>
    name = name' && sameTypes arguments arguments'
  | .other kind source, .other kind' source' => kind = kind' && source = source'
  | _, _ => false

def sameTypes : List TypeExpr → List TypeExpr → Bool
  | [], [] => true
  | t :: types, t' :: types' => t.same t' && sameTypes types types'
  | _, _ => false

def sameMembers : List Member → List Member → Bool
  | [], [] => true
  | m :: members, m' :: members' => m.same m' && sameMembers members members'
  | _, _ => false

def Member.same : Member → Member → Bool
  | .property name optional type, .property name' optional' type' =>
    name = name' && optional = optional' && sameOptional type type'
  | .method name, .method name' => name = name'
  | .indexSignature, .indexSignature => true
  | .callSignature, .callSignature => true
  | .constructSignature, .constructSignature => true
  | _, _ => false

def sameOptional : Option TypeExpr → Option TypeExpr → Bool
  | none, none => true
  | some t, some t' => t.same t'
  | _, _ => false

end

mutual

theorem TypeExpr.same_iff (s t : TypeExpr) : s.same t = true ↔ s = t := by
  cases s with
  | keyword k => cases t <;> simp [TypeExpr.same]
  | literal l => cases t <;> simp [TypeExpr.same]
  | union types => cases t <;> simp [TypeExpr.same, sameTypes_iff types]
  | array item => cases t <;> simp [TypeExpr.same, TypeExpr.same_iff item]
  | object members => cases t <;> simp [TypeExpr.same, sameMembers_iff members]
  | reference name arguments => cases t <;> simp [TypeExpr.same, sameTypes_iff arguments]
  | other kind source => cases t <;> simp [TypeExpr.same]

theorem sameTypes_iff (types types' : List TypeExpr) :
    sameTypes types types' = true ↔ types = types' := by
  cases types with
  | nil => cases types' <;> simp [sameTypes]
  | cons t types => cases types' <;> simp [sameTypes, TypeExpr.same_iff t, sameTypes_iff types]

theorem sameMembers_iff (members members' : List Member) :
    sameMembers members members' = true ↔ members = members' := by
  cases members with
  | nil => cases members' <;> simp [sameMembers]
  | cons m members =>
      cases members' <;> simp [sameMembers, Member.same_iff m, sameMembers_iff members]

theorem Member.same_iff (m m' : Member) : m.same m' = true ↔ m = m' := by
  cases m with
  | property name optional type =>
      cases m' <;> simp [Member.same, sameOptional_iff type, and_assoc]
  | method name => cases m' <;> simp [Member.same]
  | indexSignature => cases m' <;> simp [Member.same]
  | callSignature => cases m' <;> simp [Member.same]
  | constructSignature => cases m' <;> simp [Member.same]

theorem sameOptional_iff (type type' : Option TypeExpr) :
    sameOptional type type' = true ↔ type = type' := by
  cases type with
  | none => cases type' <;> simp [sameOptional]
  | some t => cases type' <;> simp [sameOptional, TypeExpr.same_iff t]

end

instance : DecidableEq TypeExpr := fun s t => decidable_of_iff _ (s.same_iff t)

instance : DecidableEq Member := fun m m' => decidable_of_iff _ (m.same_iff m')

deriving instance DecidableEq for Declaration

end SchemaGuards
