import SchemaGuards.Proofs.Schema.Induction
import SchemaGuards.Module.Compile
import SchemaGuards.Schema.Render

/-!
# Members that are dropped

No schema is made of a member that is no property with a plain name and a type. Such members may be
taken out or put in anywhere, whatever types they have: a type compiles to the same schema as
before, and if it has none it still has none. Taking out all of them leaves a type of kept members
only.
-/

namespace SchemaGuards

/-- Dropped members are taken out of a list or put into it, at any place. The types of the kept
ones are related. -/
inductive Member.SameKept (r : TypeExpr → TypeExpr → Prop) : List Member → List Member → Prop
  | nil : SameKept r [] []
  | keep {name optional type type' members members'} (h : r type type')
      (others : SameKept r members members') :
      SameKept r (.property (.identifier name) optional (some type) :: members)
        (.property (.identifier name) optional (some type') :: members')
  | takeOut {m members members'} (dropped : m.kept? = none)
      (others : SameKept r members members') : SameKept r (m :: members) members'
  | putIn {m members members'} (dropped : m.kept? = none)
      (others : SameKept r members members') : SameKept r members (m :: members')

namespace TypeExpr

/-- Two types differ only by members that are dropped, at any depth. -/
inductive SameKept : TypeExpr → TypeExpr → Prop
  | keyword (k) : SameKept (keyword k) (keyword k)
  | literal (l) : SameKept (literal l) (literal l)
  | union {types types'} (each : List.Forall₂ SameKept types types') :
      SameKept (union types) (union types')
  | array {item item'} (h : SameKept item item') : SameKept (array item) (array item')
  | object {members members'} (h : Member.SameKept SameKept members members') :
      SameKept (object members) (object members')
  | reference (name) {arguments arguments'} (each : List.Forall₂ SameKept arguments arguments') :
      SameKept (reference name arguments) (reference name arguments')
  | other (kind source) : SameKept (other kind source) (other kind source)

/-! ### Taking out all dropped members -/

mutual

/-- A type expression without the members that are dropped, at any depth. -/
def pruned : TypeExpr → TypeExpr
  | keyword k => keyword k
  | literal l => literal l
  | union types => union (prunedTypes types)
  | array item => array (pruned item)
  | object members => object (prunedMembers members)
  | reference name arguments => reference name (prunedTypes arguments)
  | other kind source => other kind source

/-- Type expressions without dropped members. -/
def prunedTypes : List TypeExpr → List TypeExpr
  | [] => []
  | type :: rest => pruned type :: prunedTypes rest

/-- The members that are kept, with dropped ones taken out of their types. -/
def prunedMembers : List Member → List Member
  | [] => []
  | .property (.identifier name) optional (some type) :: rest =>
    .property (.identifier name) optional (some (pruned type)) :: prunedMembers rest
  | _ :: rest => prunedMembers rest

end

mutual

/-- All members of a type expression are kept, at any depth. -/
inductive AllKept : TypeExpr → Prop
  | keyword (k) : AllKept (keyword k)
  | literal (l) : AllKept (literal l)
  | union {types} (each : ∀ t ∈ types, AllKept t) : AllKept (union types)
  | array {item} (h : AllKept item) : AllKept (array item)
  | object {members} (each : ∀ m ∈ members, KeptMember m) : AllKept (object members)
  | reference (name) {arguments} (each : ∀ t ∈ arguments, AllKept t) :
      AllKept (reference name arguments)
  | other (kind source) : AllKept (other kind source)

/-- A member is kept, and so are all members inside its type. -/
inductive KeptMember : Member → Prop
  | mk {name optional type} (h : AllKept type) :
      KeptMember (.property (.identifier name) optional (some type))

end

mutual

theorem sameKept_pruned : ∀ e : TypeExpr, e.SameKept e.pruned
  | keyword k => .keyword k
  | literal l => .literal l
  | union types => .union (forall₂_prunedTypes types)
  | array item => .array (sameKept_pruned item)
  | object members => .object (sameKept_prunedMembers members)
  | reference name arguments => .reference name (forall₂_prunedTypes arguments)
  | other kind source => .other kind source

theorem forall₂_prunedTypes : ∀ types, List.Forall₂ SameKept types (prunedTypes types)
  | [] => .nil
  | type :: rest => .cons (sameKept_pruned type) (forall₂_prunedTypes rest)

theorem sameKept_prunedMembers :
    ∀ members : List Member, Member.SameKept SameKept members (prunedMembers members)
  | [] => .nil
  | .property (.identifier _) _ (some type) :: rest =>
    .keep (sameKept_pruned type) (sameKept_prunedMembers rest)
  | .property (.identifier _) _ none :: rest => .takeOut rfl (sameKept_prunedMembers rest)
  | .property (.string _) _ _ :: rest => .takeOut rfl (sameKept_prunedMembers rest)
  | .property (.number _) _ _ :: rest => .takeOut rfl (sameKept_prunedMembers rest)
  | .property .computed _ _ :: rest => .takeOut rfl (sameKept_prunedMembers rest)
  | .method _ :: rest => .takeOut rfl (sameKept_prunedMembers rest)
  | .indexSignature :: rest => .takeOut rfl (sameKept_prunedMembers rest)
  | .callSignature :: rest => .takeOut rfl (sameKept_prunedMembers rest)
  | .constructSignature :: rest => .takeOut rfl (sameKept_prunedMembers rest)

end

mutual

theorem allKept_pruned : ∀ e : TypeExpr, e.pruned.AllKept
  | keyword k => .keyword k
  | literal l => .literal l
  | union types => .union (allKept_prunedTypes types)
  | array item => .array (allKept_pruned item)
  | object members => .object (allKept_prunedMembers members)
  | reference name arguments => .reference name (allKept_prunedTypes arguments)
  | other kind source => .other kind source

theorem allKept_prunedTypes : ∀ types, ∀ t ∈ prunedTypes types, t.AllKept
  | [] => nofun
  | type :: rest => List.forall_mem_cons.mpr ⟨allKept_pruned type, allKept_prunedTypes rest⟩

theorem allKept_prunedMembers : ∀ members, ∀ m ∈ prunedMembers members, KeptMember m
  | [] => nofun
  | .property (.identifier _) _ (some type) :: rest =>
    List.forall_mem_cons.mpr ⟨.mk (allKept_pruned type), allKept_prunedMembers rest⟩
  | .property (.identifier _) _ none :: rest => allKept_prunedMembers rest
  | .property (.string _) _ _ :: rest => allKept_prunedMembers rest
  | .property (.number _) _ _ :: rest => allKept_prunedMembers rest
  | .property .computed _ _ :: rest => allKept_prunedMembers rest
  | .method _ :: rest => allKept_prunedMembers rest
  | .indexSignature :: rest => allKept_prunedMembers rest
  | .callSignature :: rest => allKept_prunedMembers rest
  | .constructSignature :: rest => allKept_prunedMembers rest

end

/-! ### Lowering without dropped members -/

variable {e e' : TypeExpr} {members members' : List Member}

theorem SameKept.eq_null_iff (h : e.SameKept e') : e' = .keyword .null ↔ e = .keyword .null := by
  cases h <;> simp

theorem SameKept.stringLiteral?_eq (h : e.SameKept e') :
    e'.stringLiteral? = e.stringLiteral? := by
  cases h <;> rfl

/-- Two properties differ only by members that are dropped inside their types. -/
structure SameKeptProperty (p p' : Property) : Prop where
  name : p'.name = p.name
  optional : p'.optional = p.optional
  type : p.type.SameKept p'.type

/-- Where only dropped members differ, the kept properties are the same, one by one. -/
theorem kept_sameKept (h : Member.SameKept SameKept members members') :
    List.Forall₂ SameKeptProperty (Member.kept members) (Member.kept members') := by
  induction h with
  | nil => exact .nil
  | keep h _ ih => exact .cons ⟨rfl, rfl, h⟩ ih
  | takeOut dropped _ ih =>
      rw [Member.kept, List.filterMap_cons_none dropped]
      exact ih
  | putIn dropped _ ih =>
      rw [Member.kept, Member.kept, List.filterMap_cons_none dropped]
      exact ih

/-- Members that differ only by dropped ones have the same fields, or none of them has any. -/
theorem fields_sameKept {naming : Naming} (h : Member.SameKept SameKept members members')
    (inside : ∀ p ∈ Member.kept members, ∀ t', p.type.SameKept t' → ∀ required,
      Result.Together Eq (p.type.schema naming required) (t'.schema naming required)) :
    Result.Together Eq (fields naming members) (fields naming members') := by
  have each : Result.Together (List.Forall₂ Eq) (fields naming members)
      (fields naming members') := by
    rw [fields_eq_mapM, fields_eq_mapM]
    apply Result.Together.mapM (kept_sameKept h)
    intro p hp p' hp'
    rw [hp'.name, hp'.optional]
    exact (inside p hp p'.type hp'.type _).map fun _ _ same => congrArg (Prod.mk p.name) same
  exact each.imp fun _ _ same => List.forall₂_eq_eq_eq ▸ same

/-- Types that differ only by dropped members have the same schema, or none of them has any. -/
theorem schema_sameKept (naming : Naming) (required : Bool) (h : e.SameKept e') :
    Result.Together Eq (e.schema naming required) (e'.schema naming required) := by
  induction e using TypeExpr.induction generalizing e' required with
  | keyword k =>
      cases h
      exact .refl Eq.refl _
  | literal l =>
      cases h
      exact .error
  | other kind source =>
      cases h
      exact .error
  | union types ih =>
      cases h with
      | union each =>
          apply union_together each (fun _ _ h => h.eq_null_iff) fun _ _ h => h.stringLiteral?_eq
          · intro t ht t' h
            exact ih t ht false h
          · intro s s' same
            exact congrArg Schema.nullable same
          · intro values
            rfl
  | array item ih =>
      cases h with
      | array h =>
          rw [schema, schema]
          exact (ih false h).map fun _ _ same => congrArg (Schema.array · required) same
  | object members ih =>
      cases h with
      | object h =>
          rw [schema, schema]
          have body := fields_sameKept h fun p hp t' h required => ih p hp required h
          exact body.map fun _ _ same => congrArg (Schema.object · required) same
  | reference name arguments =>
      cases h with
      | reference _ each =>
          cases each with
          | nil => exact .refl Eq.refl _
          | cons h rest => exact .error

/-- Two types compile alike: to the same schema and the same text, or both not at all. -/
structure CompilesAlike (e e' : TypeExpr) : Prop where
  schema (naming : Naming) (required : Bool) :
    Result.Together Eq (e.schema naming required) (e'.schema naming required)
  text (naming : Naming) (required : Bool) (level : Nat) :
    Result.Together Eq ((e.schema naming required).map (Schema.text level))
      ((e'.schema naming required).map (Schema.text level))

/-- Two lists of members compile alike: to the same fields and the same text, or both not at all. -/
structure MembersCompileAlike (members members' : List Member) : Prop where
  fields (naming : Naming) : Result.Together Eq (fields naming members) (fields naming members')
  text (naming : Naming) (level : Nat) :
    Result.Together Eq ((TypeExpr.fields naming members).map (Schema.renderObject level))
      ((TypeExpr.fields naming members').map (Schema.renderObject level))

theorem SameKept.compilesAlike (h : e.SameKept e') : e.CompilesAlike e' := by
  constructor
  · intro naming required
    exact schema_sameKept naming required h
  · intro naming required level
    exact (schema_sameKept naming required h).map fun _ _ same => congrArg (Schema.text level) same

theorem membersCompileAlike_of_sameKept (h : Member.SameKept SameKept members members') :
    MembersCompileAlike members members' := by
  have body (naming : Naming) :
      Result.Together Eq (TypeExpr.fields naming members) (TypeExpr.fields naming members') :=
    fields_sameKept h fun _ _ _ h required => schema_sameKept naming required h
  constructor
  · exact body
  · intro naming level
    exact (body naming).map fun _ _ same => congrArg (Schema.renderObject level) same

end TypeExpr

namespace Declaration

/-- Two declarations differ only by members that are dropped, at any depth. -/
inductive SameKept : Declaration → Declaration → Prop
  | interface {name typeParameters bases members members'}
      (h : Member.SameKept TypeExpr.SameKept members members') :
      SameKept (.interface name typeParameters bases members)
        (.interface name typeParameters bases members')
  | typeAlias {name typeParameters type type'} (h : type.SameKept type') :
      SameKept (.typeAlias name typeParameters type) (.typeAlias name typeParameters type')
  | other (kind line) : SameKept (.other kind line) (.other kind line)

/-- Declarations that differ only by dropped members have the same binding, or both fail. -/
theorem binding?_sameKept {d d' : Declaration} (naming : Naming) (h : d.SameKept d') :
    Result.Together Eq (d.binding? naming) (d'.binding? naming) := by
  cases h with
  | interface h =>
      rw [binding?, binding?]
      split
      · exact .error
      · split
        · exact .error
        · apply ((TypeExpr.membersCompileAlike_of_sameKept h).fields naming).bind
          rintro fs _ rfl
          exact .ok rfl
  | typeAlias h =>
      rw [binding?, binding?]
      split
      · exact .error
      · apply (TypeExpr.schema_sameKept naming false h).bind
        rintro s _ rfl
        exact .ok rfl
  | other kind line => exact .ok rfl

/-- Members that are no properties with a plain name and a type may be taken out or put in
anywhere: types, members and declarations compile as before. In particular all of them may be
taken out, at every depth. -/
theorem dropped_members_invisible :
    (∀ e e' : TypeExpr, e.SameKept e' → e.CompilesAlike e') ∧
    (∀ members members' : List Member, Member.SameKept TypeExpr.SameKept members members' →
      TypeExpr.MembersCompileAlike members members') ∧
    (∀ d d' : Declaration, d.SameKept d' → ∀ naming,
      Result.Together Eq (d.binding? naming) (d'.binding? naming)) ∧
    (∀ e : TypeExpr, e.SameKept e.pruned ∧ e.pruned.AllKept) ∧
    ∀ members : List Member,
      Member.SameKept TypeExpr.SameKept members (TypeExpr.prunedMembers members) ∧
      ∀ m ∈ TypeExpr.prunedMembers members, TypeExpr.KeptMember m := by
  refine ⟨?_, ?_, ?_, ?_, ?_⟩
  · intro e e' h
    exact h.compilesAlike
  · intro members members' h
    exact TypeExpr.membersCompileAlike_of_sameKept h
  · intro d d' h naming
    exact binding?_sameKept naming h
  · intro e
    exact ⟨e.sameKept_pruned, e.allKept_pruned⟩
  · intro members
    exact ⟨TypeExpr.sameKept_prunedMembers members, TypeExpr.allKept_prunedMembers members⟩

/-- Rows of cells. -/
def sheet : List Member :=
  [.property (.identifier "rows") false (some (.array (.object [
    .property (.identifier "cell") true (some (.keyword .string))])))]

/-- Rows of cells, with a method and a property without a type beside them, and with an index
signature and a quoted name of a type that has no schema inside them. -/
def crowdedSheet : List Member :=
  [.method (.identifier "sum"),
    .property (.identifier "rows") false (some (.array (.object [
      .property (.string "a b") false (some (.keyword .unknown)),
      .property (.identifier "cell") true (some (.keyword .string)), .indexSignature]))),
    .property (.identifier "note") true none]

/-- The crowded sheet compiles as the plain one does, in a declaration as well as by itself. -/
theorem dropped_members_invisible_sheet :
    Member.SameKept TypeExpr.SameKept sheet crowdedSheet ∧
    (∃ fs, TypeExpr.fields ⟨"V"⟩ sheet = .ok fs ∧ TypeExpr.fields ⟨"V"⟩ crowdedSheet = .ok fs) ∧
    Result.Together Eq ((typeAlias "Sheet" [] (.object sheet)).binding? ⟨"V"⟩)
      ((typeAlias "Sheet" [] (.object crowdedSheet)).binding? ⟨"V"⟩) ∧
    (TypeExpr.object sheet).CompilesAlike (.object crowdedSheet) := by
  have same : Member.SameKept TypeExpr.SameKept sheet crowdedSheet := by
    apply Member.SameKept.putIn rfl
    apply Member.SameKept.keep
    · exact .array (.object (.putIn rfl (.keep (.keyword .string) (.putIn rfl .nil))))
    · exact .putIn rfl .nil
  obtain ⟨types, members, declarations, -⟩ := dropped_members_invisible
  refine ⟨same, ?_, declarations _ _ (.typeAlias (.object same)) ⟨"V"⟩, types _ _ (.object same)⟩
  have body := (members sheet crowdedSheet same).fields ⟨"V"⟩
  obtain ⟨fs, hfs⟩ : ∃ fs, TypeExpr.fields ⟨"V"⟩ sheet = .ok fs := ⟨_, rfl⟩
  obtain ⟨fs', hfs'⟩ := body.exists_ok_iff.mp ⟨fs, hfs⟩
  obtain rfl := body.of_ok hfs hfs'
  exact ⟨fs, hfs, hfs'⟩

end Declaration

end SchemaGuards
