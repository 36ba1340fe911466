import SchemaGuards.Module.Compile
import SchemaGuards.Proofs.Module.Lookup
import SchemaGuards.Proofs.Result

/-!
# The bindings of declarations

An interface declares its body and an alias its type; both are looked at as one type
expression under a name. The bindings of a list of declarations are those of the declared
names, one for each and in order, so the last binding of a name is that of its last
declaration.
-/

namespace SchemaGuards

namespace Declaration

/-- The name that a declaration declares, with its type; an interface is the object type of
its body. -/
def declared? : Declaration → Option (String × TypeExpr)
  | interface name _ _ members => some (name, .object members)
  | typeAlias name _ type => some (name, type)
  | other _ _ => none

/-- A type declared last under a name. -/
def DeclaredAs (declarations : List Declaration) (name : String) (type : TypeExpr) : Prop :=
  LastWhere (fun p => p.1 = name) (declarations.filterMap declared?) (name, type)

/-- A binding is made of a declared name and its type. -/
def MakesBinding (naming : Naming) (declared : String × TypeExpr) (b : Binding) : Prop :=
  ∃ s, declared.2.schema naming false = .ok s ∧ b = binding?.bound naming declared.1 s

/-- What a declaration is compiled to: a binding of what it declares, and none where it
declares nothing. -/
theorem binding?_eq_ok {naming : Naming} {d : Declaration} {made : Option Binding}
    (h : d.binding? naming = .ok made) :
    d.declared? = none ∧ made = none ∨
      ∃ declared b, d.declared? = some declared ∧ made = some b ∧
        MakesBinding naming declared b := by
  cases d with
  | interface name typeParameters bases members =>
      simp only [binding?] at h
      split at h
      · cases h
      · split at h
        · cases h
        · obtain ⟨fs, hfs, hb⟩ := Result.bind_eq_ok_iff.mp h
          have hs : (TypeExpr.object members).schema naming false = .ok (.object fs false) := by
            rw [TypeExpr.schema, hfs]
            rfl
          exact Or.inr ⟨_, _, rfl, (Except.ok.inj hb).symm, _, hs, rfl⟩
  | typeAlias name typeParameters type =>
      simp only [binding?] at h
      split at h
      · cases h
      · obtain ⟨s, hs, hb⟩ := Result.bind_eq_ok_iff.mp h
        exact Or.inr ⟨_, _, rfl, (Except.ok.inj hb).symm, s, hs, rfl⟩
  | other kind line => exact Or.inl ⟨rfl, (Except.ok.inj h).symm⟩

/-- Two names have the same generated name only if they are equal. -/
theorem MakesBinding.name_eq_iff {naming : Naming} {declared : String × TypeExpr} {b : Binding}
    (h : MakesBinding naming declared b) (name : String) :
    declared.1 = name ↔ b.name = naming.binding name := by
  obtain ⟨s, -, rfl⟩ := h
  exact (String.append_left_inj naming.suffix).symm

theorem MakesBinding.typeName_eq {naming : Naming} {declared : String × TypeExpr} {b : Binding}
    (h : MakesBinding naming declared b) : b.typeName = declared.1 := by
  obtain ⟨s, -, rfl⟩ := h
  rfl

end Declaration

namespace Module

open Declaration

variable {naming : Naming} {declarations : List Declaration} {bindings : List Binding}
  {name : String} {type : TypeExpr} {b : Binding}

/-- Two lists of declarations compile together, to related bindings, if they do one by one. -/
theorem bindingsOf_together {r : Binding → Binding → Prop} {s : Declaration → Declaration → Prop}
    {declarations' : List Declaration} (each : List.Forall₂ s declarations declarations')
    (step : ∀ d d', s d d' →
      Result.Together (Option.Rel r) (d.binding? naming) (d'.binding? naming)) :
    Result.Together (List.Forall₂ r) (bindingsOf naming declarations)
      (bindingsOf naming declarations') := by
  induction each with
  | nil => exact .ok .nil
  | cons h _ ih =>
      refine (step _ _ h).bind fun made made' hmade => ?_
      refine ih.bind fun others others' hothers => .ok ?_
      cases hmade with
      | none => exact hothers
      | some hb => exact .cons hb hothers

theorem bindingsOf_of_ofDeclarations {label : String} {m : Module}
    (compiled : ofDeclarations naming label declarations = .ok m) :
    bindingsOf naming declarations = .ok m.bindings := by
  obtain ⟨bindings, hbindings, rfl⟩ := Result.map_eq_ok_iff.mp compiled
  exact hbindings

/-- The bindings of a module are those of its declared names, one by one. -/
theorem forall₂_of_bindingsOf (compiled : bindingsOf naming declarations = .ok bindings) :
    List.Forall₂ (MakesBinding naming) (declarations.filterMap declared?) bindings := by
  induction declarations generalizing bindings with
  | nil => exact Except.ok.inj compiled ▸ .nil
  | cons d rest ih =>
      obtain ⟨made, hd, hrest⟩ := Result.bind_eq_ok_iff.mp compiled
      obtain ⟨others, hothers, hbs⟩ := Result.bind_eq_ok_iff.mp hrest
      obtain rfl := Except.ok.inj hbs
      rcases binding?_eq_ok hd with ⟨hnone, rfl⟩ | ⟨declared, b, hsome, rfl, hb⟩
      · rw [List.filterMap_cons_none hnone]
        exact ih hothers
      · rw [List.filterMap_cons_some hsome]
        exact .cons hb (ih hothers)

/-- Declarations that compile one by one compile together. -/
theorem exists_bindingsOf (lowered : ∀ d ∈ declarations, ∃ made, d.binding? naming = .ok made) :
    ∃ bindings, bindingsOf naming declarations = .ok bindings := by
  induction declarations with
  | nil => exact ⟨[], rfl⟩
  | cons d rest ih =>
      obtain ⟨made, hd⟩ := lowered d (.head _)
      obtain ⟨others, hothers⟩ := ih fun d hd => lowered d (.tail _ hd)
      exact ⟨made.toList ++ others, by rw [bindingsOf, hd, hothers]; rfl⟩

/-- The last declaration of a name is what its generated name is bound to. -/
theorem bound_of_declaredAs (compiled : bindingsOf naming declarations = .ok bindings)
    (declared : DeclaredAs declarations name type) :
    ∃ b, Bound bindings (naming.binding name) b ∧ MakesBinding naming (name, type) b :=
  LastWhere.exists_forall₂ (forall₂_of_bindingsOf compiled)
    (fun _ _ h => h.name_eq_iff name) declared

/-- What a generated name is bound to comes from the last declaration of the name. -/
theorem declaredAs_of_bound (compiled : bindingsOf naming declarations = .ok bindings)
    (bound : Bound bindings (naming.binding name) b) :
    ∃ type, DeclaredAs declarations name type ∧ MakesBinding naming (name, type) b := by
  obtain ⟨⟨other, type⟩, hlast, made⟩ :=
    LastWhere.exists_forall₂ (q := fun p => p.1 = name) (forall₂_of_bindingsOf compiled).flip
      (fun _ _ h => (MakesBinding.name_eq_iff h name).symm) bound
  obtain rfl : other = name := hlast.holds
  exact ⟨type, hlast, made⟩

/-- The guard of a name looks at the binding of its generated name. -/
theorem bound_iff_last_typeName (compiled : bindingsOf naming declarations = .ok bindings) :
    Bound bindings (naming.binding name) b ↔
      LastWhere (fun b => b.typeName = name) bindings b := by
  have hiff : ∀ c ∈ bindings, c.name = naming.binding name ↔ c.typeName = name := by
    intro c hc
    obtain ⟨declared, -, made⟩ := exists_left_of_forall₂ (forall₂_of_bindingsOf compiled) hc
    rw [← made.name_eq_iff, made.typeName_eq]
  exact LastWhere.congr hiff

end Module

end SchemaGuards
