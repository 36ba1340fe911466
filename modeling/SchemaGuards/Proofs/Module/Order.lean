import SchemaGuards.Proofs.Module.Source
import SchemaGuards.Proofs.Schema.References

/-!
# The order of bindings

The text of a module holds one constant for each binding, in the order of the declarations,
and a reference stands there as the bare name of the constant. Such a text can be evaluated
from top to bottom only if every reference names a constant before it.

Nothing brings the bindings into such an order. It is exactly the sources whose types
mention only types declared before them that have it; a type that mentions itself, or one
declared later, compiles all the same.
-/

namespace SchemaGuards

/-- Whatever the items of a list use is the name of an item before the one that uses it. -/
def NamedBefore {α : Type} (name : α → String) (uses : α → String → Prop) (items : List α) :
    Prop :=
  ∀ i, ∀ h : i < items.length, ∀ x, uses items[i] x → x ∈ (items.take i).map name

/-- Whatever the items of a list use is the name of an item of the list. -/
def AllNamed {α : Type} (name : α → String) (uses : α → String → Prop) (items : List α) : Prop :=
  ∀ a ∈ items, ∀ x, uses a x → x ∈ items.map name

section Listed

variable {α : Type} {name : α → String} {uses : α → String → Prop} {used : α → List String}

theorem namedBefore_iff_listed (h : ∀ a x, x ∈ used a ↔ uses a x) (items : List α) :
    NamedBefore name uses items ↔
      ∀ i : Fin items.length, ∀ x ∈ used items[i], x ∈ (items.take i).map name := by
  simp only [h]
  exact ⟨fun hbefore i => hbefore i i.isLt, fun hbefore i hi => hbefore ⟨i, hi⟩⟩

theorem allNamed_iff_listed (h : ∀ a x, x ∈ used a ↔ uses a x) (items : List α) :
    AllNamed name uses items ↔ ∀ a ∈ items, ∀ x ∈ used a, x ∈ items.map name := by
  simp only [h, AllNamed]

end Listed

section Related

variable {α β : Type} {name : α → String} {uses : α → String → Prop} {name' : β → String}
  {uses' : β → String → Prop} {r : α → β → Prop} {f : String → String} {items : List α}
  {others : List β}

/-- The names of related items differ by the same map. -/
theorem map_name_eq_of_forall₂ (h : List.Forall₂ r items others)
    (hname : ∀ a b, r a b → name' b = f (name a)) :
    others.map name' = (items.map name).map f := by
  induction h with
  | nil => rfl
  | cons hab _ ih => rw [List.map_cons, List.map_cons, List.map_cons, ih, hname _ _ hab]

/-- An order is kept by an injective map of the names. -/
theorem namedBefore_iff_of_forall₂ (h : List.Forall₂ r items others)
    (hf : Function.Injective f) (hname : ∀ a b, r a b → name' b = f (name a))
    (huses : ∀ a b, r a b → ∀ x, uses' b x ↔ ∃ y, uses a y ∧ f y = x) :
    NamedBefore name' uses' others ↔ NamedBefore name uses items := by
  have hlen := h.length_eq
  have hbefore (i : Nat) : (others.take i).map name' = ((items.take i).map name).map f :=
    map_name_eq_of_forall₂ (List.forall₂_take i h) hname
  constructor
  · intro hothers i hi y hy
    have hb : i < others.length := hlen ▸ hi
    have hx := hothers i hb (f y) ((huses _ _ (h.get hi hb) _).mpr ⟨y, hy, rfl⟩)
    rw [hbefore] at hx
    exact (List.mem_map_of_injective hf).mp hx
  · intro hitems i hi x hx
    have ha : i < items.length := hlen ▸ hi
    obtain ⟨y, hy, rfl⟩ := (huses _ _ (h.get ha hi) _).mp hx
    rw [hbefore]
    exact List.mem_map_of_mem (hitems i ha y hy)

end Related

namespace Declaration

/-- Every type mentions only types that are declared before it. -/
def InOrder (declarations : List Declaration) : Prop :=
  NamedBefore (·.1) (fun d name => d.2.Mentions name) (declarations.filterMap declared?)

end Declaration

namespace Module

/-- Every reference names a binding before the one in whose schema it occurs. -/
def InOrder (bindings : List Binding) : Prop :=
  NamedBefore Binding.name (fun b name => b.schema.Refers name) bindings

/-- Every reference names a binding. -/
def Closed (bindings : List Binding) : Prop :=
  AllNamed Binding.name (fun b name => b.schema.Refers name) bindings

instance (bindings : List Binding) : Decidable (InOrder bindings) :=
  decidable_of_iff _ (namedBefore_iff_listed (fun _ _ => Schema.mem_references_iff) bindings).symm

instance (bindings : List Binding) : Decidable (Closed bindings) :=
  decidable_of_iff _ (allNamed_iff_listed (fun _ _ => Schema.mem_references_iff) bindings).symm

variable {naming : Naming} {declarations : List Declaration} {bindings : List Binding}
  {label source : String} {m : Module}

theorem inOrder_iff_of_bindingsOf (compiled : bindingsOf naming declarations = .ok bindings) :
    InOrder bindings ↔ Declaration.InOrder declarations := by
  refine namedBefore_iff_of_forall₂ (forall₂_of_bindingsOf compiled) (f := naming.binding)
    ?_ ?_ ?_
  · intro x y h
    exact (String.append_left_inj naming.suffix).mp h
  · rintro declared b ⟨s, -, rfl⟩
    rfl
  · rintro declared b ⟨s, lowered, rfl⟩ x
    exact TypeExpr.refers_iff_exists_mentions lowered

/-- Whatever the suffix, every reference of a compiled source names an earlier binding exactly
when every type of the source mentions only types declared before it. -/
theorem inOrder_iff_declared_inOrder (compiled : ofSource naming label source = .ok m) :
    ∃ declarations, Syntax.parseModule source = .ok declarations ∧
      (InOrder m.bindings ↔ Declaration.InOrder declarations) := by
  obtain ⟨declarations, parsed, hb⟩ := exists_of_ofSource_eq_ok compiled
  exact ⟨declarations, parsed, inOrder_iff_of_bindingsOf hb⟩

/-- Tags that are declared before the user who has them. -/
theorem inOrder_iff_declared_inOrder_tags :
    ∃ m declarations,
      ofSource ⟨"V"⟩ "input" "type Tags=string[];interface User{tags?:Tags|null}" = .ok m ∧
      Syntax.parseModule "type Tags=string[];interface User{tags?:Tags|null}" =
        .ok declarations ∧
      InOrder m.bindings ∧ Declaration.InOrder declarations := by
  have h : ∃ m, ofSource ⟨"V"⟩ "input" "type Tags=string[];interface User{tags?:Tags|null}" =
      .ok m ∧ InOrder m.bindings := by decide +kernel
  obtain ⟨m, compiled, ordered⟩ := h
  obtain ⟨declarations, parsed, hiff⟩ := inOrder_iff_declared_inOrder compiled
  exact ⟨m, declarations, compiled, parsed, ordered, hiff.mp ordered⟩

/-- An alias of a type that is declared after it compiles, with a reference to a later
binding. -/
theorem not_inOrder_of_later_declaration :
    ∃ m, ofSource ⟨""⟩ "input" "type A = B;\ntype B = string;" = .ok m ∧
      Closed m.bindings ∧ ¬ InOrder m.bindings := by decide +kernel

end Module

end SchemaGuards
