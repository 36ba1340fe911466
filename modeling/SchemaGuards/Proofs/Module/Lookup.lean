import SchemaGuards.Module.Basic
import Mathlib.Data.List.Forall2

/-!
# The last of a name

Where a name is bound or declared twice, the last occurrence counts. The look-ups of a
module search the reversed list; here they are read as a decomposition of the list itself.
-/

namespace SchemaGuards

/-- What is related to a list element by element comes from an element of it. -/
theorem exists_left_of_forall₂ {α β : Type*} {r : α → β → Prop} {items : List α}
    {others : List β} (h : List.Forall₂ r items others) {b : β} (hb : b ∈ others) :
    ∃ a ∈ items, r a b := by
  induction h with
  | nil => cases hb
  | cons hab _ ih =>
      rcases List.mem_cons.mp hb with rfl | hb
      · exact ⟨_, .head _, hab⟩
      · obtain ⟨a, ha, hr⟩ := ih hb
        exact ⟨a, .tail _ ha, hr⟩

/-- The first elements that pass a test are related, where related elements pass it together. -/
theorem rel_find? {α β : Type*} {r : α → β → Prop} {p : α → Bool} {q : β → Bool} {items : List α}
    {others : List β} (each : List.Forall₂ r items others) (same : ∀ a b, r a b → q b = p a) :
    Option.Rel r (items.find? p) (others.find? q) := by
  induction each with
  | nil => exact .none
  | @cons a b as bs h _ ih =>
      rw [List.find?_cons, List.find?_cons, same a b h]
      cases p a with
      | true => exact .some h
      | false => exact ih

/-- The last element of a list that has a property. -/
def LastWhere {α : Type*} (p : α → Prop) (items : List α) (x : α) : Prop :=
  ∃ earlier later, items = earlier ++ x :: later ∧ p x ∧ ∀ y ∈ later, ¬ p y

namespace LastWhere

variable {α : Type*} {p : α → Prop} {items : List α} {x y : α}

theorem mem (h : LastWhere p items x) : x ∈ items := by
  obtain ⟨earlier, later, rfl, -, -⟩ := h
  simp

theorem holds (h : LastWhere p items x) : p x := by
  obtain ⟨_, _, -, hx, -⟩ := h
  exact hx

/-- The last occurrence is the first one from the end. -/
theorem iff_reverse_find? {q : α → Bool} :
    LastWhere (fun a => q a = true) items x ↔ items.reverse.find? q = some x := by
  rw [List.find?_eq_some_iff_append]
  constructor
  · rintro ⟨earlier, later, rfl, hx, hl⟩
    exact ⟨hx, later.reverse, earlier.reverse, by simp, by simpa using hl⟩
  · rintro ⟨hx, later, earlier, he, hl⟩
    refine ⟨earlier.reverse, later.reverse, ?_, hx, by simpa using hl⟩
    simpa using congrArg List.reverse he

open Classical in
/-- At most one element is the last. -/
theorem unique (hx : LastWhere p items x) (hy : LastWhere p items y) : x = y := by
  have hp : (fun a => decide (p a) = true) = p := by simp
  rw [← hp, iff_reverse_find?] at hx hy
  exact Option.some.inj (hx.symm.trans hy)

open Classical in
/-- If an element has the property, one is the last. -/
theorem exists_of_mem (hx : x ∈ items) (h : p x) : ∃ y, LastWhere p items y := by
  have hp : (fun a => decide (p a) = true) = p := by simp
  have hfound : (items.reverse.find? fun a => decide (p a)).isSome := by
    rw [List.find?_isSome]
    exact ⟨x, by simpa using hx, by simpa using h⟩
  obtain ⟨y, hy⟩ := Option.isSome_iff_exists.mp hfound
  rw [← iff_reverse_find?, hp] at hy
  exact ⟨y, hy⟩

theorem congr {q : α → Prop} (h : ∀ y ∈ items, p y ↔ q y) :
    LastWhere p items x ↔ LastWhere q items x := by
  constructor
  · rintro ⟨earlier, later, rfl, hx, hl⟩
    exact ⟨earlier, later, rfl, (h x (by simp)).mp hx, fun y hy hq =>
      hl y hy ((h y (by simp [hy])).mpr hq)⟩
  · rintro ⟨earlier, later, rfl, hx, hl⟩
    exact ⟨earlier, later, rfl, (h x (by simp)).mpr hx, fun y hy hp =>
      hl y hy ((h y (by simp [hy])).mp hp)⟩

/-- Where no two elements have the property, the one that has it is the last. -/
theorem iff_mem_of_unique (alone : ∀ y ∈ items, ∀ z ∈ items, p y → p z → y = z) :
    LastWhere p items x ↔ x ∈ items ∧ p x := by
  constructor
  · intro h
    exact ⟨h.mem, h.holds⟩
  · rintro ⟨hx, hp⟩
    obtain ⟨y, hy⟩ := exists_of_mem hx hp
    exact alone y hy.mem x hx hy.holds hp ▸ hy

theorem cons_iff :
    LastWhere p (y :: items) x ↔
      LastWhere p items x ∨ y = x ∧ p x ∧ ∀ z ∈ items, ¬ p z := by
  constructor
  · rintro ⟨earlier, later, he, hx, hl⟩
    cases earlier with
    | nil =>
        obtain ⟨rfl, rfl⟩ := List.cons.inj he
        exact Or.inr ⟨rfl, hx, hl⟩
    | cons z earlier =>
        obtain ⟨-, rfl⟩ := List.cons.inj he
        exact Or.inl ⟨earlier, later, rfl, hx, hl⟩
  · rintro (⟨earlier, later, rfl, hx, hl⟩ | ⟨rfl, hx, hl⟩)
    · exact ⟨y :: earlier, later, rfl, hx, hl⟩
    · exact ⟨[], items, rfl, hx, hl⟩

/-- The last elements of two lists that are related element by element are related. -/
theorem exists_forall₂ {β : Type*} {r : α → β → Prop} {q : β → Prop} {others : List β}
    (h : List.Forall₂ r items others) (hpq : ∀ a b, r a b → (p a ↔ q b))
    (hx : LastWhere p items x) : ∃ b, LastWhere q others b ∧ r x b := by
  induction h with
  | nil => cases hx.mem
  | @cons a b as bs hab has ih =>
      rcases cons_iff.mp hx with hlast | ⟨rfl, ha, hl⟩
      · obtain ⟨c, hc, hr⟩ := ih hlast
        exact ⟨c, cons_iff.mpr (Or.inl hc), hr⟩
      · refine ⟨b, cons_iff.mpr (Or.inr ⟨rfl, (hpq _ _ hab).mp ha, fun z hz hq => ?_⟩), hab⟩
        obtain ⟨c, hc, hcz⟩ := exists_left_of_forall₂ has hz
        exact hl c hc ((hpq _ _ hcz).mpr hq)

end LastWhere

namespace Module

variable {bindings : List Binding} {name : String} {target : Binding}

/-- What a name is bound to: the last binding of that name. -/
def Bound (bindings : List Binding) (name : String) (target : Binding) : Prop :=
  LastWhere (fun b => b.name = name) bindings target

theorem binding?_eq_some_iff :
    binding? bindings name = some target ↔ Bound bindings name target := by
  rw [binding?, ← LastWhere.iff_reverse_find?]
  simp [Bound]

theorem binding?_eq_none_iff :
    binding? bindings name = none ↔ ∀ b ∈ bindings, b.name ≠ name := by
  simp [binding?]

theorem bindingOfType?_eq_some_iff :
    bindingOfType? bindings name = some target ↔
      LastWhere (fun b => b.typeName = name) bindings target := by
  rw [bindingOfType?, ← LastWhere.iff_reverse_find?]
  simp

section Related

variable {r : Binding → Binding → Prop} {bindings' : List Binding}

theorem rel_binding? (each : List.Forall₂ r bindings bindings')
    (same : ∀ b b', r b b' → b'.name = b.name) (name : String) :
    Option.Rel r (binding? bindings name) (binding? bindings' name) :=
  rel_find? (List.rel_reverse each) fun b b' h => by rw [same b b' h]

theorem rel_bindingOfType? (each : List.Forall₂ r bindings bindings')
    (same : ∀ b b', r b b' → b'.typeName = b.typeName) (name : String) :
    Option.Rel r (bindingOfType? bindings name) (bindingOfType? bindings' name) :=
  rel_find? (List.rel_reverse each) fun b b' h => by rw [same b b' h]

end Related

theorem Bound.name_eq (h : Bound bindings name target) : target.name = name :=
  LastWhere.holds (p := fun b : Binding => b.name = name) h

theorem Bound.mem (h : Bound bindings name target) : target ∈ bindings :=
  LastWhere.mem h

/-- Every binding has a name that is bound, to itself or to a later binding. -/
theorem exists_bound_of_mem (h : target ∈ bindings) : ∃ b, Bound bindings target.name b :=
  LastWhere.exists_of_mem h rfl

end Module

end SchemaGuards
