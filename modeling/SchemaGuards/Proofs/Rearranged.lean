import Mathlib.Data.List.Permutation

/-!
# Lists in another order

Two lists hold related elements, each on one side with one on the other, in whatever order. Trees
whose children may stand in any order are compared with it at every node.
-/

namespace SchemaGuards

/-- The second list holds elements related to those of the first one, in some order. -/
inductive Rearranged {α β : Type} (r : α → β → Prop) : List α → List β → Prop
  | nil : Rearranged r [] []
  | cons {a b items others} (h : r a b) (rest : Rearranged r items others) :
      Rearranged r (a :: items) (b :: others)
  | reorder {items others others'} (h : Rearranged r items others) (order : others.Perm others') :
      Rearranged r items others'

namespace Rearranged

variable {α β γ δ : Type} {r : α → β → Prop} {items : List α} {others : List β}

theorem of_forall₂ (each : List.Forall₂ r items others) : Rearranged r items others := by
  induction each with
  | nil => exact .nil
  | cons h _ ih => exact .cons h ih

/-- The elements can be put in the order of those they are related to. -/
theorem exists_forall₂ (h : Rearranged r items others) :
    ∃ middle, List.Forall₂ r items middle ∧ middle.Perm others := by
  induction h with
  | nil => exact ⟨[], .nil, .nil⟩
  | cons h _ ih =>
      obtain ⟨middle, each, order⟩ := ih
      exact ⟨_, .cons h each, order.cons _⟩
  | reorder _ order ih =>
      obtain ⟨middle, each, order'⟩ := ih
      exact ⟨middle, each, order'.trans order⟩

/-- The first list may be put in another order as well. -/
theorem reorder_left {items' : List α} (order : items'.Perm items)
    (h : Rearranged r items others) : Rearranged r items' others := by
  obtain ⟨middle, each, order'⟩ := h.exists_forall₂
  obtain ⟨middle', each', order''⟩ := List.perm_comp_forall₂ order each
  exact (of_forall₂ each').reorder (order''.trans order')

theorem exists_right (h : Rearranged r items others) : ∀ a ∈ items, ∃ b ∈ others, r a b := by
  induction h with
  | nil => nofun
  | @cons a b items others h _ ih =>
      intro c hc
      rcases List.mem_cons.mp hc with rfl | hc
      · exact ⟨b, .head _, h⟩
      · obtain ⟨d, hd, hr⟩ := ih c hc
        exact ⟨d, .tail _ hd, hr⟩
  | reorder _ order ih =>
      intro a ha
      obtain ⟨b, hb, hr⟩ := ih a ha
      exact ⟨b, order.mem_iff.mp hb, hr⟩

theorem exists_left (h : Rearranged r items others) : ∀ b ∈ others, ∃ a ∈ items, r a b := by
  induction h with
  | nil => nofun
  | @cons a b items others h _ ih =>
      intro d hd
      rcases List.mem_cons.mp hd with rfl | hd
      · exact ⟨a, .head _, h⟩
      · obtain ⟨c, hc, hr⟩ := ih d hd
        exact ⟨c, .tail _ hc, hr⟩
  | reorder _ order ih =>
      intro b hb
      exact ih b (order.mem_iff.mpr hb)

/-- What is kept of two lists is rearranged, where of related elements both are kept or none. -/
theorem filterMap {s : γ → δ → Prop} {f : α → Option γ} {g : β → Option δ}
    (h : Rearranged r items others) (related : ∀ a b, r a b → Option.Rel s (f a) (g b)) :
    Rearranged s (items.filterMap f) (others.filterMap g) := by
  obtain ⟨middle, each, order⟩ := h.exists_forall₂
  have kept := List.rel_filterMap (fun _ _ h => related _ _ h) each
  exact (of_forall₂ kept).reorder (order.filterMap g)

end Rearranged

end SchemaGuards
