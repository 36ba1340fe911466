import SchemaGuards.Json.Basic
import SchemaGuards.Proofs.Rearranged

/-!
# Documents with keys in another order

Objects of two documents may list their entries in different orders. A key is found in both or in
neither, with values that differ in the order of keys alone, since objects have distinct keys.
-/

namespace SchemaGuards.Json

mutual

/-- Two documents differ only by the order of object keys, at any depth. -/
inductive Reordered : Json → Json → Prop
  | null : Reordered null null
  | bool (value) : Reordered (bool value) (bool value)
  | number (literal) : Reordered (number literal) (number literal)
  | text (value) : Reordered (text value) (text value)
  | list {items items'} (each : List.Forall₂ Reordered items items') :
      Reordered (list items) (list items')
  | object {entries entries'} (distinct : (entries.map (·.1)).Nodup)
      (order : Rearranged ReorderedEntry entries entries') :
      Reordered (object entries) (object entries')

/-- Two entries have the same key, and values that differ only by the order of object keys. -/
inductive ReorderedEntry : String × Json → String × Json → Prop
  | mk (key) {value value'} (h : Reordered value value') : ReorderedEntry (key, value) (key, value')

end

variable {entries entries' : List (String × Json)} {key : String}

theorem keys_perm (order : Rearranged ReorderedEntry entries entries') :
    (entries.map (·.1)).Perm (entries'.map (·.1)) := by
  induction order with
  | nil => exact .nil
  | cons h _ ih =>
      obtain ⟨key, -⟩ := h
      exact ih.cons key
  | reorder _ order ih => exact ih.trans (order.map _)

theorem Reordered.symm {document document' : Json} (h : document.Reordered document') :
    document'.Reordered document :=
  @Reordered.rec (fun d d' _ => d'.Reordered d) (fun e e' _ => ReorderedEntry e' e)
    (fun items items' _ => List.Forall₂ Reordered items' items)
    (fun entries entries' _ => Rearranged ReorderedEntry entries' entries)
    .null .bool .number .text (fun _ => .list)
    (fun distinct order => .object ((keys_perm order).nodup_iff.mp distinct))
    (fun key _ _ _ => .mk key) .nil (fun _ _ => .cons)
    .nil (fun _ _ => .cons) (fun _ order h => h.reorder_left order.symm) document document' h

theorem lookup?_eq_none_iff : lookup? key entries = none ↔ key ∉ entries.map (·.1) := by
  induction entries with
  | nil => simp [lookup?]
  | cons entry rest ih =>
      obtain ⟨k, v⟩ := entry
      by_cases hk : k = key
      · simp [lookup?, hk]
      · simp [lookup?, hk, ih, Ne.symm hk]

/-- Where keys are distinct, an entry is what is found under its key. -/
theorem lookup?_eq_some_iff (distinct : (entries.map (·.1)).Nodup) {value : Json} :
    lookup? key entries = some value ↔ (key, value) ∈ entries := by
  refine ⟨mem_of_lookup?, fun h => ?_⟩
  have hkey : key ∈ entries.map (·.1) := List.mem_map.mpr ⟨_, h, rfl⟩
  cases found : lookup? key entries with
  | none => exact absurd hkey (lookup?_eq_none_iff.mp found)
  | some other =>
      have same := List.inj_on_of_nodup_map distinct (mem_of_lookup? found) h rfl
      rw [(Prod.mk.inj same).2]

/-- What is found under a key is found before the keys were put in another order, up to the order
of keys inside. -/
theorem exists_lookup?_reordered (distinct : (entries.map (·.1)).Nodup)
    (order : Rearranged ReorderedEntry entries entries') {value' : Json}
    (found : lookup? key entries' = some value') :
    ∃ value, lookup? key entries = some value ∧ value.Reordered value' := by
  obtain ⟨⟨_, value⟩, hmem, h⟩ := order.exists_left _ (mem_of_lookup? found)
  cases h with
  | mk _ h => exact ⟨value, (lookup?_eq_some_iff distinct).mpr hmem, h⟩

theorem lookup?_eq_none_reordered (order : Rearranged ReorderedEntry entries entries') :
    lookup? key entries' = none ↔ lookup? key entries = none := by
  rw [lookup?_eq_none_iff, lookup?_eq_none_iff, (keys_perm order).mem_iff]

end SchemaGuards.Json
