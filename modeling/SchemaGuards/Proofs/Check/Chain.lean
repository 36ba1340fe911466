import SchemaGuards.Proofs.Check.Calls
import Mathlib.Logic.Relation

/-!
# What the chain of a check holds

The names on the chain are the references that were followed on the current value: they are
bound, they are distinct, and the schema of each leads to the current schema without a step
into the value. A name that is met while it is on the chain therefore leads back to itself.
-/

namespace SchemaGuards.Check

open Relation

/-- One step of a check that stays on a value: into a nullable schema, where the value is
not `null`, or to the target of a reference. -/
inductive Follows (bindings : List Binding) (value : Json) : Schema → Schema → Prop
  | inner {inner} (present : value ≠ .null) : Follows bindings value (.nullable inner) inner
  | reference {name required target} (bound : Module.Bound bindings name target) :
      Follows bindings value (.reference name required) target.schema

section Ends

variable {α : Type*} {r : α → α → Prop} {a b : α}

/-- Where every way ends, every way ends further on. -/
theorem acc_of_reflTransGen (ha : Acc (fun y x => r x y) a) (h : ReflTransGen r a b) :
    Acc (fun y x => r x y) b := by
  induction h with
  | refl => exact ha
  | tail _ step ih => exact ih.inv step

/-- Where every way ends, no way leads back. -/
theorem not_transGen_self_of_acc (h : Acc (fun y x => r x y) a) : ¬ TransGen r a a := by
  induction h with
  | intro a _ ih =>
      intro hloop
      obtain ⟨b, hab, hba⟩ := TransGen.head'_iff.mp hloop
      exact ih b hab (TransGen.tail' hba hab)

end Ends

namespace Call

variable {bindings : List Binding} {c d : Call}

/-- What holds of the chain of every call of a check. -/
structure WellChained (bindings : List Binding) (c : Call) : Prop where
  nodup : c.chain.Nodup
  leads : ∀ name ∈ c.chain, ∃ target value, Module.Bound bindings name target ∧
    c.value = some value ∧ ReflTransGen (Follows bindings value) target.schema c.schema

theorem wellChained_start {name : String} {target : Binding}
    (bound : Module.Bound bindings name target) (document : Json) :
    (start name target document).WellChained bindings := by
  refine ⟨by simp [start], fun n hn => ?_⟩
  obtain rfl := List.mem_singleton.mp hn
  exact ⟨target, document, bound, rfl, .refl⟩

/-- A call keeps what holds of the chain: a followed name is new and leads to its own
target, and a step into the value starts a new chain. -/
theorem WellChained.of_calls (hc : c.WellChained bindings) (h : Calls bindings c d) :
    d.WellChained bindings := by
  cases h with
  | inner present =>
      refine ⟨hc.nodup, fun name hn => ?_⟩
      obtain ⟨target, value, hb, rfl, hr⟩ := hc.leads name hn
      exact ⟨target, value, hb, rfl, hr.tail (.inner fun hnull => present (hnull ▸ rfl))⟩
  | @reference chain _ name _ value target fresh bound =>
      refine ⟨List.nodup_cons.mpr ⟨fresh, hc.nodup⟩, fun n hn => ?_⟩
      rcases List.mem_cons.mp hn with rfl | hn
      · exact ⟨target, value, bound, rfl, .refl⟩
      · obtain ⟨first, v, hb, hv, hr⟩ := hc.leads n hn
        exact ⟨first, v, hb, hv, hr.tail (.reference bound)⟩
  | element found => exact ⟨List.nodup_nil, nofun⟩
  | field declared => exact ⟨List.nodup_nil, nofun⟩

/-- A reference met while it is on the chain leads back to itself. -/
theorem WellChained.loop {chain : List String} {path : List Segment} {name : String}
    {required : Bool} {value : Json}
    (hc : WellChained bindings ⟨chain, path, .reference name required, some value⟩)
    (followed : name ∈ chain) :
    ∃ target, Module.Bound bindings name target ∧
      ReflTransGen (Follows bindings value) target.schema (.reference name required) := by
  obtain ⟨target, v, hb, hv, hr⟩ := hc.leads name followed
  obtain rfl := Option.some.inj hv
  exact ⟨target, hb, hr⟩

end Call

end SchemaGuards.Check
