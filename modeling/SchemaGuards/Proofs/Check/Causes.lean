import SchemaGuards.Proofs.Check.Chain
import SchemaGuards.Proofs.Check.Tests
import Mathlib.Order.WellFounded

/-!
# Why a check fails without a violation

A check of a document against a bound name fails without a violation for two reasons only:
a reference of the module names no binding, or references lead back to a name without a step
into the value. The second one is certain: a schema that leads into such a circle fails on
every value but `null`, which a nullable schema accepts before it is looked into.
-/

namespace SchemaGuards

open Relation

/-- A reference to a name occurs in a schema. -/
inductive Schema.Refers : Schema → String → Prop
  | here {name required} : Refers (.reference name required) name
  | inner {inner name} (h : Refers inner name) : Refers (.nullable inner) name
  | item {item required name} (h : Refers item name) : Refers (.array item required) name
  | field {fields : List Schema.Field} {required field name} (declared : field ∈ fields)
      (h : Refers field.2 name) : Refers (.object fields required) name

namespace Check

/-- One step from a schema to one that stands for the same value: into a nullable schema or
to the target of a reference. -/
inductive Aliases (bindings : List Binding) : Schema → Schema → Prop
  | inner {inner} : Aliases bindings (.nullable inner) inner
  | reference {name required target} (bound : Module.Bound bindings name target) :
      Aliases bindings (.reference name required) target.schema

/-- Steps into nullable schemas and along references lead from the binding of a name back to
that name. -/
def Circular (bindings : List Binding) (name : String) : Prop :=
  ∃ target required, Module.Bound bindings name target ∧
    ReflTransGen (Aliases bindings) target.schema (.reference name required)

/-- What the module has to be like for a failure: a violation may be of any module. -/
def Failure.Caused (bindings : List Binding) : Failure → Prop
  | .violation _ _ => True
  | .unknownBinding name =>
    (∀ b ∈ bindings, b.name ≠ name) ∧ ∃ b ∈ bindings, b.schema.Refers name
  | .circular name => Circular bindings name
  | .unknownType _ => False

variable {bindings : List Binding} {value : Json} {s t : Schema}

theorem Follows.aliases (h : Follows bindings value s t) : Aliases bindings s t := by
  cases h with
  | inner present => exact .inner
  | reference bound => exact .reference bound

theorem Aliases.follows (h : Aliases bindings s t) (present : value ≠ .null) :
    Follows bindings value s t := by
  cases h with
  | inner => exact .inner present
  | reference bound => exact .reference bound

/-- A reference behind a call stands in the call's schema or in a binding. -/
theorem Call.Calls.refers {c d : Call} (h : Calls bindings c d) {name : String}
    (hd : d.schema.Refers name) :
    c.schema.Refers name ∨ ∃ b ∈ bindings, b.schema.Refers name := by
  cases h with
  | inner present => exact Or.inl (.inner hd)
  | reference fresh bound => exact Or.inr ⟨_, bound.mem, hd⟩
  | element found => exact Or.inl (.item hd)
  | field declared => exact Or.inl (.field declared hd)

/-- Every failure of a check has its cause in the module. -/
theorem caused_of_answer_eq_error {e : Failure} (c : Call) (hc : c.WellChained bindings)
    (hrefers : ∀ name, c.schema.Refers name → ∃ b ∈ bindings, b.schema.Refers name)
    (h : c.answer bindings = .error e) : e.Caused bindings := by
  induction c using Call.induction bindings with
  | step c ih =>
      rcases Call.answer_eq_error h with ⟨d, hd, he⟩ | hown
      · exact ih d hd (hc.of_calls hd)
          (fun name hn => (hd.refers hn).elim (hrefers name) id) he
      · obtain ⟨chain, path, schema, v⟩ := c
        cases Call.refused_of_own hown with
        | @circular name required value schema met followed =>
            obtain rfl := schema
            obtain rfl := met
            obtain ⟨target, bound, back⟩ := hc.loop followed
            have aliased := ReflTransGen.mono (fun _ _ step => Follows.aliases step) _ _ back
            exact ⟨target, required, bound, aliased⟩
        | unbound schema met free =>
            obtain rfl := schema
            exact ⟨free, hrefers _ .here⟩
        | _ => trivial

/-- A call on a value whose schema leads on without an end fails as circular. -/
theorem circular_of_not_acc (c : Call) (hv : c.value = some value)
    (endless : ¬ Acc (fun t s => Follows bindings value s t) c.schema) :
    ∃ name, c.answer bindings = .error (.circular name) := by
  induction c using Call.induction bindings with
  | step c ih =>
      obtain ⟨t, ht, step⟩ := exists_not_acc_lt_of_not_acc endless
      obtain ⟨chain, path, schema, v⟩ := c
      obtain rfl := hv
      cases step with
      | inner present =>
          have hpresent : some value ≠ some .null := fun he => present (Option.some.inj he)
          rw [Call.answer_nullable hpresent]
          exact ih _ (.inner hpresent) rfl ht
      | @reference name _ target bound =>
          by_cases followed : name ∈ chain
          · exact ⟨name, Call.answer_reference_of_mem followed⟩
          · rw [Call.answer_reference followed bound]
            exact ih _ (.reference followed bound) rfl ht

/-- A schema from which steps that stay on a value run into a circle leads on without an
end, on every value but `null`. -/
theorem not_acc_of_circular {name : String} {required : Bool} (present : value ≠ .null)
    (circle : Circular bindings name)
    (entry : ReflTransGen (Aliases bindings) s (.reference name required)) :
    ¬ Acc (fun t s => Follows bindings value s t) s := by
  obtain ⟨target, required', bound, back⟩ := circle
  have follow {s t : Schema} (h : ReflTransGen (Aliases bindings) s t) :
      ReflTransGen (Follows bindings value) s t :=
    ReflTransGen.mono (fun _ _ step => Aliases.follows step present) _ _ h
  intro hacc
  have htarget : Acc (fun t s => Follows bindings value s t) target.schema := by
    have hentry := acc_of_reflTransGen hacc (follow entry)
    exact hentry.inv (.reference bound)
  exact not_transGen_self_of_acc htarget (TransGen.tail' (follow back) (.reference bound))

end Check

namespace Module

open Check

variable {m : Module} {name : String} {target : Binding} {document : Json}

/-- Every failure of a check against a bound name has its cause in the module. -/
theorem caused_of_validateBinding_eq_error {e : Failure} (bound : Bound m.bindings name target)
    (h : m.validateBinding name document = .error e) : e.Caused m.bindings := by
  rw [validateBinding_eq_answer bound] at h
  exact caused_of_answer_eq_error _ (Call.wellChained_start bound document)
    (fun x hx => ⟨target, bound.mem, hx⟩) h

/-- A name whose schema runs into a circle is circular on every document but `null`. -/
theorem exists_validateBinding_eq_circular {x : String} {required : Bool}
    (bound : Bound m.bindings name target) (circle : Circular m.bindings x)
    (entry : ReflTransGen (Aliases m.bindings) target.schema (.reference x required))
    (present : document ≠ .null) :
    ∃ y, m.validateBinding name document = .error (.circular y) := by
  rw [validateBinding_eq_answer bound]
  exact circular_of_not_acc _ rfl (not_acc_of_circular present circle entry)

/-- Where all references name bindings and there is no circle, every guard answers. -/
theorem exists_accepts_eq_ok
    (closed : ∀ b ∈ m.bindings, ∀ x, b.schema.Refers x → ∃ c ∈ m.bindings, c.name = x)
    (acyclic : ∀ x, ¬ Circular m.bindings x) {b : Binding} (hb : b ∈ m.bindings)
    (document : Json) : ∃ answer, m.accepts b.typeName document = .ok answer := by
  obtain ⟨target, declared⟩ :=
    LastWhere.exists_of_mem (p := fun c => c.typeName = b.typeName) hb rfl
  obtain ⟨last, bound⟩ := exists_bound_of_mem declared.mem
  rw [accepts, validate_eq_validateBinding declared]
  cases hresult : m.validateBinding target.name document with
  | ok u => exact ⟨true, rfl⟩
  | error e =>
      have hcause := caused_of_validateBinding_eq_error bound hresult
      cases e with
      | violation path reason => exact ⟨false, rfl⟩
      | unknownType x => exact hcause.elim
      | circular x => exact absurd hcause (acyclic x)
      | unknownBinding x =>
          obtain ⟨unbound, c, hc, hx⟩ := hcause
          obtain ⟨d, hd, hname⟩ := closed c hc x hx
          exact absurd hname (unbound d hd)

/-- Failures that are no violations have exactly their stated causes. An unknown binding is
named by a reference of the module and by no binding; a circular one has references leading
from its binding back to it. A name whose schema runs into such a circle is circular on every
document but `null`. Where all references name bindings and there is no circle, the guard of
every declared type answers. -/
theorem failures_caused (m : Module) :
    (∀ b ∈ m.bindings, ∀ document x,
      (m.validateBinding b.name document = .error (.unknownBinding x) →
        (∀ c ∈ m.bindings, c.name ≠ x) ∧ ∃ c ∈ m.bindings, c.schema.Refers x) ∧
      (m.validateBinding b.name document = .error (.circular x) → Circular m.bindings x)) ∧
    (∀ name target x required, Bound m.bindings name target → Circular m.bindings x →
      ReflTransGen (Aliases m.bindings) target.schema (.reference x required) →
      ∀ document, document ≠ .null →
        ∃ y, m.validateBinding name document = .error (.circular y)) ∧
    ((∀ b ∈ m.bindings, ∀ x, b.schema.Refers x → ∃ c ∈ m.bindings, c.name = x) →
      (∀ x, ¬ Circular m.bindings x) →
      ∀ b ∈ m.bindings, ∀ document, ∃ answer, m.accepts b.typeName document = .ok answer) := by
  refine ⟨fun b hb document x => ?_, ?_, ?_⟩
  · obtain ⟨target, bound⟩ := exists_bound_of_mem hb
    exact ⟨caused_of_validateBinding_eq_error bound, caused_of_validateBinding_eq_error bound⟩
  · intro name target x required bound circle entry document present
    exact exists_validateBinding_eq_circular bound circle entry present
  · intro closed acyclic b hb document
    exact exists_accepts_eq_ok closed acyclic hb document

/-- A field with a dangling reference, a circle of two aliases and an alias that leads into
it. -/
def tangled : Module :=
  ⟨"./input", [⟨"A", "isA", "A", .object [("b", .reference "Missing" true)] false⟩,
    ⟨"X", "isX", "X", .reference "Y" false⟩,
    ⟨"Y", "isY", "Y", .nullable (.reference "X" false)⟩,
    ⟨"Entry", "isEntry", "Entry", .reference "Y" false⟩]⟩

/-- A list of nodes, each of which refers to its own type below a field. -/
def linked : Module :=
  ⟨"./input", [⟨"Node", "isNode", "Node", .object [("value", .primitive .number true),
    ("next", .nullable (.reference "Node" false))] false⟩]⟩

theorem failures_caused_tangled :
    (tangled.validateBinding "A" (.object [("b", .bool true)]) =
        .error (.unknownBinding "Missing") ∧
      ∃ c ∈ tangled.bindings, c.schema.Refers "Missing") ∧
    (∃ y, tangled.validateBinding "Entry" (.bool true) = .error (.circular y)) ∧
    ∃ answer, linked.accepts "Node" (.bool true) = .ok answer := by
  refine ⟨?_, ?_, ?_⟩
  · let a : Binding := ⟨"A", "isA", "A", .object [("b", .reference "Missing" true)] false⟩
    have boundA : Bound tangled.bindings "A" a := binding?_eq_some_iff.mp rfl
    have field : Call.answer tangled.bindings
        ⟨[], [.key "b"], .reference "Missing" true, some (.bool true)⟩ =
          .error (.unknownBinding "Missing") := by
      rw [Call.answer_eq]
      rfl
    have fields : (Call.start "A" a (.object [("b", .bool true)])).next tangled.bindings =
        [⟨[], [.key "b"], .reference "Missing" true, some (.bool true)⟩] := rfl
    have h : tangled.validateBinding "A" (.object [("b", .bool true)]) =
        .error (.unknownBinding "Missing") := by
      rw [validateBinding_eq_answer boundA, Call.answer_eq, fields]
      simp only [List.forM_eq_forM, List.forM_cons, field]
      rfl
    exact ⟨h, (((failures_caused tangled).1 _ (.head _) _ "Missing").1 h).2⟩
  · have boundY : Bound tangled.bindings "Y"
        ⟨"Y", "isY", "Y", .nullable (.reference "X" false)⟩ :=
      binding?_eq_some_iff.mp rfl
    have boundX : Bound tangled.bindings "X" ⟨"X", "isX", "X", .reference "Y" false⟩ :=
      binding?_eq_some_iff.mp rfl
    have bound : Bound tangled.bindings "Entry"
        ⟨"Entry", "isEntry", "Entry", .reference "Y" false⟩ :=
      binding?_eq_some_iff.mp rfl
    have circle : Circular tangled.bindings "Y" :=
      ⟨_, false, boundY, .head .inner (.single (.reference boundX))⟩
    exact (failures_caused tangled).2.1 "Entry" _ "Y" false bound circle .refl _ nofun
  · refine (failures_caused linked).2.2 ?_ ?_ _ (.head _) _
    · intro b hb x hx
      obtain rfl := List.mem_singleton.mp hb
      cases hx with
      | field declared h =>
          rcases List.mem_pair.mp declared with rfl | rfl
          · cases h
          · cases h with
            | inner h => cases h with
              | here => exact ⟨_, .head _, rfl⟩
    · rintro x ⟨target, required, bound, circle⟩
      obtain rfl := List.mem_singleton.mp bound.mem
      rcases ReflTransGen.cases_head circle with h | ⟨s, step, -⟩
      · cases h
      · cases step

end Module

end SchemaGuards
