import SchemaGuards.Proofs.Check.Chain
import SchemaGuards.Proofs.Check.Tests

/-!
# What a schema accepts

Acceptance is the least relation that is closed under the rules of the schemas. It knows of
no chain: a reference accepts what the schema of its target accepts. The check decides it,
for every module. What has a finite derivation never meets a reference twice on one value,
because a reference that leads back to itself would need a derivation of itself.
-/

namespace SchemaGuards.Check

open Relation

/-- The values that a schema accepts, where `none` is a missing value. -/
inductive Accepts (bindings : List Binding) : Schema → Option Json → Prop
  | null {inner} : Accepts bindings (.nullable inner) (some .null)
  | nullable {inner value} (h : Accepts bindings inner value) :
      Accepts bindings (.nullable inner) value
  | missing {schema} (optional : schema.flag? = some false) : Accepts bindings schema none
  | reference {name required target value} (bound : Module.Bound bindings name target)
      (h : Accepts bindings target.schema (some value)) :
      Accepts bindings (.reference name required) (some value)
  | primitive {kind required value} (holds : isOfKind kind value = true) :
      Accepts bindings (.primitive kind required) (some value)
  | enumeration {values required s} (listed : s ∈ values) :
      Accepts bindings (.enumeration values required) (some (.text s))
  | array {item required elements} (h : ∀ e ∈ elements, Accepts bindings item (some e)) :
      Accepts bindings (.array item required) (some (.list elements))
  | object {fields required entries}
      (h : ∀ f ∈ fields, Accepts bindings f.2 (Json.lookup? f.1 entries))
      (known : ∀ e ∈ entries, ∃ f ∈ fields, f.1 = e.1) :
      Accepts bindings (.object fields required) (some (.object entries))

variable {bindings : List Binding}

/-- What accepts a value leads on it to an end: a way without an end has no derivation. -/
theorem Accepts.acc_follows {schema : Schema} {value : Json}
    (h : Accepts bindings schema (some value)) :
    Acc (fun t s => Follows bindings value s t) schema := by
  generalize hv : some value = given at h
  induction h with
  | null =>
      obtain rfl := Option.some.inj hv
      refine Acc.intro _ fun t ht => ?_
      cases ht with
      | inner present => exact absurd rfl present
  | nullable _ ih =>
      refine Acc.intro _ fun t ht => ?_
      cases ht with
      | inner present => exact ih hv
  | @reference name _ target v bound _ ih =>
      refine Acc.intro _ fun t ht => ?_
      cases ht with
      | reference bound' => exact LastWhere.unique bound bound' ▸ ih hv
  | missing => cases hv
  | primitive | enumeration | array | object => exact Acc.intro _ fun t ht => nomatch ht

section Own

variable {chain : List String} {path : List Segment} {required : Bool}

theorem own_reference_eq_ok_iff {name : String} {value : Json} :
    Call.own bindings ⟨chain, path, .reference name required, some value⟩ = .ok () ↔
      name ∉ chain ∧ ∃ target, Module.Bound bindings name target := by
  simp only [Call.own, ← Module.binding?_eq_some_iff]
  by_cases hc : name ∈ chain
  · simp [hc]
  · cases Module.binding? bindings name <;> simp [hc]

theorem own_object_eq_ok_iff {fields : List Schema.Field} {entries : List (String × Json)} :
    Call.own bindings ⟨chain, path, .object fields required, some (.object entries)⟩ = .ok () ↔
      ∀ e ∈ entries, ∃ f ∈ fields, f.1 = e.1 := by
  rw [← unknownKey?_eq_none_iff, Call.own]
  cases unknownKey? fields entries <;> simp [violated]

end Own

/-- A check that succeeds has a derivation. -/
theorem accepts_of_answer (c : Call) (h : c.answer bindings = .ok ()) :
    Accepts bindings c.schema c.value := by
  induction c using Call.induction bindings with
  | step c ih =>
      obtain ⟨hcalls, hown⟩ := Call.answer_eq_ok_iff.mp h
      have hnext {d : Call} (hd : Call.Calls bindings c d) : Accepts bindings d.schema d.value :=
        ih d hd (hcalls d hd)
      obtain ⟨chain, path, schema, value⟩ := c
      cases value with
      | none =>
          cases schema with
          | nullable inner => exact .nullable (hnext (.inner nofun))
          | _ => exact .missing (congrArg some (absent_eq_ok_iff.mp hown))
      | some value =>
          cases schema with
          | nullable inner =>
              by_cases hv : value = .null
              · exact hv ▸ .null
              · exact .nullable (hnext (.inner fun he => hv (Option.some.inj he)))
          | primitive kind required => exact .primitive (checkPrimitive_eq_ok_iff.mp hown)
          | enumeration values required =>
              obtain ⟨s, hs, rfl⟩ := checkListed_eq_ok_iff.mp hown
              exact .enumeration hs
          | reference name required =>
              obtain ⟨fresh, target, bound⟩ := own_reference_eq_ok_iff.mp hown
              exact .reference bound (hnext (.reference fresh bound))
          | array item required =>
              cases value with
              | list elements =>
                  refine .array fun e he => ?_
                  obtain ⟨position, found⟩ := List.getElem?_of_mem he
                  exact hnext (.element found)
              | _ => cases hown
          | object fields required =>
              cases value with
              | object entries =>
                  have known := own_object_eq_ok_iff.mp hown
                  exact .object (fun f hf => hnext (.field hf)) known
              | _ => cases hown

/-- What has a derivation succeeds, whatever references were followed to get there. -/
theorem answer_of_accepts {schema : Schema} {value : Option Json}
    (h : Accepts bindings schema value) :
    ∀ chain path, Call.WellChained bindings ⟨chain, path, schema, value⟩ →
      Call.answer bindings ⟨chain, path, schema, value⟩ = .ok () := by
  induction h with
  | null =>
      intro chain path _
      refine Call.answer_eq_ok_iff.mpr ⟨fun d hd => ?_, rfl⟩
      cases hd with
      | inner present => exact absurd rfl present
  | nullable _ ih =>
      intro chain path hc
      refine Call.answer_eq_ok_iff.mpr ⟨fun d hd => ?_, rfl⟩
      cases hd with
      | inner present => exact ih chain path (hc.of_calls (.inner present))
  | @missing schema optional =>
      intro chain path _
      refine Call.answer_eq_ok_iff.mpr ⟨fun d hd => ?_, ?_⟩
      · cases hd with
        | inner present => cases optional
      · cases schema with
        | nullable inner => rfl
        | _ => exact absent_eq_ok_iff.mpr (Option.some.inj optional)
  | @reference name required target value bound h ih =>
      intro chain path hc
      have fresh : name ∉ chain := by
        -- a followed name would lead back to itself, and then it has no derivation
        intro followed
        obtain ⟨target', bound', back⟩ := hc.loop followed
        have here : Accepts bindings (.reference name required) (some value) :=
          .reference bound h
        have hacc := here.acc_follows
        exact not_transGen_self_of_acc hacc (TransGen.head' (.reference bound') back)
      refine Call.answer_eq_ok_iff.mpr
        ⟨fun d hd => ?_, own_reference_eq_ok_iff.mpr ⟨fresh, target, bound⟩⟩
      cases hd with
      | reference fresh' bound' =>
          obtain rfl := LastWhere.unique bound bound'
          exact ih _ path (hc.of_calls (.reference fresh bound))
  | primitive holds =>
      intro chain path _
      refine Call.answer_eq_ok_iff.mpr ⟨nofun, ?_⟩
      exact checkPrimitive_eq_ok_iff.mpr holds
  | @enumeration values required s listed =>
      intro chain path _
      refine Call.answer_eq_ok_iff.mpr ⟨nofun, ?_⟩
      exact checkListed_eq_ok_iff.mpr ⟨s, listed, rfl⟩
  | array _ ih =>
      intro chain path hc
      refine Call.answer_eq_ok_iff.mpr ⟨fun d hd => ?_, rfl⟩
      cases hd with
      | element found =>
          exact ih _ (List.mem_of_getElem? found) [] _ (hc.of_calls (.element found))
  | object _ known ih =>
      intro chain path hc
      refine Call.answer_eq_ok_iff.mpr ⟨fun d hd => ?_, own_object_eq_ok_iff.mpr known⟩
      cases hd with
      | field declared => exact ih _ declared [] _ (hc.of_calls (.field declared))

/-- The check decides acceptance on every call that a document's check can reach. -/
theorem answer_eq_ok_iff_accepts {c : Call} (hc : c.WellChained bindings) :
    c.answer bindings = .ok () ↔ Accepts bindings c.schema c.value :=
  ⟨accepts_of_answer c, fun h => answer_of_accepts h c.chain c.path hc⟩

end SchemaGuards.Check

namespace SchemaGuards.Module

open Check

variable {m : Module} {name : String} {target : Binding} {document : Json}

theorem validateBinding_eq_ok_iff_of_bound (bound : Bound m.bindings name target) :
    m.validateBinding name document = .ok () ↔
      Accepts m.bindings target.schema (some document) := by
  rw [validateBinding_eq_answer bound]
  exact answer_eq_ok_iff_accepts (Call.wellChained_start bound document)

/-- A document passes against a name exactly when the name is bound and the schema of its
last binding accepts the document, however the references of the module are tangled. -/
theorem validateBinding_eq_ok_iff (m : Module) (name : String) (document : Json) :
    m.validateBinding name document = .ok () ↔
      ∃ target, Bound m.bindings name target ∧
        Accepts m.bindings target.schema (some document) := by
  cases found : binding? m.bindings name with
  | none =>
      have unbound := binding?_eq_none_iff.mp found
      rw [validateBinding_eq_unknownBinding unbound]
      refine ⟨nofun, fun ⟨target, bound, _⟩ => ?_⟩
      exact absurd bound.name_eq (unbound target bound.mem)
  | some target =>
      have bound := binding?_eq_some_iff.mp found
      rw [validateBinding_eq_ok_iff_of_bound bound]
      constructor
      · intro h
        exact ⟨target, bound, h⟩
      · rintro ⟨target', bound', h⟩
        exact LastWhere.unique bound' bound ▸ h

end SchemaGuards.Module
