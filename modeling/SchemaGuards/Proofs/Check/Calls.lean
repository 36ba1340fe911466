import SchemaGuards.Check.Basic
import SchemaGuards.Proofs.Module.Lookup
import SchemaGuards.Proofs.Result
import Mathlib.Data.Prod.Lex

/-!
# The calls of a check

A check of a value against a schema calls itself on an inner schema, on the target of a
reference, or on the parts of the value, and then makes one test of its own. The calls are
listed in the order in which they are made; a check stops at the first one that fails.

## Implementation notes

The list holds every call that a check may make, also those after a failing one. Statements
about all listed calls are statements about all calls that are made.
-/

namespace SchemaGuards.Check

/-- What a check is called with. -/
structure Call where
  /-- The references followed on the current value, the last one first. -/
  chain : List String
  path : List Segment
  schema : Schema
  value : Option Json

namespace Call

/-- What the check answers to a call. -/
def answer (bindings : List Binding) (c : Call) : Except Failure Unit :=
  check bindings c.chain c.path c.schema c.value

/-- The calls that a call makes, in order. -/
def next (bindings : List Binding) : Call → List Call
  | ⟨_, _, .nullable _, some .null⟩ => []
  | ⟨chain, path, .nullable inner, value⟩ => [⟨chain, path, inner, value⟩]
  | ⟨chain, path, .reference name _, some value⟩ =>
    if name ∈ chain then []
    else
      match Module.binding? bindings name with
      | none => []
      | some target => [⟨name :: chain, path, target.schema, some value⟩]
  | ⟨_, path, .array item _, some (.list elements)⟩ =>
    elements.zipIdx.map fun p => ⟨[], path ++ [.index p.2], item, some p.1⟩
  | ⟨_, path, .object fields _, some (.object entries)⟩ =>
    fields.map fun f => ⟨[], path ++ [.key f.1], f.2, Json.lookup? f.1 entries⟩
  | _ => []

/-- The test that a call makes of its own, once its calls have succeeded. -/
def own (bindings : List Binding) : Call → Except Failure Unit
  | ⟨_, _, .nullable _, _⟩ => .ok ()
  | ⟨_, path, schema, none⟩ => absent path (schema.flag?.getD false)
  | ⟨chain, _, .reference name _, some _⟩ =>
    if name ∈ chain then .error (.circular name)
    else
      match Module.binding? bindings name with
      | none => .error (.unknownBinding name)
      | some _ => .ok ()
  | ⟨_, path, .primitive kind _, some value⟩ => checkPrimitive path kind value
  | ⟨_, path, .enumeration values _, some value⟩ => checkListed path values value
  | ⟨_, _, .array _ _, some (.list _)⟩ => .ok ()
  | ⟨_, path, .array _ _, some _⟩ => violated path .notArray
  | ⟨_, path, .object fields _, some (.object entries)⟩ =>
    match unknownKey? fields entries with
    | some key => violated (path ++ [.key key]) .notAllowed
    | none => .ok ()
  | ⟨_, path, .object _ _, some _⟩ => violated path (.notPrimitive .object)

/-- The first call of a check of a document against a binding. -/
def start (name : String) (target : Binding) (document : Json) : Call :=
  ⟨[name], [], target.schema, some document⟩

variable {bindings : List Binding} {c d : Call}

theorem checkElements_eq_forM (path : List Segment) (item : Schema) (position : Nat)
    (elements : List Json) :
    checkElements bindings path item position elements =
      (elements.zipIdx position).forM fun p =>
        check bindings [] (path ++ [.index p.2]) item (some p.1) := by
  induction elements generalizing position with
  | nil => simp only [checkElements]; rfl
  | cons element rest ih =>
      rw [checkElements, ih (position + 1)]
      rfl

theorem checkFields_eq_forM (path : List Segment) (fields : List Schema.Field)
    (entries : List (String × Json)) :
    checkFields bindings path fields entries =
      fields.forM fun f =>
        check bindings [] (path ++ [.key f.1]) f.2 (Json.lookup? f.1 entries) := by
  induction fields with
  | nil => simp only [checkFields]; rfl
  | cons field rest ih =>
      rw [checkFields, ih]
      rfl

theorem next_nullable {chain : List String} {path : List Segment} {inner : Schema}
    {value : Option Json} (hv : value ≠ some .null) :
    next bindings ⟨chain, path, .nullable inner, value⟩ = [⟨chain, path, inner, value⟩] := by
  rw [next]
  exact hv

/-- A call with a single call behind it, and no test of its own, answers as that call. -/
theorem forM_singleton_bind (c : Call) :
    ([c].forM (answer bindings) >>= fun _ => .ok ()) = c.answer bindings := by
  change ((c.answer bindings >>= fun _ => .ok ()) >>= fun _ => .ok ()) = _
  cases c.answer bindings <;> rfl

/-- A call answers as the first of its calls that fails, and else by its own test. -/
theorem answer_eq (bindings : List Binding) (c : Call) :
    c.answer bindings =
      ((c.next bindings).forM (answer bindings) >>= fun _ => c.own bindings) := by
  obtain ⟨chain, path, schema, value⟩ := c
  cases schema with
  | nullable inner =>
      by_cases hv : value = some .null
      · subst hv
        rw [answer, check]
        rfl
      · rw [next_nullable hv, own, forM_singleton_bind, answer, check, answer]
        exact hv
  | reference name required =>
      cases value with
      | none => rw [answer, check]; rfl
      | some value =>
          rw [answer, check]
          simp only [next, own]
          split
          · next hc =>
            simp only [List.contains_eq_mem, decide_eq_true_eq] at hc
            simp only [hc, if_true]
            rfl
          · next hc =>
            simp only [List.contains_eq_mem, decide_eq_false_iff_not] at hc
            simp only [hc, if_false]
            split
            · next hb =>
              simp only [hb]
              rfl
            · next target hb =>
              simp only [hb]
              exact (forM_singleton_bind ⟨name :: chain, path, target.schema, some value⟩).symm
  | primitive kind required => cases value <;> rw [answer, check] <;> rfl
  | enumeration kind required => cases value <;> rw [answer, check] <;> rfl
  | array item required =>
      rcases value with _ | (_ | _ | _ | _ | elements | _)
      case some.list =>
        rw [answer, check, checkElements_eq_forM, next, own, Result.forM_map]
        exact bind_pure_unit.symm
      all_goals
        simp only [answer, check]
        rfl
  | object fields required =>
      rcases value with _ | (_ | _ | _ | _ | _ | entries)
      case some.object =>
        rw [answer, check, checkFields_eq_forM, next, own, Result.forM_map]
        rfl
      all_goals
        simp only [answer, check]
        rfl

/-- The call relation of the check, one case for each place where it calls itself. -/
inductive Calls (bindings : List Binding) : Call → Call → Prop
  | inner {chain path inner value} (present : value ≠ some .null) :
      Calls bindings ⟨chain, path, .nullable inner, value⟩ ⟨chain, path, inner, value⟩
  | reference {chain path name required value target} (fresh : name ∉ chain)
      (bound : Module.Bound bindings name target) :
      Calls bindings ⟨chain, path, .reference name required, some value⟩
        ⟨name :: chain, path, target.schema, some value⟩
  | element {chain path item required elements element} {position : Nat}
      (found : elements[position]? = some element) :
      Calls bindings ⟨chain, path, .array item required, some (.list elements)⟩
        ⟨[], path ++ [.index position], item, some element⟩
  | field {chain path fields required entries field} (declared : field ∈ fields) :
      Calls bindings ⟨chain, path, .object fields required, some (.object entries)⟩
        ⟨[], path ++ [.key field.1], field.2, Json.lookup? field.1 entries⟩

theorem mem_next_iff : d ∈ c.next bindings ↔ Calls bindings c d := by
  constructor
  · intro h
    obtain ⟨chain, path, schema, value⟩ := c
    cases schema with
    | nullable inner =>
        by_cases hv : value = some .null
        · subst hv
          simp [next] at h
        · rw [next_nullable hv, List.mem_singleton] at h
          exact h ▸ .inner hv
    | reference name required =>
        cases value with
        | none => simp [next] at h
        | some value =>
            simp only [next] at h
            split at h
            · simp at h
            · next hc =>
              split at h
              · simp at h
              · next target hb =>
                rw [List.mem_singleton] at h
                exact h ▸ .reference hc (Module.binding?_eq_some_iff.mp hb)
    | array item required =>
        rcases value with _ | (_ | _ | _ | _ | elements | _)
        case some.list =>
          simp only [next, List.mem_map] at h
          obtain ⟨⟨element, position⟩, hp, rfl⟩ := h
          exact .element (List.mem_zipIdx_iff_getElem?.mp hp)
        all_goals simp [next] at h
    | object fields required =>
        rcases value with _ | (_ | _ | _ | _ | _ | entries)
        case some.object =>
          simp only [next, List.mem_map] at h
          obtain ⟨field, hf, rfl⟩ := h
          exact .field hf
        all_goals simp [next] at h
    | primitive kind required => cases value <;> simp [next] at h
    | enumeration values required => cases value <;> simp [next] at h
  · intro h
    cases h with
    | inner present => simp [next_nullable present]
    | reference fresh bound =>
        simp [next, fresh, Module.binding?_eq_some_iff.mpr bound]
    | @element _ _ _ _ _ element position found =>
        simp only [next, List.mem_map]
        exact ⟨(element, position), List.mem_zipIdx_iff_getElem?.mpr found, rfl⟩
    | field declared => exact List.mem_map_of_mem declared

/-- A call succeeds exactly when its calls do and its own test does. -/
theorem answer_eq_ok_iff :
    c.answer bindings = .ok () ↔
      (∀ d, Calls bindings c d → d.answer bindings = .ok ()) ∧ c.own bindings = .ok () := by
  have hnext : (c.next bindings).forM (answer bindings) = .ok () ↔
      ∀ d, Calls bindings c d → d.answer bindings = .ok () := by
    simp only [Result.forM_eq_ok_iff, mem_next_iff]
  rw [answer_eq, ← hnext]
  cases (c.next bindings).forM (answer bindings) with
  | error e => simp [bind, Except.bind]
  | ok u => simp [bind, Except.bind]

/-- A failing call fails as one of its calls does, or by its own test. -/
theorem answer_eq_error {e : Failure} (h : c.answer bindings = .error e) :
    (∃ d, Calls bindings c d ∧ d.answer bindings = .error e) ∨ c.own bindings = .error e := by
  rw [answer_eq] at h
  cases hnext : (c.next bindings).forM (answer bindings) with
  | error e' =>
      simp only [hnext, bind, Except.bind, Except.error.injEq] at h
      obtain ⟨d, hd, he⟩ := Result.exists_of_forM_eq_error (h ▸ hnext)
      exact Or.inl ⟨d, mem_next_iff.mp hd, he⟩
  | ok u =>
      rw [hnext] at h
      exact Or.inr h

theorem answer_nullable {chain : List String} {path : List Segment} {inner : Schema}
    {value : Option Json} (hv : value ≠ some .null) :
    answer bindings ⟨chain, path, .nullable inner, value⟩ =
      answer bindings ⟨chain, path, inner, value⟩ := by
  rw [answer, check, answer]
  exact hv

theorem answer_reference {chain : List String} {path : List Segment} {name : String}
    {required : Bool} {value : Json} {target : Binding} (fresh : name ∉ chain)
    (bound : Module.Bound bindings name target) :
    answer bindings ⟨chain, path, .reference name required, some value⟩ =
      answer bindings ⟨name :: chain, path, target.schema, some value⟩ := by
  rw [answer_eq]
  simp only [next, own, fresh, if_false, Module.binding?_eq_some_iff.mpr bound]
  exact forM_singleton_bind _

theorem answer_reference_of_mem {chain : List String} {path : List Segment} {name : String}
    {required : Bool} {value : Json} (followed : name ∈ chain) :
    answer bindings ⟨chain, path, .reference name required, some value⟩ =
      .error (.circular name) := by
  rw [answer_eq]
  simp only [next, own, followed, if_true]
  rfl

/-- What bounds the calls: first the value, then the references left, then the schema. -/
noncomputable def size (bindings : List Binding) (c : Call) : ℕ ×ₗ ℕ ×ₗ ℕ :=
  toLex (sizeOf c.value, toLex (unfollowed bindings c.chain, sizeOf c.schema))

/-- Every call is on a smaller value, or leaves fewer references, or has a smaller schema. -/
theorem Calls.size_lt (h : Calls bindings c d) : d.size bindings < c.size bindings := by
  simp only [size, Prod.Lex.toLex_lt_toLex]
  cases h with
  | inner present => exact Or.inr ⟨rfl, Or.inr ⟨rfl, by simp +arith⟩⟩
  | reference fresh bound =>
      have hfound := Module.binding?_eq_some_iff.mpr bound
      exact Or.inr ⟨rfl, Or.inl (unfollowed_cons_lt hfound (by simpa using fresh))⟩
  | element found =>
      have := List.sizeOf_lt_of_mem (List.mem_of_getElem? found)
      exact Or.inl (by simp +arith; omega)
  | @field _ _ _ _ entries field declared =>
      refine Or.inl ?_
      cases hv : Json.lookup? field.1 entries with
      | none => cases entries <;> simp +arith
      | some value =>
          have := Json.sizeOf_lookup? hv
          simp +arith
          omega

/-- The call relation is well founded: no check calls itself forever. -/
theorem calls_wellFounded (bindings : List Binding) :
    WellFounded fun d c => Calls bindings c d :=
  Subrelation.wf (fun h => h.size_lt) (InvImage.wf (size bindings) wellFounded_lt)

/-- To show something of every call, show it of a call from the calls that it makes. -/
theorem induction (bindings : List Binding) {motive : Call → Prop}
    (step : ∀ c, (∀ d, Calls bindings c d → motive d) → motive c) (c : Call) : motive c :=
  (calls_wellFounded bindings).induction c step

end Call

end SchemaGuards.Check

namespace SchemaGuards.Module

open Check

variable {m : Module} {name typeName : String} {target : Binding}

/-- A check of a document against a bound name is the check of its first call. -/
theorem validateBinding_eq_answer (bound : Bound m.bindings name target) (document : Json) :
    m.validateBinding name document = (Call.start name target document).answer m.bindings := by
  rw [validateBinding, binding?_eq_some_iff.mpr bound]
  rfl

/-- A name that is not bound has no schema to check against. -/
theorem validateBinding_eq_unknownBinding (unbound : ∀ b ∈ m.bindings, b.name ≠ name)
    (document : Json) : m.validateBinding name document = .error (.unknownBinding name) := by
  rw [validateBinding, binding?_eq_none_iff.mpr unbound]

/-- A declared type is checked by the name of its last binding. -/
theorem validate_eq_validateBinding
    (declared : LastWhere (fun b => b.typeName = typeName) m.bindings target)
    (document : Json) :
    m.validate typeName document = m.validateBinding target.name document := by
  rw [validate, bindingOfType?_eq_some_iff.mpr declared]

/-- Checks of two modules against a declared type are related if those against bound names are,
where the bindings keep their names and types. -/
theorem validate_related {m m' : Module} {r : Binding → Binding → Prop}
    {R : Except Failure Unit → Except Failure Unit → Prop} {document : Json}
    (each : List.Forall₂ r m.bindings m'.bindings)
    (keeps : ∀ b b', r b b' → b'.name = b.name ∧ b'.typeName = b.typeName) (same : ∀ x, R x x)
    (inside : ∀ name, R (m.validateBinding name document) (m'.validateBinding name document))
    (typeName : String) : R (m.validate typeName document) (m'.validate typeName document) := by
  have related := rel_bindingOfType? each (fun b b' h => (keeps b b' h).2) typeName
  rw [validate, validate]
  generalize bindingOfType? m.bindings typeName = found at related ⊢
  generalize bindingOfType? m'.bindings typeName = found' at related ⊢
  cases related with
  | none => exact same _
  | @some b b' h =>
      simp only [(keeps b b' h).1]
      exact inside b.name

/-- The guard of a type answers `true` exactly when the document passes. -/
theorem accepts_eq_true_iff {document : Json} :
    m.accepts typeName document = .ok true ↔ m.validate typeName document = .ok () := by
  rw [accepts]
  cases m.validate typeName document with
  | ok u => simp
  | error e => cases he : e.isViolation <;> simp [he]

end SchemaGuards.Module
