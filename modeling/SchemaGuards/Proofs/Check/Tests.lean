import SchemaGuards.Proofs.Check.Calls

/-!
# The single tests of a check

For each test that a check makes at a value without going into it: when it succeeds, and how it
fails. Violations are at the path that the test is made at, but for the unknown keys of an object,
and only the lack of a value is told to be required.
-/

namespace SchemaGuards.Check

variable {path : List Segment} {value : Json}

theorem absent_eq_ok_iff {required : Bool} :
    absent path required = .ok () ↔ required = false := by
  cases required <;> simp [absent, violated]

theorem absent_eq_error {required : Bool} {e : Failure} (h : absent path required = .error e) :
    e = .violation path .required := by
  cases required with
  | false => cases h
  | true => exact (Except.error.inj h).symm

theorem checkPrimitive_eq_ok_iff {kind : Primitive} :
    checkPrimitive path kind value = .ok () ↔ isOfKind kind value = true := by
  unfold checkPrimitive
  by_cases h : isOfKind kind value = true
  · simp [h]
  · simp only [h, Bool.false_eq_true, if_false, iff_false]
    split <;> simp [violated]

theorem checkPrimitive_eq_error {kind : Primitive} {e : Failure}
    (h : checkPrimitive path kind value = .error e) :
    ∃ reason, reason ≠ .required ∧ e = .violation path reason := by
  unfold checkPrimitive at h
  split at h
  · cases h
  · split at h
    · exact ⟨.emptyString, nofun, (Except.error.inj h).symm⟩
    · exact ⟨.notPrimitive kind, nofun, (Except.error.inj h).symm⟩

theorem checkListed_eq_ok_iff {values : List String} :
    checkListed path values value = .ok () ↔ ∃ s ∈ values, value = .text s := by
  cases value with
  | text s => by_cases h : s ∈ values <;> simp [checkListed, violated, h]
  | _ => simp [checkListed, violated]

theorem checkListed_eq_error {values : List String} {e : Failure}
    (h : checkListed path values value = .error e) :
    ∃ reason, reason ≠ .required ∧ e = .violation path reason := by
  unfold checkListed at h
  split at h
  · split at h
    · cases h
    · exact ⟨.notListed values, nofun, (Except.error.inj h).symm⟩
  · exact ⟨.notListed values, nofun, (Except.error.inj h).symm⟩

theorem unknownKey?_eq_none_iff {fields : List Schema.Field} {entries : List (String × Json)} :
    unknownKey? fields entries = none ↔ ∀ e ∈ entries, ∃ f ∈ fields, f.1 = e.1 := by
  simp [unknownKey?]

namespace Call

variable {bindings : List Binding} {c : Call}

/-- How the own test of a call fails: at a reference that leads in a circle or nowhere, at a key of
an object that is no field, or at the value of the call alone, whatever references led to it. -/
inductive Refused (bindings : List Binding) (c : Call) : Failure → Prop
  | circular {name required value} (schema : c.schema = .reference name required)
      (met : c.value = some value) (followed : name ∈ c.chain) : Refused bindings c (.circular name)
  | unbound {name required value} (schema : c.schema = .reference name required)
      (met : c.value = some value) (free : ∀ b ∈ bindings, b.name ≠ name) :
      Refused bindings c (.unknownBinding name)
  | unknownKey {fields required entries key} (schema : c.schema = .object fields required)
      (met : c.value = some (.object entries)) (found : unknownKey? fields entries = some key) :
      Refused bindings c (.violation (c.path ++ [.key key]) .notAllowed)
  | alone {reason} (missing : reason = .required ↔ c.value = none)
      (answers : ∀ chain,
        answer bindings { c with chain := chain } = .error (.violation c.path reason)) :
      Refused bindings c (.violation c.path reason)

theorem answer_eq_own (last : c.next bindings = []) : c.answer bindings = c.own bindings := by
  rw [answer_eq, last]
  rfl

theorem refused_of_own {e : Failure} (h : c.own bindings = .error e) : c.Refused bindings e := by
  obtain ⟨chain, path, schema, value⟩ := c
  cases value with
  | none =>
      cases schema with
      | nullable inner => cases h
      | _ =>
          obtain rfl := absent_eq_error h
          exact .alone (by simp) fun _ => (answer_eq_own rfl).trans h
  | some value =>
      cases schema with
      | nullable inner => cases h
      | primitive kind required =>
          obtain ⟨reason, present, rfl⟩ := checkPrimitive_eq_error h
          exact .alone (by simp [present]) fun _ => (answer_eq_own rfl).trans h
      | enumeration values required =>
          obtain ⟨reason, present, rfl⟩ := checkListed_eq_error h
          exact .alone (by simp [present]) fun _ => (answer_eq_own rfl).trans h
      | reference name required =>
          simp only [own] at h
          split at h
          · next followed =>
            obtain rfl := Except.error.inj h
            exact .circular rfl rfl followed
          · split at h
            · next found =>
              obtain rfl := Except.error.inj h
              exact .unbound rfl rfl (Module.binding?_eq_none_iff.mp found)
            · cases h
      | array item required =>
          cases value with
          | list elements => cases h
          | _ =>
              obtain rfl := Except.error.inj h
              exact .alone (by simp) fun _ => answer_eq_own rfl
      | object fields required =>
          cases value with
          | object entries =>
              simp only [own] at h
              split at h
              · next key found =>
                obtain rfl := Except.error.inj h
                exact .unknownKey rfl rfl found
              · cases h
          | _ =>
              obtain rfl := Except.error.inj h
              exact .alone (by simp) fun _ => answer_eq_own rfl

end Call

end SchemaGuards.Check
