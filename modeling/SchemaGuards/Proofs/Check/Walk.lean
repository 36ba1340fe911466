import SchemaGuards.Proofs.Check.Failures

/-!
# Checks that keep one path

A check may keep a single path that it changes on its way: a segment is put at the end before
a part of the value is checked, and taken off again afterwards. A failing step leaves at once,
with the path as it then is. Such a walk answers as the check does. After a success the path
is the one that it started with, after a failure it is the place of the failure.
-/

namespace SchemaGuards.Check

/-- Steps that change a path and may fail, and leave the path as it is when they fail. -/
abbrev Walk := EStateM Failure (List Segment)

namespace Walk

/-- Go into a part of the value. -/
def enter (s : Segment) : Walk Unit := modify (· ++ [s])

/-- Go back from a part of the value. -/
def leave : Walk Unit := modify List.dropLast

/-- Make a test at the current path. -/
def test (f : List Segment → Except Failure Unit) : Walk Unit := do
  let path ← get
  match f path with
  | .ok () => pure ()
  | .error failure => throw failure

/-- How a walk ends that starts at a path and finds some failures. -/
def outcome (path : List Segment) : List Located → EStateM.Result Failure (List Segment) Unit
  | [] => .ok () path
  | f :: _ => .error f.failure f.place

variable {path : List Segment} {found later : List Located} {x y : Walk Unit}

theorem run_test (f : List Segment → Except Failure Unit) (path : List Segment) :
    (test f).run path = outcome path (single path (f path)) := by
  simp only [test, EStateM.run_bind, EStateM.run_get]
  cases f path <;> rfl

/-- Two walks in a row find the failures of both, as the first one gives the path back. -/
theorem run_bind (hx : x.run path = outcome path found) (hy : y.run path = outcome path later) :
    (x >>= fun _ => y).run path = outcome path (found ++ later) := by
  rw [EStateM.run_bind, hx]
  cases found with
  | nil => exact hy
  | cons f rest => rfl

/-- A walk into a part and back finds what the walk of the part finds. -/
theorem run_enter_leave {s : Segment}
    (hx : x.run (path ++ [s]) = outcome (path ++ [s]) found) :
    (do enter s; x; leave : Walk Unit).run path = outcome path found := by
  have henter : (enter s).run path = .ok () (path ++ [s]) := rfl
  have hleave : leave.run (path ++ [s]) = .ok () path :=
    congrArg (EStateM.Result.ok ()) List.dropLast_concat
  simp only [EStateM.run_bind, henter, hx]
  cases found with
  | nil => exact hleave
  | cons f rest => rfl

/-- A traversal finds the failures of all its walks, as each of them gives the path back. -/
theorem run_forM {α : Type} {items : List α} {step : α → Walk Unit} {found : α → List Located}
    (h : ∀ a ∈ items, (step a).run path = outcome path (found a)) :
    (items.forM step).run path = outcome path (items.flatMap found) := by
  induction items with
  | nil => rfl
  | cons a rest ih =>
      obtain ⟨ha, hrest⟩ := List.forall_mem_cons.mp h
      exact run_bind ha (ih hrest)

end Walk

/-- Check a value, or the lack of one, against a schema, at the current path. -/
def walk (bindings : List Binding) (chain : List String) (schema : Schema)
    (value : Option Json) : Walk Unit :=
  match schema, value with
  | .nullable _, some .null => pure ()
  | .nullable inner, value => walk bindings chain inner value
  | .reference _ required, none => .test (absent · required)
  | .reference name _, some value =>
    if _fresh : name ∈ chain then throw (.circular name)
    else
      match _found : Module.binding? bindings name with
      | none => throw (.unknownBinding name)
      | some target => walk bindings (name :: chain) target.schema (some value)
  | .primitive _ required, none => .test (absent · required)
  | .primitive kind _, some value => .test (checkPrimitive · kind value)
  | .enumeration _ required, none => .test (absent · required)
  | .enumeration values _, some value => .test (checkListed · values value)
  | .array _ required, none => .test (absent · required)
  | .array item _, some (.list elements) =>
    elements.zipIdx.attach.forM fun ⟨p, _⟩ => do
      .enter (.index p.2)
      walk bindings [] item (some p.1)
      .leave
  | .array _ _, some _ => .test (violated · .notArray)
  | .object _ required, none => .test (absent · required)
  | .object fields _, some (.object entries) => do
    fields.attach.forM fun ⟨f, _⟩ => do
      .enter (.key f.1)
      walk bindings [] f.2 (Json.lookup? f.1 entries)
      .leave
    match unknownKey? fields entries with
    | none => pure ()
    | some key => do
      .enter (.key key)
      .test (violated · .notAllowed)
  | .object _ _, some _ => .test (violated · (.notPrimitive .object))
termination_by Call.size bindings ⟨chain, [], schema, value⟩
decreasing_by
  · exact Call.size_inner_lt chain [] inner value
  · exact Call.Calls.size_lt (.reference _fresh (Module.binding?_eq_some_iff.mp _found))
  · exact (@Call.Calls.element _ chain [] _ _ _ _ p.2
      (List.mem_zipIdx_iff_getElem?.mp ‹_›)).size_lt
  · exact (@Call.Calls.field _ chain [] _ _ _ _ ‹_›).size_lt

section Reference

variable {bindings : List Binding} {chain : List String} {name : String} {required : Bool}
  {value : Json} {target : Binding}

theorem walk_reference (fresh : name ∉ chain)
    (found : Module.binding? bindings name = some target) :
    walk bindings chain (.reference name required) (some value) =
      walk bindings (name :: chain) target.schema (some value) := by
  rw [walk, dif_neg fresh]
  split
  · next unbound => cases unbound.symm.trans found
  · next found' =>
    cases found.symm.trans found'
    rfl

theorem walk_unbound (fresh : name ∉ chain) (unbound : Module.binding? bindings name = none) :
    walk bindings chain (.reference name required) (some value) =
      throw (.unknownBinding name) := by
  rw [walk, dif_neg fresh]
  split
  · rfl
  · next found => cases unbound.symm.trans found

end Reference

/-- A walk finds the failures of the value at the path that it starts with. -/
theorem run_walk (bindings : List Binding) (c : Call) :
    (walk bindings c.chain c.schema c.value).run c.path =
      Walk.outcome c.path (c.failures bindings) := by
  induction c using Call.induction bindings with
  | step c ih =>
      obtain ⟨chain, path, schema, value⟩ := c
      cases schema with
      | nullable inner =>
          by_cases hv : value = some .null
          · subst hv
            simp only [walk, Call.failures, failures]
            rfl
          · have hinner := ih _ (.inner hv)
            simp only [Call.failures] at hinner ⊢
            rw [walk, failures, hinner]
            · exact hv
            · exact hv
      | reference name required =>
          cases value with
          | none => simp only [walk, Call.failures, failures, Walk.run_test]
          | some value =>
              rw [Call.failures_eq]
              by_cases followed : name ∈ chain
              · simp only [walk, followed, dif_pos, Call.next, Call.ownFailures, Call.own, if_true]
                rfl
              · cases found : Module.binding? bindings name with
                | none =>
                    rw [walk_unbound followed found]
                    simp only [Call.next, Call.ownFailures, Call.own, followed, if_false, found]
                    rfl
                | some target =>
                    rw [walk_reference followed found]
                    simp only [Call.next, Call.ownFailures, Call.own, followed, if_false, found,
                      List.flatMap_singleton, single, List.append_nil]
                    exact ih _ (.reference followed (Module.binding?_eq_some_iff.mp found))
      | primitive kind required =>
          cases value <;> simp only [walk, Call.failures, failures, Walk.run_test]
      | enumeration values required =>
          cases value <;> simp only [walk, Call.failures, failures, Walk.run_test]
      | array item required =>
          rcases value with _ | (_ | _ | _ | _ | elements | _)
          case some.list =>
            simp only [walk, Call.failures, failures]
            refine Walk.run_forM fun p _ => Walk.run_enter_leave ?_
            exact ih _ (.element (List.mem_zipIdx_iff_getElem?.mp p.2))
          all_goals simp only [walk, Call.failures, failures, Walk.run_test]
      | object fields required =>
          rcases value with _ | (_ | _ | _ | _ | _ | entries)
          case some.object =>
            simp only [walk, Call.failures, failures]
            refine Walk.run_bind (Walk.run_forM fun f _ => Walk.run_enter_leave ?_) ?_
            · exact ih _ (.field f.2)
            · rw [unknownKey?_eq_head?, notAllowed]
              cases unknownKeys fields entries <;> rfl
          all_goals simp only [walk, Call.failures, failures, Walk.run_test]

/-- Stopping at the first failure loses only the later ones. A check succeeds exactly when there
is no failure at all, and then it leaves its path as it was. Otherwise it answers with the
first of all failures, at whose place it leaves its path; and every failure has its place at
the starting path or below, which for a violation is the path that it tells. -/
theorem check_answers_first_failure (bindings : List Binding) (chain : List String)
    (path : List Segment) (schema : Schema) (value : Option Json) :
    ((failures bindings chain path schema value = [] ∧
        check bindings chain path schema value = .ok () ∧
        (walk bindings chain schema value).run path = .ok () path) ∨
      ∃ place failure later,
        failures bindings chain path schema value = ⟨place, failure⟩ :: later ∧
        check bindings chain path schema value = .error failure ∧
        (walk bindings chain schema value).run path = .error failure place) ∧
    ∀ f ∈ failures bindings chain path schema value, f.Placed path := by
  have hcheck := Call.answer_eq_first bindings ⟨chain, path, schema, value⟩
  have hwalk := run_walk bindings ⟨chain, path, schema, value⟩
  have hplaced := Call.placed_of_mem_failures bindings ⟨chain, path, schema, value⟩
  simp only [Call.answer, Call.failures] at hcheck hwalk hplaced
  refine ⟨?_, hplaced⟩
  cases hf : failures bindings chain path schema value with
  | nil =>
      rw [hf] at hcheck hwalk
      exact .inl ⟨rfl, hcheck, hwalk⟩
  | cons f later =>
      rw [hf] at hcheck hwalk
      exact .inr ⟨f.place, f.failure, later, rfl, hcheck, hwalk⟩

/-- Rows that each have a list of names and a count. -/
def rows : Schema :=
  .array (.object [("names", .array (.primitive .string true) true),
    ("count", .nullable (.primitive .number true))] true) true

/-- Three failures in the second row, after a first row that passes: the check tells the first
of them, by the path of its place. -/
theorem check_answers_first_failure_rows :
    let names := [.key "rows", .index 1, .key "names", .index 1]
    let passing := Json.object [("names", .list [.text "x"]), ("count", .null)]
    let failing := Json.object [("extra", .null), ("names", .list [.text "y", .bool true])]
    failures [] [] [.key "rows"] rows (some (.list [passing, failing])) =
        [⟨names, .violation names (.notPrimitive .string)⟩,
          ⟨[.key "rows", .index 1, .key "count"],
            .violation [.key "rows", .index 1, .key "count"] .required⟩,
          ⟨[.key "rows", .index 1, .key "extra"],
            .violation [.key "rows", .index 1, .key "extra"] .notAllowed⟩] ∧
      check [] [] [.key "rows"] rows (some (.list [passing, failing])) =
        .error (.violation names (.notPrimitive .string)) ∧
      (walk [] [] rows (some (.list [passing, failing]))).run [.key "rows"] =
        .error (.violation names (.notPrimitive .string)) names ∧
      (Failure.violation names (.notPrimitive .string)).message =
        "\"rows[1].names[1]\" must be a string" := by
  intro names passing failing
  have all : failures [] [] [.key "rows"] rows (some (.list [passing, failing])) =
      [⟨names, .violation names (.notPrimitive .string)⟩,
        ⟨[.key "rows", .index 1, .key "count"],
          .violation [.key "rows", .index 1, .key "count"] .required⟩,
        ⟨[.key "rows", .index 1, .key "extra"],
          .violation [.key "rows", .index 1, .key "extra"] .notAllowed⟩] := by
    simp [rows, passing, failing, names, failures, single, absent, violated, notAllowed,
      unknownKeys, checkPrimitive, isOfKind, Json.lookup?]
  refine ⟨all, ?_⟩
  rcases (check_answers_first_failure [] [] [.key "rows"] rows
      (some (.list [passing, failing]))).1 with ⟨none, -, -⟩ | ⟨_, _, _, found, answers, leaves⟩
  · cases none.symm.trans all
  · cases found.symm.trans all
    exact ⟨answers, leaves, by decide⟩

end SchemaGuards.Check
