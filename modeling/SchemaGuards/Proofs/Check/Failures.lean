import SchemaGuards.Proofs.Check.Tests

/-!
# All failures of a check

A check stops at the first failure. The same traversal without a stop finds every failure of
a value, each with the place at which it arises, and the check answers with the first of them.

## Implementation notes

A violation tells its path itself; the other failures do not, so the place is kept beside the
failure. The traversal calls itself where the check does, and so ends for the same reason.
-/

namespace SchemaGuards.Check

/-- A failure and the place of the document at which it arises. -/
structure Located where
  place : List Segment
  failure : Failure
  deriving DecidableEq, Repr

/-- The failure arises at a path or below, and a violation tells the very place. -/
structure Located.Placed (f : Located) (path : List Segment) : Prop where
  below : path <+: f.place
  told : ∀ place reason, f.failure = .violation place reason → f.place = place

/-- The failure of a single test at a place, if there is one. -/
def single (place : List Segment) : Except Failure Unit → List Located
  | .ok () => []
  | .error failure => [⟨place, failure⟩]

/-- Every key of an object that is no field, in document order. -/
def unknownKeys (fields : List Schema.Field) (entries : List (String × Json)) : List String :=
  (entries.map (·.1)).filter fun key => !(fields.map (·.1)).contains key

/-- The failures of an object's unknown keys, each at its key. -/
def notAllowed (path : List Segment) (fields : List Schema.Field)
    (entries : List (String × Json)) : List Located :=
  (unknownKeys fields entries).map fun key =>
    ⟨path ++ [.key key], .violation (path ++ [.key key]) .notAllowed⟩

/-- A nullable schema is larger than what is inside. -/
theorem Call.size_inner_lt {bindings : List Binding} (chain : List String) (path : List Segment)
    (inner : Schema) (value : Option Json) :
    size bindings ⟨chain, path, inner, value⟩ <
      size bindings ⟨chain, path, .nullable inner, value⟩ := by
  simp +arith [size, Prod.Lex.toLex_lt_toLex]

/-- All failures of a value, or the lack of one, under a schema: those of the elements of a
list by position, those of the fields of an object in declared order and then those of its
unknown keys, and otherwise the single failure at the path. -/
def failures (bindings : List Binding) (chain : List String) (path : List Segment)
    (schema : Schema) (value : Option Json) : List Located :=
  match schema, value with
  | .nullable _, some .null => []
  | .nullable inner, value => failures bindings chain path inner value
  | .reference _ required, none => single path (absent path required)
  | .reference name _, some value =>
    if _fresh : name ∈ chain then [⟨path, .circular name⟩]
    else
      match _found : Module.binding? bindings name with
      | none => [⟨path, .unknownBinding name⟩]
      | some target => failures bindings (name :: chain) path target.schema (some value)
  | .primitive _ required, none => single path (absent path required)
  | .primitive kind _, some value => single path (checkPrimitive path kind value)
  | .enumeration _ required, none => single path (absent path required)
  | .enumeration values _, some value => single path (checkListed path values value)
  | .array _ required, none => single path (absent path required)
  | .array item _, some (.list elements) =>
    elements.zipIdx.attach.flatMap fun ⟨p, _⟩ =>
      failures bindings [] (path ++ [.index p.2]) item (some p.1)
  | .array _ _, some _ => single path (violated path .notArray)
  | .object _ required, none => single path (absent path required)
  | .object fields _, some (.object entries) =>
    (fields.attach.flatMap fun ⟨f, _⟩ =>
      failures bindings [] (path ++ [.key f.1]) f.2 (Json.lookup? f.1 entries)) ++
      notAllowed path fields entries
  | .object _ _, some _ => single path (violated path (.notPrimitive .object))
termination_by Call.size bindings ⟨chain, path, schema, value⟩
decreasing_by
  · exact Call.size_inner_lt chain path inner value
  · exact Call.Calls.size_lt (.reference _fresh (Module.binding?_eq_some_iff.mp _found))
  · exact Call.Calls.size_lt (.element (List.mem_zipIdx_iff_getElem?.mp ‹_›))
  · exact Call.Calls.size_lt (.field ‹_›)

/-- What a check answers that stops at the first of some failures. -/
def first : List Located → Except Failure Unit
  | [] => .ok ()
  | f :: _ => .error f.failure

theorem first_append (found later : List Located) :
    first (found ++ later) = (first found >>= fun _ => first later) := by
  cases found <;> rfl

theorem first_single (place : List Segment) (test : Except Failure Unit) :
    first (single place test) = test := by
  cases test <;> rfl

/-- A traversal that stops at the first failure answers with the first of all failures. -/
theorem forM_eq_first_flatMap {α : Type} {items : List α} {found : α → List Located}
    {step : α → Except Failure Unit} (h : ∀ x ∈ items, step x = first (found x)) :
    items.forM step = first (items.flatMap found) := by
  induction items with
  | nil => rfl
  | cons x rest ih =>
      obtain ⟨hx, hrest⟩ := List.forall_mem_cons.mp h
      rw [List.flatMap_cons, first_append, ← hx, ← ih hrest]
      rfl

theorem unknownKey?_eq_head? (fields : List Schema.Field) (entries : List (String × Json)) :
    unknownKey? fields entries = (unknownKeys fields entries).head? :=
  (List.head?_filter ..).symm

namespace Call

variable {bindings : List Binding} {c d : Call}

/-- All failures of the check of a call. -/
def failures (bindings : List Binding) (c : Call) : List Located :=
  Check.failures bindings c.chain c.path c.schema c.value

/-- The failures of the test that a call makes of its own. -/
def ownFailures (bindings : List Binding) : Call → List Located
  | ⟨_, path, .object fields _, some (.object entries)⟩ => notAllowed path fields entries
  | c => single c.path (c.own bindings)

/-- The failures of a call are those of its calls, in order, and then those of its own test. -/
theorem failures_eq (bindings : List Binding) (c : Call) :
    c.failures bindings =
      (c.next bindings).flatMap (failures bindings) ++ c.ownFailures bindings := by
  obtain ⟨chain, path, schema, value⟩ := c
  cases schema with
  | nullable inner =>
      by_cases hv : value = some .null
      · subst hv
        rw [failures, Check.failures]
        rfl
      · rw [next_nullable hv, failures, Check.failures]
        · simp [failures, ownFailures, own, single]
        · exact hv
  | reference name required =>
      cases value with
      | none => rw [failures, Check.failures]; rfl
      | some value =>
          rw [failures, Check.failures]
          simp only [next, ownFailures, own]
          split
          · rfl
          · split
            · next hb => simp [hb, single]
            · next target hb => simp [hb, single, failures]
  | primitive kind required => cases value <;> rw [failures, Check.failures] <;> rfl
  | enumeration values required => cases value <;> rw [failures, Check.failures] <;> rfl
  | array item required =>
      rcases value with _ | (_ | _ | _ | _ | elements | _)
      case some.list =>
        rw [failures, Check.failures, List.flatMap_subtype fun _ _ => rfl, List.unattach_attach]
        simp [next, ownFailures, own, single, List.flatMap_map, failures]
      all_goals
        simp only [failures, Check.failures]
        rfl
  | object fields required =>
      rcases value with _ | (_ | _ | _ | _ | _ | entries)
      case some.object =>
        rw [failures, Check.failures, List.flatMap_subtype fun _ _ => rfl, List.unattach_attach]
        simp [next, ownFailures, List.flatMap_map, failures]
      all_goals
        simp only [failures, Check.failures]
        rfl

theorem own_eq_first (bindings : List Binding) (c : Call) :
    c.own bindings = first (c.ownFailures bindings) := by
  unfold ownFailures
  split
  · next path fields required entries =>
    rw [own, unknownKey?_eq_head?, notAllowed]
    cases unknownKeys fields entries <;> rfl
  · rw [first_single]

/-- A check answers with the first of all failures. -/
theorem answer_eq_first (bindings : List Binding) (c : Call) :
    c.answer bindings = first (c.failures bindings) := by
  induction c using Call.induction bindings with
  | step c ih =>
      rw [answer_eq, failures_eq, first_append, own_eq_first,
        forM_eq_first_flatMap fun d hd => ih d (mem_next_iff.mp hd)]

/-- A test of a call's own is made at the path of the call, but for the keys of an object. -/
theorem own_eq_violation {place : List Segment} {reason : Reason}
    (h : c.own bindings = .error (.violation place reason))
    (hc : ∀ chain path fields required entries,
      c = ⟨chain, path, .object fields required, some (.object entries)⟩ → False) :
    place = c.path := by
  cases refused_of_own h with
  | unknownKey schema met found =>
      obtain ⟨chain, path, _, _⟩ := c
      obtain rfl := schema
      obtain rfl := met
      exact (hc _ _ _ _ _ rfl).elim
  | alone _ _ => rfl

theorem placed_of_mem_ownFailures {f : Located} (h : f ∈ c.ownFailures bindings) :
    f.Placed c.path := by
  unfold ownFailures at h
  split at h
  · obtain ⟨key, -, rfl⟩ := List.mem_map.mp h
    exact ⟨List.prefix_append .., fun place reason he => (Failure.violation.inj he).1⟩
  · next hc =>
    cases hown : c.own bindings with
    | ok u => simp [hown, single] at h
    | error failure =>
        simp only [hown, single, List.mem_singleton] at h
        subst h
        refine ⟨List.prefix_rfl, fun place reason he => ?_⟩
        exact (own_eq_violation (hown.trans (congrArg _ he)) hc).symm

/-- The calls of a call are made at its path or below. -/
theorem Calls.path_prefix (h : Calls bindings c d) : c.path <+: d.path := by
  cases h with
  | inner present => exact List.prefix_rfl
  | reference fresh bound => exact List.prefix_rfl
  | element found => exact List.prefix_append ..
  | field declared => exact List.prefix_append ..

/-- Every failure of a call is placed at its path or below. -/
theorem placed_of_mem_failures (bindings : List Binding) (c : Call) :
    ∀ f ∈ c.failures bindings, f.Placed c.path := by
  induction c using Call.induction bindings with
  | step c ih =>
      intro f hf
      rw [failures_eq, List.mem_append, List.mem_flatMap] at hf
      rcases hf with ⟨d, hd, hf⟩ | hf
      · have hcalls := mem_next_iff.mp hd
        obtain ⟨below, told⟩ := ih d hcalls f hf
        exact ⟨hcalls.path_prefix.trans below, told⟩
      · exact placed_of_mem_ownFailures hf

end Call

end SchemaGuards.Check
