import SchemaGuards.Proofs.Check.Causes
import SchemaGuards.Proofs.Json.Paths
import SchemaGuards.Proofs.Schema.Inlining

/-!
# Checks with a reference written out

A field that refers to a bound name may as well hold the schema of the binding, with the flag of
the reference at its top. Documents are checked alike, unless the schema is nullable: a required
reference asks for its field, and a nullable schema asks for none.

## Implementation notes

Both checks make the same calls, but where the reference stood the first one makes one more and
has one more name on its chain. Without circular aliases no name is met on a chain, so what is on
the chains makes no difference.
-/

namespace SchemaGuards

/-- Lists that differ in one element only are related element by element. -/
theorem forall₂_replace {α : Type*} {r : α → α → Prop} (refl : ∀ x, r x x) {a b : α}
    (h : r a b) (before after : List α) :
    List.Forall₂ r (before ++ a :: after) (before ++ b :: after) :=
  List.rel_append (List.forall₂_same.mpr fun x _ => refl x)
    (.cons h (List.forall₂_same.mpr fun x _ => refl x))

namespace Check

/-- A module and the same module with one reference of a field written out. Aliases are not
circular, and nullable schemas require nothing. -/
structure Inlining (m m' : Module) (field name : String) (required : Bool) (target : Binding) :
    Prop where
  bound : Module.Bound m.bindings name target
  acyclic : ∀ n, ¬ Circular m.bindings n
  lenient : ∀ b ∈ m.bindings, b.schema.Lenient
  replaced : ∃ earlier b later schema, m.bindings = earlier ++ b :: later ∧
    Schema.Inlined field name required (target.schema.withFlag required) b.schema schema ∧
    m' = { m with bindings := earlier ++ { b with schema := schema } :: later }

/-- How two checks of a document compare: they answer the same, or the first one misses a field
that the second one does not ask for. -/
inductive Agree (field : String) (target : Binding) (document : Json) :
    Except Failure Unit → Except Failure Unit → Prop
  | same {x} : Agree field target document x x
  | missing {inner place entries y} (isNullable : target.schema = .nullable inner)
      (stands : document.at? place = some (.object entries))
      (lacks : Json.lookup? field entries = none) :
      Agree field target document (.error (.violation (place ++ [.key field]) .required)) y

section Agree

variable {field : String} {target : Binding} {document : Json} {x x' y y' : Except Failure Unit}

theorem Agree.bind (hx : Agree field target document x x') (hy : Agree field target document y y') :
    Agree field target document (x >>= fun _ => y) (x' >>= fun _ => y') := by
  cases hx with
  | same =>
      cases x with
      | ok u => exact hy
      | error e => exact .same
  | missing isNullable stands lacks => exact .missing isNullable stands lacks

end Agree

namespace Inlining

variable {m m' : Module} {field name : String} {required : Bool} {target : Binding}

/-- A schema is kept, or has the one reference written out below its top. -/
def Alike (field name : String) (required : Bool) (target : Binding) (s s' : Schema) : Prop :=
  s' = s ∨ Schema.Inlined field name required (target.schema.withFlag required) s s'

section Alike

variable {inner item s' : Schema} {fields : List Schema.Field} {flag : Bool}

theorem Alike.exists_of_nullable (h : Alike field name required target (.nullable inner) s') :
    ∃ inner', s' = .nullable inner' ∧ Alike field name required target inner inner' := by
  rcases h with rfl | inlined
  · exact ⟨inner, rfl, .inl rfl⟩
  · cases inlined with
    | inner inside => exact ⟨_, rfl, .inr inside⟩

theorem Alike.exists_of_array (h : Alike field name required target (.array item flag) s') :
    ∃ item', s' = .array item' flag ∧ Alike field name required target item item' := by
  rcases h with rfl | inlined
  · exact ⟨item, rfl, .inl rfl⟩
  · cases inlined with
    | item inside => exact ⟨_, rfl, .inr inside⟩

/-- The fields of objects that are alike have the same names, in order, and schemas that are
alike, or the one reference on one side and what fills its place on the other. -/
theorem Alike.exists_of_object (h : Alike field name required target (.object fields flag) s') :
    ∃ fields', s' = .object fields' flag ∧
      List.Forall₂ (fun f f' => f'.1 = f.1 ∧ (Alike field name required target f.2 f'.2 ∨
        f = (field, .reference name required) ∧ f'.2 = target.schema.withFlag required))
        fields fields' := by
  rcases h with rfl | inlined
  · exact ⟨fields, rfl, List.forall₂_same.mpr fun f _ => ⟨rfl, .inl (.inl rfl)⟩⟩
  · cases inlined with
    | here =>
        refine ⟨_, rfl, forall₂_replace (fun f => ⟨rfl, .inl (.inl rfl)⟩) ?_ _ _⟩
        exact ⟨rfl, .inr ⟨rfl, rfl⟩⟩
    | within inside =>
        refine ⟨_, rfl, forall₂_replace (fun f => ⟨rfl, .inl (.inl rfl)⟩) ?_ _ _⟩
        exact ⟨rfl, .inl (.inr inside)⟩

end Alike

/-- A binding keeps its names, and its schema up to the reference that is written out. -/
def AlikeBound (field name : String) (required : Bool) (target : Binding) (b b' : Binding) :
    Prop :=
  b'.name = b.name ∧ b'.typeName = b.typeName ∧ Alike field name required target b.schema b'.schema

theorem bindings_alike (h : Inlining m m' field name required target) :
    List.Forall₂ (AlikeBound field name required target) m.bindings m'.bindings := by
  obtain ⟨earlier, b, later, schema, hm, inlined, rfl⟩ := h.replaced
  rw [hm]
  exact forall₂_replace (fun _ => ⟨rfl, rfl, .inl rfl⟩) ⟨rfl, rfl, .inr inlined⟩ earlier later

/-- A name that is bound is still bound, and alike. -/
theorem exists_bound (h : Inlining m m' field name required target) {n : String} {b : Binding}
    (bound : Module.Bound m.bindings n b) :
    ∃ b', Module.Bound m'.bindings n b' ∧ AlikeBound field name required target b b' :=
  LastWhere.exists_forall₂ h.bindings_alike (fun _ _ alike => by rw [alike.1]) bound

/-- A name that is bound was bound before, and alike. -/
theorem exists_bound_before (h : Inlining m m' field name required target) {n : String}
    {b' : Binding} (bound : Module.Bound m'.bindings n b') :
    ∃ b, Module.Bound m.bindings n b ∧ AlikeBound field name required target b b' :=
  LastWhere.exists_forall₂ (List.Forall₂.flip h.bindings_alike)
    (fun _ _ alike => by rw [alike.1]) bound

theorem binding?_eq_none (h : Inlining m m' field name required target) {n : String}
    (unbound : Module.binding? m.bindings n = none) : Module.binding? m'.bindings n = none := by
  have related := Module.rel_binding? h.bindings_alike (fun _ _ alike => alike.1) n
  rw [unbound] at related
  generalize Module.binding? m'.bindings n = found at related ⊢
  cases related
  rfl

/-- A step to an alias was a step to an alias before: the reference that is written out stands
below an object. -/
theorem exists_aliases_before (h : Inlining m m' field name required target) {s s' t' : Schema}
    (alike : Alike field name required target s s') (step : Aliases m'.bindings s' t') :
    ∃ t, Aliases m.bindings s t ∧ Alike field name required target t t' := by
  cases step with
  | inner =>
      rcases alike with rfl | inlined
      · exact ⟨_, .inner, .inl rfl⟩
      · obtain ⟨t, rfl, inside⟩ := inlined.exists_of_nullable
        exact ⟨t, .inner, .inr inside⟩
  | reference bound =>
      obtain ⟨b, bound, -, -, alike'⟩ := h.exists_bound_before bound
      rcases alike with rfl | inlined
      · exact ⟨_, .reference bound, alike'⟩
      · exact absurd inlined Schema.not_inlined_reference

/-- Writing a field out makes no circle of aliases. -/
theorem acyclic' (h : Inlining m m' field name required target) (n : String) :
    ¬ Circular m'.bindings n := by
  rintro ⟨b', flag, bound, circle⟩
  obtain ⟨b, bound, -, -, alike⟩ := h.exists_bound_before bound
  have hbefore : ∀ t', Relation.ReflTransGen (Aliases m'.bindings) b'.schema t' →
      ∃ t, Relation.ReflTransGen (Aliases m.bindings) b.schema t ∧
        Alike field name required target t t' := by
    intro t' way
    induction way with
    | refl => exact ⟨b.schema, .refl, alike⟩
    | tail _ step ih =>
        obtain ⟨t, way, alike⟩ := ih
        obtain ⟨u, step, alike⟩ := h.exists_aliases_before alike step
        exact ⟨u, way.tail step, alike⟩
  obtain ⟨t, way, rfl | inlined⟩ := hbefore _ circle
  · exact h.acyclic n ⟨b, flag, bound, way⟩
  · exact Schema.not_inlined_reference inlined

end Inlining

namespace Call

variable {bindings : List Binding}

/-- Without circular aliases no name is met on the chain. -/
theorem WellChained.fresh {chain : List String} {path : List Segment} {n : String} {flag : Bool}
    {value : Json}
    (chained : WellChained bindings ⟨chain, path, .reference n flag, some value⟩)
    (acyclic : ∀ n, ¬ Circular bindings n) : n ∉ chain := by
  intro followed
  obtain ⟨target, bound, back⟩ := chained.loop followed
  have aliased := Relation.ReflTransGen.mono (fun _ _ step => Follows.aliases step) _ _ back
  exact acyclic n ⟨target, flag, bound, aliased⟩

/-- A call with an empty chain is well chained. -/
theorem wellChained_nil (path : List Segment) (s : Schema) (value : Option Json) :
    WellChained bindings ⟨[], path, s, value⟩ :=
  ⟨List.nodup_nil, nofun⟩

/-- The flag at the top counts only where the value is missing. -/
theorem answer_withFlag (chain : List String) (path : List Segment) (s : Schema) (value : Json)
    (flag : Bool) :
    answer bindings ⟨chain, path, s.withFlag flag, some value⟩ =
      answer bindings ⟨chain, path, s, some value⟩ := by
  cases s with
  | nullable inner => rfl
  | reference n flag' =>
      rw [answer_eq, answer_eq]
      rfl
  | array item flag' => cases value <;> (rw [answer_eq, answer_eq]; rfl)
  | object fields flag' => cases value <;> (rw [answer_eq, answer_eq]; rfl)
  | primitive kind flag' => rw [answer_eq, answer_eq]; rfl
  | enumeration values flag' => rw [answer_eq, answer_eq]; rfl

/-- A missing value is fine unless the flag at the top asks for it. -/
theorem answer_missing (chain : List String) (path : List Segment) {s : Schema} {flag : Bool}
    (hflag : s.flag? = some flag) :
    answer bindings ⟨chain, path, s, none⟩ = absent path flag := by
  cases s with
  | nullable inner => cases hflag
  | _ =>
      obtain rfl := Option.some.inj hflag
      rw [answer, check]

theorem answer_missing_of_lenient (chain : List String) (path : List Segment) {s : Schema}
    (lenient : s.Lenient) (free : s.flag? ≠ some true) :
    answer bindings ⟨chain, path, s, none⟩ = .ok () := by
  induction lenient with
  | nullable free' _ ih =>
      rw [answer_nullable (Option.some_ne_none _).symm]
      exact ih free'
  | _ =>
      rw [answer_missing chain path rfl]
      simpa [Schema.flag?, absent_eq_ok_iff] using free

/-- How the calls of the two checks compare: they are at the same place of the document with
schemas that are alike, or at the field whose reference is written out. -/
inductive Similar (m m' : Module) (field name : String) (required : Bool) (target : Binding)
    (document : Json) : Call → Call → Prop
  | alike {chain chain' path s s' value}
      (schemas : Inlining.Alike field name required target s s')
      (stands : document.at? path = value)
      (chained : WellChained m.bindings ⟨chain, path, s, value⟩)
      (chained' : WellChained m'.bindings ⟨chain', path, s', value⟩) :
      Similar m m' field name required target document ⟨chain, path, s, value⟩
        ⟨chain', path, s', value⟩
  | replaced {place entries}
      (stands : document.at? place = some (.object entries)) :
      Similar m m' field name required target document
        ⟨[], place ++ [.key field], .reference name required, Json.lookup? field entries⟩
        ⟨[], place ++ [.key field], target.schema.withFlag required, Json.lookup? field entries⟩

section Similar

variable {m m' : Module} {field name : String} {required : Bool} {target : Binding}
  {document : Json} {chain chain' : List String} {path : List Segment} {s s' : Schema}
  {value : Option Json}

/-- Calls with empty chains at the same place are similar if their schemas are alike. -/
theorem similar_nil (schemas : Inlining.Alike field name required target s s')
    (stands : document.at? path = value) :
    Similar m m' field name required target document ⟨[], path, s, value⟩
      ⟨[], path, s', value⟩ :=
  .alike schemas stands (wellChained_nil _ _ _) (wellChained_nil _ _ _)

/-- The fields of an object are checked by similar calls. -/
theorem similar_fields {fields fields' : List Schema.Field} {entries : List (String × Json)}
    (stands : document.at? path = some (.object entries))
    (h : List.Forall₂ (fun f f' => f'.1 = f.1 ∧
      (Inlining.Alike field name required target f.2 f'.2 ∨
        f = (field, .reference name required) ∧ f'.2 = target.schema.withFlag required))
      fields fields') :
    List.Forall₂ (Similar m m' field name required target document)
      (fields.map fun f => ⟨[], path ++ [.key f.1], f.2, Json.lookup? f.1 entries⟩)
      (fields'.map fun f => ⟨[], path ++ [.key f.1], f.2, Json.lookup? f.1 entries⟩) := by
  rw [List.forall₂_map_left_iff, List.forall₂_map_right_iff]
  refine h.imp fun f f' hf => ?_
  obtain ⟨key, s'⟩ := f'
  obtain ⟨rfl, schemas | ⟨rfl, rfl⟩⟩ := hf
  · exact similar_nil schemas (Json.at?_key stands _)
  · exact .replaced stands

/-- The own tests are the same where a field is written out below, as the fields keep their
names. -/
theorem own_of_inlined {filling : Schema} {bindings bindings' : List Binding}
    (inlined : Schema.Inlined field name required filling s s') :
    own bindings' ⟨chain', path, s', value⟩ = own bindings ⟨chain, path, s, value⟩ := by
  cases inlined with
  | inner inside => rfl
  | item inside => rcases value with _ | (_ | _ | _ | _ | _ | _) <;> rfl
  | here =>
      rcases value with _ | (_ | _ | _ | _ | _ | entries)
      case some.object => simp only [own, unknownKey?, List.map_append, List.map_cons]
      all_goals rfl
  | within inside =>
      rcases value with _ | (_ | _ | _ | _ | _ | entries)
      case some.object => simp only [own, unknownKey?, List.map_append, List.map_cons]
      all_goals rfl

theorem own_of_not_reference {bindings bindings' : List Binding}
    (plain : ∀ n flag, s ≠ .reference n flag) :
    own bindings' ⟨chain', path, s, value⟩ = own bindings ⟨chain, path, s, value⟩ := by
  cases s with
  | reference n flag => exact absurd rfl (plain n flag)
  | nullable inner => rfl
  | _ => rcases value with _ | (_ | _ | _ | _ | _ | _) <;> rfl

theorem own_of_alike (h : Inlining m m' field name required target)
    (schemas : Inlining.Alike field name required target s s')
    (chained : WellChained m.bindings ⟨chain, path, s, value⟩)
    (chained' : WellChained m'.bindings ⟨chain', path, s', value⟩) :
    own m'.bindings ⟨chain', path, s', value⟩ = own m.bindings ⟨chain, path, s, value⟩ := by
  rcases schemas with rfl | inlined
  · cases s' with
    | reference n flag =>
        cases value with
        | none => rfl
        | some value =>
            have related := Module.rel_binding? h.bindings_alike (fun _ _ alike => alike.1) n
            simp only [own, chained.fresh h.acyclic, chained'.fresh h.acyclic', if_false]
            generalize Module.binding? m.bindings n = found at related ⊢
            generalize Module.binding? m'.bindings n = found' at related ⊢
            cases related <;> rfl
    | _ => exact own_of_not_reference (by simp)
  · exact own_of_inlined inlined

theorem next_of_alike (h : Inlining m m' field name required target)
    (schemas : Inlining.Alike field name required target s s')
    (stands : document.at? path = value)
    (chained : WellChained m.bindings ⟨chain, path, s, value⟩)
    (chained' : WellChained m'.bindings ⟨chain', path, s', value⟩) :
    List.Forall₂ (Similar m m' field name required target document)
      (next m.bindings ⟨chain, path, s, value⟩) (next m'.bindings ⟨chain', path, s', value⟩) := by
  cases s with
  | nullable inner =>
      obtain ⟨inner', rfl, inside⟩ := schemas.exists_of_nullable
      by_cases hv : value = some .null
      · subst hv
        exact .nil
      · rw [next_nullable hv, next_nullable hv]
        exact .cons (.alike inside stands (chained.of_calls (.inner hv))
          (chained'.of_calls (.inner hv))) .nil
  | reference n flag =>
      rcases schemas with rfl | inlined
      · cases value with
        | none => exact .nil
        | some value =>
            have fresh := chained.fresh h.acyclic
            have fresh' := chained'.fresh h.acyclic'
            simp only [next, fresh, fresh', if_false]
            cases found : Module.binding? m.bindings n with
            | none =>
                rw [h.binding?_eq_none found]
                exact .nil
            | some b =>
                have bound := Module.binding?_eq_some_iff.mp found
                obtain ⟨b', bound', -, -, schemas⟩ := h.exists_bound bound
                rw [Module.binding?_eq_some_iff.mpr bound']
                exact .cons (.alike schemas stands (chained.of_calls (.reference fresh bound))
                  (chained'.of_calls (.reference fresh' bound'))) .nil
      · cases inlined
  | array item flag =>
      obtain ⟨item', rfl, inside⟩ := schemas.exists_of_array
      rcases value with _ | (_ | _ | _ | _ | elements | _)
      case some.list =>
        simp only [next, List.forall₂_map_left_iff, List.forall₂_map_right_iff]
        refine List.forall₂_same.mpr fun p hp => similar_nil inside ?_
        rw [Json.at?_index stands]
        exact List.mem_zipIdx_iff_getElem?.mp hp
      all_goals exact .nil
  | object fields flag =>
      obtain ⟨fields', rfl, inside⟩ := schemas.exists_of_object
      rcases value with _ | (_ | _ | _ | _ | _ | entries)
      case some.object => exact similar_fields stands inside
      all_goals exact .nil
  | primitive kind flag =>
      rcases schemas with rfl | inlined
      · cases value <;> exact .nil
      · cases inlined
  | enumeration values flag =>
      rcases schemas with rfl | inlined
      · cases value <;> exact .nil
      · cases inlined

/-- Similar calls answer alike. -/
theorem answers_agree (h : Inlining m m' field name required target) (c c' : Call)
    (similar : Similar m m' field name required target document c c') :
    Agree field target document (c.answer m.bindings) (c'.answer m'.bindings) := by
  induction c using Call.induction m.bindings generalizing c' with
  | step c ih =>
      cases similar with
      | alike schemas stands chained chained' =>
          rw [answer_eq, answer_eq m'.bindings, own_of_alike h schemas chained chained']
          have calls := next_of_alike h schemas stands chained chained'
          refine Agree.bind ?_ .same
          refine Result.forM_related .same (fun _ _ _ _ => Agree.bind) calls ?_
          exact fun d hd d' => ih d (mem_next_iff.mp hd) d'
      | @replaced place entries stands =>
          cases found : Json.lookup? field entries with
          | some value =>
              have followed : Calls m.bindings
                  ⟨[], place ++ [.key field], .reference name required, some value⟩ _ :=
                .reference List.not_mem_nil h.bound
              have stands' := (Json.at?_key stands field).trans found
              rw [found] at ih
              rw [answer_reference List.not_mem_nil h.bound, answer_withFlag]
              exact ih _ followed _ (.alike (.inl rfl) stands'
                ((wellChained_nil _ _ _).of_calls followed) (wellChained_nil _ _ _))
          | none =>
              rw [answer_missing [] _ (s := .reference name required) rfl]
              cases hs : target.schema with
              | nullable inner =>
                  have lenient := hs ▸ h.lenient target h.bound.mem
                  have accepts : answer m'.bindings ⟨[], place ++ [.key field],
                      (Schema.nullable inner).withFlag required, none⟩ = .ok () :=
                    answer_missing_of_lenient [] _ lenient nofun
                  rw [accepts]
                  cases required with
                  | false => exact .same
                  | true => exact .missing hs stands found
              | _ =>
                  rw [answer_missing [] _ (show _ = some required from rfl)]
                  exact .same

end Similar

end Call

end Check

namespace Module

open Check Relation

variable {m m' : Module} {field name : String} {required : Bool} {target : Binding}

theorem validateBinding_agree (h : Inlining m m' field name required target) (n : String)
    (document : Json) :
    Agree field target document (m.validateBinding n document) (m'.validateBinding n document) := by
  cases found : binding? m.bindings n with
  | none =>
      rw [validateBinding, validateBinding, found, h.binding?_eq_none found]
      exact .same
  | some b =>
      have bound := binding?_eq_some_iff.mp found
      obtain ⟨b', bound', -, -, schemas⟩ := h.exists_bound bound
      rw [validateBinding_eq_answer bound, validateBinding_eq_answer bound']
      exact Call.answers_agree h _ _ (.alike schemas rfl (Call.wellChained_start bound document)
        (Call.wellChained_start bound' document))

theorem validate_agree (h : Inlining m m' field name required target) (typeName : String)
    (document : Json) :
    Agree field target document (m.validate typeName document) (m'.validate typeName document) :=
  validate_related h.bindings_alike (fun _ _ alike => ⟨alike.1, alike.2.1⟩) (fun _ => .same)
    (fun n => validateBinding_agree h n document) typeName

/-- Naming a type changes nothing about checks, unless the type is nullable: where a field refers
to a bound name, it may hold the schema of the binding instead, with the flag of the reference.
A nullable schema asks for no field, so more documents pass when it is written out; those that
did not pass before lack the field, and were refused for that. -/
theorem validate_inlined (h : Inlining m m' field name required target) (typeName : String)
    (document : Json) :
    ((∀ inner, target.schema ≠ .nullable inner) →
      m'.validate typeName document = m.validate typeName document) ∧
    ((∃ inner, target.schema = .nullable inner) →
      (m.validate typeName document = .ok () → m'.validate typeName document = .ok ()) ∧
      (m'.validate typeName document = .ok () → m.validate typeName document ≠ .ok () →
        ∃ place entries,
          m.validate typeName document = .error (.violation (place ++ [.key field]) .required) ∧
          document.at? place = some (.object entries) ∧ Json.lookup? field entries = none)) := by
  have agree := validate_agree h typeName document
  generalize m.validate typeName document = x at agree ⊢
  generalize m'.validate typeName document = y at agree ⊢
  cases agree with
  | same => exact ⟨fun _ => rfl, fun _ => ⟨id, fun accepted refused => absurd accepted refused⟩⟩
  | @missing inner place entries _ isNullable stands lacks =>
      refine ⟨fun other => absurd isNullable (other inner), fun _ => ⟨nofun, fun _ _ => ?_⟩⟩
      exact ⟨place, entries, rfl, stands, lacks⟩

/-- A node with its tail, which is another node or `null`. -/
def node : Binding :=
  ⟨"Node", "isNode", "Node", .object [("value", .primitive .number true),
    ("tail", .reference "Tail" true)] false⟩

/-- The tail of a node. -/
def tail : Binding := ⟨"Tail", "isTail", "Tail", .nullable (.reference "Node" false)⟩

/-- A list that starts at a node. -/
def list : Binding :=
  ⟨"List", "isList", "List", .object [("first", .reference "Node" true)] false⟩

/-- The declarations of these types. -/
def chainedTypes : List Declaration :=
  [.interface "Node" [] [] [.property (.identifier "value") false (some (.keyword .number)),
      .property (.identifier "tail") false (some (.reference ⟨["Tail"]⟩ []))],
    .typeAlias "Tail" [] (.union [.reference ⟨["Node"]⟩ [], .keyword .null]),
    .typeAlias "List" [] (.object
      [.property (.identifier "first") false (some (.reference ⟨["Node"]⟩ []))])]

/-- The module of these types. -/
def chained : Module := ⟨"./input", [node, tail, list]⟩

theorem not_circular_chained (n : String) : ¬ Circular chained.bindings n := by
  rintro ⟨target, required, bound, circle⟩
  have hnode : Bound chained.bindings "Node" node := binding?_eq_some_iff.mp rfl
  have hobject (fields : List Schema.Field) (flag : Bool) :
      ¬ ReflTransGen (Aliases chained.bindings) (.object fields flag) (.reference n required) := by
    intro way
    rcases ReflTransGen.cases_head way with h | ⟨s, step, -⟩
    · cases h
    · cases step
  have hname := bound.name_eq
  obtain rfl | rfl | rfl : target = node ∨ target = tail ∨ target = list := by
    simpa [chained] using bound.mem
  · exact hobject _ _ circle
  · rcases ReflTransGen.cases_head circle with h | ⟨s, step, way⟩
    · cases h
    · cases step
      rcases ReflTransGen.cases_head way with h | ⟨s, step, way⟩
      · obtain ⟨rfl, -⟩ := Schema.reference.inj h
        exact absurd hname (by decide)
      · cases step with
        | reference bound' =>
            obtain rfl := LastWhere.unique bound' hnode
            exact hobject _ _ way
  · exact hobject _ _ circle

/-- The list with its first node written out is checked alike. Where the tail of a node is
written out, a node without its tail passes that was refused before. -/
theorem validate_inlined_chained :
    let first : Module := ⟨"./input", [node, tail, { list with
      schema := .object [("first", node.schema.withFlag true)] false }]⟩
    let last : Module := ⟨"./input", [{ node with
      schema := .object [("value", .primitive .number true),
        ("tail", tail.schema.withFlag true)] false }, tail, list]⟩
    let document := Json.object [("value", .number "1")]
    (∀ d, first.validate "List" d = chained.validate "List" d) ∧
      last.validate "Node" document = .ok () ∧
      ∃ place entries,
        chained.validate "Node" document =
          .error (.violation (place ++ [.key "tail"]) .required) ∧
        document.at? place = some (.object entries) ∧ Json.lookup? "tail" entries = none := by
  intro first last document
  have hnode : Bound chained.bindings "Node" node := binding?_eq_some_iff.mp rfl
  have htail : Bound chained.bindings "Tail" tail := binding?_eq_some_iff.mp rfl
  have compiled : bindingsOf ⟨""⟩ chainedTypes = .ok chained.bindings := rfl
  have lenient := lenient_of_bindingsOf compiled
  have inlinedFirst : Inlining chained first "first" "Node" true node := by
    refine ⟨hnode, not_circular_chained, lenient, [node, tail], _, [], _, rfl, ?_, rfl⟩
    exact @Schema.Inlined.here _ _ _ _ [] [] _
  have inlinedLast : Inlining chained last "tail" "Tail" true tail := by
    refine ⟨htail, not_circular_chained, lenient, [], _, _, _, rfl, ?_, rfl⟩
    exact @Schema.Inlined.here _ _ _ _ [("value", .primitive .number true)] [] _
  have accepted : last.validate "Node" document = .ok () := by
    simp [last, document, validate, validateBinding, bindingOfType?, binding?, node, tail, list,
      check, checkFields, Json.lookup?, Schema.withFlag, checkPrimitive, isOfKind, absent,
      unknownKey?, bind, Except.bind]
  have refused : chained.validate "Node" document ≠ .ok () := by
    simp [chained, document, validate, validateBinding, bindingOfType?, binding?, node, tail, list,
      check, checkFields, Json.lookup?, checkPrimitive, isOfKind, absent, violated, bind,
      Except.bind]
  exact ⟨fun d => (validate_inlined inlinedFirst "List" d).1 (by simp [node]), accepted,
    ((validate_inlined inlinedLast "Node" document).2 ⟨_, rfl⟩).2 accepted refused⟩

end Module

end SchemaGuards
