import SchemaGuards.Proofs.Check.Failures
import SchemaGuards.Proofs.Check.Labels
import SchemaGuards.Proofs.Json.Paths
import SchemaGuards.Proofs.Json.Reordering
import SchemaGuards.Proofs.Schema.Induction

/-!
# The positions of violations

A schema declares positions of a document: the top, the fields of objects and the elements of
arrays, also those behind references. A violation at such a position tells where to look: the
label can be split into the path again, and the path leads from the root to the rejected value, or
to the object in which a required field is missing.
-/

namespace SchemaGuards

namespace Schema

mutual

/-- The names of the fields of a schema, at any depth, in the order of its text. -/
def keys : Schema → List String
  | primitive _ _ => []
  | nullable inner => keys inner
  | enumeration _ _ => []
  | array item _ => keys item
  | object fields _ => fieldKeys fields
  | reference _ _ => []

/-- The names of fields, each before those of the fields inside. -/
def fieldKeys : List Field → List String
  | [] => []
  | (name, schema) :: rest => name :: (keys schema ++ fieldKeys rest)

end

theorem mem_fieldKeys_iff {fields : List Field} {x : String} :
    x ∈ fieldKeys fields ↔ ∃ f ∈ fields, x = f.1 ∨ x ∈ f.2.keys := by
  induction fields with
  | nil => simp [fieldKeys]
  | cons f rest ih => simp [fieldKeys, ih, or_assoc]

end Schema

namespace Check

open Relation (ReflTransGen)

/-- The positions that a schema declares, each with a schema that a value there has to satisfy. -/
inductive Places (bindings : List Binding) (root : Schema) : List Segment → Schema → Prop
  | here : Places bindings root [] root
  | inner {path inner} (h : Places bindings root path (.nullable inner)) :
      Places bindings root path inner
  | reference {path name required target} (h : Places bindings root path (.reference name required))
      (bound : Module.Bound bindings name target) : Places bindings root path target.schema
  | item {path item required} (h : Places bindings root path (.array item required))
      (position : Nat) : Places bindings root (path ++ [.index position]) item
  | field {path fields required field} (h : Places bindings root path (.object fields required))
      (declared : field ∈ fields) : Places bindings root (path ++ [.key field.1]) field.2

/-- A schema declares a position. -/
def Declares (bindings : List Binding) (root : Schema) (path : List Segment) : Prop :=
  ∃ schema, Places bindings root path schema

variable {bindings : List Binding} {root : Schema} {document : Json}

/-- The keys of declared positions are names of fields. -/
theorem Places.plain {path : List Segment} {schema : Schema}
    (plainRoot : ∀ key ∈ root.keys, IsPlainKey key)
    (plain : ∀ b ∈ bindings, ∀ key ∈ b.schema.keys, IsPlainKey key)
    (h : Places bindings root path schema) :
    (∀ s ∈ path, s.Plain) ∧ ∀ key ∈ schema.keys, IsPlainKey key := by
  induction h with
  | here => exact ⟨nofun, plainRoot⟩
  | inner _ ih => exact ih
  | reference _ bound ih => exact ⟨ih.1, plain _ bound.mem⟩
  | item _ position ih =>
      exact ⟨List.forall_mem_append.mpr ⟨ih.1, List.forall_mem_singleton.mpr trivial⟩, ih.2⟩
  | @field _ fields required field _ declared ih =>
      have mem {key : String} (h : key = field.1 ∨ key ∈ field.2.keys) :
          key ∈ (Schema.object fields required).keys :=
        Schema.mem_fieldKeys_iff.mpr ⟨field, declared, h⟩
      obtain ⟨hpath, hkeys⟩ := ih
      constructor
      · have hlast := hkeys field.1 (mem (Or.inl rfl))
        exact List.forall_mem_append.mpr ⟨hpath, List.forall_mem_singleton.mpr hlast⟩
      · intro key hkey
        exact hkeys key (mem (Or.inr hkey))

/-- The path leads to an object that lacks just the last key. -/
def LacksLast (document : Json) (path : List Segment) : Prop :=
  ∃ parent key entries, path = parent ++ [.key key] ∧
    document.at? parent = some (.object entries) ∧ key ∉ entries.map (·.1)

namespace Call

variable {c d : Call}

/-- A call stands at a declared position, on what the document has there. -/
structure Stands (bindings : List Binding) (root : Schema) (document : Json) (c : Call) :
    Prop where
  placed : Places bindings root c.path c.schema
  met : document.at? c.path = c.value
  lacks : c.value = none → LacksLast document c.path

theorem stands_start (name : String) (target : Binding) (document : Json) :
    (start name target document).Stands bindings target.schema document :=
  ⟨.here, rfl, nofun⟩

/-- Whatever a call calls stands where it says, if the call does. -/
theorem Stands.of_calls (hc : c.Stands bindings root document) (h : Calls bindings c d) :
    d.Stands bindings root document := by
  obtain ⟨placed, met, lacks⟩ := hc
  cases h with
  | inner present => exact ⟨placed.inner, met, lacks⟩
  | reference fresh bound => exact ⟨placed.reference bound, met, nofun⟩
  | @element _ _ _ _ _ _ position found =>
      have hmet := (Json.at?_index met position).trans found
      exact ⟨placed.item position, hmet, nofun⟩
  | @field _ path _ _ entries field declared =>
      refine ⟨placed.field declared, Json.at?_key met field.1, ?_⟩
      intro missing
      exact ⟨path, field.1, entries, rfl, met, Json.lookup?_eq_none_iff.mp missing⟩

/-- All calls of a check stand where they say. -/
theorem Stands.of_reflTransGen (hc : c.Stands bindings root document)
    (h : ReflTransGen (Calls bindings) c d) : d.Stands bindings root document := by
  induction h with
  | refl => exact hc
  | tail _ step ih => exact ih.of_calls step

/-- A failing check makes a call whose own test fails. -/
theorem exists_own_eq_error {e : Failure} (h : c.answer bindings = .error e) :
    ∃ d, ReflTransGen (Calls bindings) c d ∧ d.own bindings = .error e := by
  induction c using Call.induction bindings with
  | step c ih =>
      rcases answer_eq_error h with ⟨d, hd, he⟩ | hown
      · obtain ⟨last, way, hlast⟩ := ih d hd he
        exact ⟨last, .head hd way, hlast⟩
      · exact ⟨c, .refl, hown⟩

end Call

/-- The violation is about an entry of an object whose key is no field of the schema there. -/
inductive UnknownKey (bindings : List Binding) (root : Schema) (document : Json) :
    List Segment → Reason → Prop
  | mk {parent key fields required entries}
      (placed : Places bindings root parent (.object fields required))
      (met : document.at? parent = some (.object entries)) (present : key ∈ entries.map (·.1))
      (undeclared : key ∉ fields.map (·.1)) :
      UnknownKey bindings root document (parent ++ [.key key]) .notAllowed

/-- The violation is the answer of a check of what the document has at the path against a schema
for that position. It tells that a value is required where there is none. -/
structure Misfit (bindings : List Binding) (root : Schema) (document : Json)
    (path : List Segment) (reason : Reason) : Prop where
  fails : ∃ schema, Places bindings root path schema ∧
    check bindings [] path schema (document.at? path) = .error (.violation path reason)
  missing : reason = .required ↔ document.at? path = none
  lacks : document.at? path = none → LacksLast document path

theorem unknownKey_or_misfit {c : Call} (hc : c.Stands bindings root document)
    {path : List Segment} {reason : Reason}
    (h : c.own bindings = .error (.violation path reason)) :
    UnknownKey bindings root document path reason ∨
      Misfit bindings root document path reason := by
  obtain ⟨placed, met, lacks⟩ := hc
  cases Call.refused_of_own h with
  | unknownKey schema value found =>
      rw [schema] at placed
      rw [value] at met
      have undeclared := List.find?_some found
      apply Or.inl
      exact .mk placed met (List.mem_of_find?_eq_some found) (by simpa using undeclared)
  | alone missing answers =>
      rw [← met] at missing lacks
      have fails := answers []
      rw [Call.answer, ← met] at fails
      exact Or.inr ⟨⟨c.schema, placed, fails⟩, missing, lacks⟩

theorem UnknownKey.exists_at? {path : List Segment} {reason : Reason}
    (h : UnknownKey bindings root document path reason) :
    ∃ value, document.at? path = some value := by
  obtain ⟨-, met, present, -⟩ := h
  rw [Json.at?_key met]
  apply Option.ne_none_iff_exists'.mp
  exact fun missing => Json.lookup?_eq_none_iff.mp missing present

theorem Reason.message_eq_required_iff {reason : Reason} :
    reason.message = "is required" ↔ reason = .required := by
  constructor
  · intro h
    cases reason with
    | required => rfl
    | notListed values =>
        change "must be one of [" ++ ", ".intercalate (values.map Text.escaped) ++ "]" = _ at h
        have hchars := congrArg String.toList h
        rw [String.toList_append, String.toList_append] at hchars
        have hfirst : some 'm' = some 'i' := congrArg List.head? hchars
        exact absurd hfirst (by decide)
    | notPrimitive kind => cases kind <;> exact absurd h (by decide)
    | _ => exact absurd h (by decide)
  · rintro rfl
    rfl

/-- The label of a violation can be split into its path, which is that of no other position, and
the path leads to the rejected value, or to an object that lacks just its last key. -/
structure Pinpointed (bindings : List Binding) (root : Schema) (document : Json)
    (path : List Segment) (reason : Reason) : Prop where
  cause : UnknownKey bindings root document path reason ∨
    Misfit bindings root document path reason
  split : splitLabel (labelChars path) = path
  only : ∀ other, other ≠ [] → (∀ s ∈ other, s.Plain) → labelChars other = labelChars path →
    other = path
  reaches : reason.message ≠ "is required" → ∃ value, document.at? path = some value
  lacks : reason.message = "is required" → LacksLast document path

theorem pinpointed {path : List Segment} {reason : Reason}
    (cause : UnknownKey bindings root document path reason ∨
      Misfit bindings root document path reason)
    (below : path ≠ []) (plain : ∀ s ∈ path, s.Plain) :
    Pinpointed bindings root document path reason := by
  refine ⟨cause, splitLabel_labelChars below plain, ?_, ?_, ?_⟩
  · intro other below' plain' same
    exact eq_of_labelChars_eq below below' plain plain' same
  · intro present
    rw [Ne, Reason.message_eq_required_iff] at present
    rcases cause with unknown | misfit
    · exact unknown.exists_at?
    · exact Option.ne_none_iff_exists'.mp fun missing => present (misfit.missing.mpr missing)
  · intro required
    rw [Reason.message_eq_required_iff] at required
    subst required
    rcases cause with unknown | misfit
    · cases unknown
    · exact misfit.lacks (misfit.missing.mp rfl)

end Check

namespace Module

open Check

variable {m : Module}

theorem unknownKey_or_misfit_of_validateBinding {name : String} {target : Binding}
    {document : Json} {path : List Segment} {reason : Reason}
    (bound : Bound m.bindings name target)
    (h : m.validateBinding name document = .error (.violation path reason)) :
    UnknownKey m.bindings target.schema document path reason ∨
      Misfit m.bindings target.schema document path reason := by
  rw [validateBinding_eq_answer bound] at h
  obtain ⟨c, way, hown⟩ := Call.exists_own_eq_error h
  have stands := (Call.stands_start name target document).of_reflTransGen way
  exact unknownKey_or_misfit stands hown

/-- Labels tell where a document fails, where no field has an empty name or one with a dot or an
opening bracket. A violation below the root is about an unknown key, or it is at a position that
the schema declares. At such a position its label can be split into the path, and the path leads to
the rejected value, or to an object that lacks the required key. No two declared positions below
the root have the same label. -/
theorem labels_pinpoint (plain : ∀ b ∈ m.bindings, ∀ key ∈ b.schema.keys, IsPlainKey key) :
    (∀ name target document path reason, Bound m.bindings name target →
      m.validateBinding name document = .error (.violation path reason) → path ≠ [] →
      (Declares m.bindings target.schema path →
        Pinpointed m.bindings target.schema document path reason) ∧
      (¬ Declares m.bindings target.schema path →
        UnknownKey m.bindings target.schema document path reason)) ∧
    ∀ b ∈ m.bindings, ∀ b' ∈ m.bindings, ∀ path other, path ≠ [] → other ≠ [] →
      Declares m.bindings b.schema path → Declares m.bindings b'.schema other →
      labelChars other = labelChars path → other = path := by
  have plainPath {b : Binding} (hb : b ∈ m.bindings) {path : List Segment}
      (declared : Declares m.bindings b.schema path) : ∀ s ∈ path, s.Plain := by
    obtain ⟨schema, placed⟩ := declared
    exact (placed.plain (plain b hb) plain).1
  constructor
  · intro name target document path reason bound h below
    have cause := unknownKey_or_misfit_of_validateBinding bound h
    constructor
    · intro declared
      exact pinpointed cause below (plainPath bound.mem declared)
    · intro undeclared
      apply cause.resolve_right
      rintro ⟨⟨schema, placed, -⟩, -, -⟩
      exact undeclared ⟨schema, placed⟩
  · intro b hb b' hb' path other below below' declared declared' same
    exact eq_of_labelChars_eq below below' (plainPath hb declared) (plainPath hb' declared') same

/-- A list of parts, each with a name and with parts of its own. -/
def parts : Schema :=
  .array (.object [("name", .primitive .string true),
    ("parts", .nullable (.reference "Parts" false))] true) false

/-- The module of the parts. -/
def partsModule : Module := ⟨"./input", [⟨"Parts", "isParts", "Parts", parts⟩]⟩

theorem labels_pinpoint_parts :
    let document := Json.list [.object [("name", .text "x"), ("parts", .null)],
      .object [("name", .text "y"), ("parts", .list [.object [("parts", .null)]])]]
    let path := [.index 1, .key "parts", .index 0, .key "name"]
    (∀ b ∈ partsModule.bindings, ∀ key ∈ b.schema.keys, IsPlainKey key) ∧
      partsModule.validateBinding "Parts" document = .error (.violation path .required) ∧
      Pinpointed partsModule.bindings parts document path .required ∧
      ∀ other, other ≠ [] → Declares partsModule.bindings parts other →
        labelChars other = "[1].parts[0].name".toList → other = path := by
  intro document path
  have plain : ∀ b ∈ partsModule.bindings, ∀ key ∈ b.schema.keys, IsPlainKey key := by decide
  have bound : Bound partsModule.bindings "Parts" ⟨"Parts", "isParts", "Parts", parts⟩ :=
    binding?_eq_some_iff.mp rfl
  have fails : partsModule.validateBinding "Parts" document =
      .error (.violation path .required) := by
    rw [validateBinding_eq_answer bound, Call.answer_eq_first]
    simp [Call.start, Call.failures_eq, Call.next, Call.ownFailures, Call.own, parts, document,
      path, single, absent, violated, notAllowed, unknownKeys, checkPrimitive, isOfKind,
      Json.lookup?, Schema.flag?, first, partsModule, binding?]
  have declared : Declares partsModule.bindings parts path :=
    have top : Places partsModule.bindings parts [] parts := .here
    have outer := (top.item 1).field (.tail _ (.head _))
    ⟨_, ((outer.inner.reference bound).item 0).field (.head _)⟩
  have below : path ≠ [] := List.cons_ne_nil _ _
  obtain ⟨pinpoint, distinct⟩ := labels_pinpoint plain
  exact ⟨plain, fails, (pinpoint _ _ _ _ _ bound fails below).1 declared,
    fun other below' declared' same =>
      distinct _ (.head _) _ (.head _) path other below below' declared declared' same⟩

end Module

end SchemaGuards
