import SchemaGuards.Schema.Basic
import SchemaGuards.Json.Basic

/-!
# Schemas as JSON records

A schema is recorded as an object whose entry `kind` names its form; the other entries
hold its parts. Reading a record back looks entries up by key, so their order does not
matter there, and a missing `required` stands for `false`.
-/

namespace SchemaGuards

namespace Json

/-- The value found under a key is smaller than the list that holds it. -/
theorem sizeOf_lookup? {key : String} {entries : List (String × Json)} {value : Json}
    (h : lookup? key entries = some value) : sizeOf value + 2 < sizeOf entries := by
  induction entries with
  | nil => simp [lookup?] at h
  | cons entry rest ih =>
    obtain ⟨k, v⟩ := entry
    by_cases hk : k = key
    · simp only [lookup?, hk, if_true, Option.some.injEq] at h
      subst h
      simp only [List.cons.sizeOf_spec, Prod.mk.sizeOf_spec]
      have : 0 < sizeOf rest := by cases rest <;> simp +arith
      omega
    · simp only [lookup?, hk, if_false] at h
      have := ih h
      simp only [List.cons.sizeOf_spec]
      omega

/-- The string under a key. -/
def text? (key : String) (entries : List (String × Json)) : Option String :=
  match lookup? key entries with
  | some (.text value) => some value
  | _ => none

/-- The truth value under a key; `false` if the key is missing. -/
def flag? (key : String) (entries : List (String × Json)) : Option Bool :=
  match lookup? key entries with
  | some (.bool value) => some value
  | none => some false
  | _ => none

/-- A list of strings. -/
def texts? : List Json → Option (List String)
  | [] => some []
  | .text value :: rest => (texts? rest).map (value :: ·)
  | _ :: _ => none

end Json

namespace Schema

mutual

/-- The record of a schema. -/
def record : Schema → Json
  | primitive p required =>
    .object [("kind", .text "primitive"), ("primitive", .text p.word),
      ("required", .bool required)]
  | nullable inner => .object [("kind", .text "nullable"), ("inner", record inner)]
  | enumeration values required =>
    .object [("kind", .text "string_enum"), ("values", .list (values.map .text)),
      ("required", .bool required)]
  | array item required =>
    .object [("kind", .text "array"), ("item", record item), ("required", .bool required)]
  | object fields required =>
    .object [("kind", .text "object"), ("fields", .list (fieldRecords fields)),
      ("required", .bool required)]
  | reference binding required =>
    .object [("kind", .text "ref"), ("binding", .text binding), ("required", .bool required)]

/-- The records of fields, in order. -/
def fieldRecords : List Field → List Json
  | [] => []
  | (name, schema) :: rest =>
    .object [("name", .text name), ("schema", record schema)] :: fieldRecords rest

end

mutual

/-- The schema that a record describes. -/
def ofRecord? (json : Json) : Option Schema :=
  match json with
  | .object entries =>
    match Json.text? "kind" entries with
    | some "primitive" => do
      let word ← Json.text? "primitive" entries
      let p ← Primitive.ofWord? word
      let required ← Json.flag? "required" entries
      pure (.primitive p required)
    | some "nullable" =>
      match _found : Json.lookup? "inner" entries with
      | some inner => (ofRecord? inner).map .nullable
      | none => none
    | some "string_enum" =>
      match Json.lookup? "values" entries with
      | some (.list values) => do
        let values ← Json.texts? values
        let required ← Json.flag? "required" entries
        pure (.enumeration values required)
      | _ => none
    | some "array" =>
      match _found : Json.lookup? "item" entries with
      | some item => do
        let item ← ofRecord? item
        let required ← Json.flag? "required" entries
        pure (.array item required)
      | none => none
    | some "object" =>
      match _found : Json.lookup? "fields" entries with
      | some (.list items) => do
        let fields ← fieldsOfRecords? items
        let required ← Json.flag? "required" entries
        pure (.object fields required)
      | _ => none
    | some "ref" => do
      let binding ← Json.text? "binding" entries
      let required ← Json.flag? "required" entries
      pure (.reference binding required)
    | _ => none
  | _ => none
termination_by sizeOf json
decreasing_by
  all_goals
    have := Json.sizeOf_lookup? _found
    simp_all +arith
    omega

/-- The fields that a list of records describes. -/
def fieldsOfRecords? (items : List Json) : Option (List Field) :=
  match items with
  | [] => some []
  | .object entries :: rest =>
    match _found : Json.lookup? "schema" entries with
    | some schema => do
      let name ← Json.text? "name" entries
      let schema ← ofRecord? schema
      let others ← fieldsOfRecords? rest
      pure ((name, schema) :: others)
    | none => none
  | _ :: _ => none
termination_by sizeOf items
decreasing_by
  · have := Json.sizeOf_lookup? _found
    simp +arith
    omega
  · simp +arith

end

end Schema

end SchemaGuards
