import SchemaGuards.Module.Basic
import SchemaGuards.Check.Numeral
import SchemaGuards.Check.Failure

/-!
# Checking documents

Whether the guard of a declared type accepts a JSON document. A check walks the schema
and the document together and stops at the first failure. Objects may have no keys but
their fields, empty strings are refused, strings that write a number or a truth value
convert, and a missing value is fine where the schema does not require one.

## Implementation notes

A reference continues with another schema on the same value, so neither the schema nor the
document alone bounds the recursion. The chain holds the references followed on the
current value: a name met twice is circular, so every reference uses up one more binding,
and a step into the document starts a new chain on a smaller value.
-/

namespace SchemaGuards.Check

/-- Fail with a violation. -/
def violated (path : List Segment) (reason : Reason) : Except Failure Unit :=
  .error (.violation path reason)

/-- A missing value is fine unless it is required. -/
def absent (path : List Segment) (required : Bool) : Except Failure Unit :=
  if required then violated path .required else .ok ()

/-- The value is of a primitive kind, conversions from strings included. -/
def isOfKind (kind : Primitive) (value : Json) : Bool :=
  match kind, value with
  | .any, _ => true
  | .number, .number _ => true
  | .number, .text s => isNumeral s.toList
  | .object, .object _ => true
  | .boolean, .bool _ => true
  | .boolean, .text s => isTruthWord s.toList
  | .string, .text s => !s.isEmpty
  | .null, .null => true
  | _, _ => false

/-- Check a value against a primitive kind. The empty string has a wording of its own. -/
def checkPrimitive (path : List Segment) (kind : Primitive) (value : Json) :
    Except Failure Unit :=
  if isOfKind kind value then .ok ()
  else
    match kind, value with
    | .string, .text _ => violated path .emptyString
    | _, _ => violated path (.notPrimitive kind)

/-- Check a value against a list of strings. -/
def checkListed (path : List Segment) (values : List String) (value : Json) :
    Except Failure Unit :=
  match value with
  | .text s => if s ∈ values then .ok () else violated path (.notListed values)
  | _ => violated path (.notListed values)

/-- The first key of an object that is no field. -/
def unknownKey? (fields : List Schema.Field) (entries : List (String × Json)) :
    Option String :=
  (entries.map (·.1)).find? fun key => !(fields.map (·.1)).contains key

/-- How many bindings are not on the chain. -/
def unfollowed (bindings : List Binding) (chain : List String) : Nat :=
  (bindings.filter fun b => !chain.contains b.name).length

/-- Following a reference uses up a binding. -/
theorem unfollowed_cons_lt {bindings : List Binding} {chain : List String} {name : String}
    {target : Binding} (found : Module.binding? bindings name = some target)
    (new : chain.contains name = false) :
    unfollowed bindings (name :: chain) < unfollowed bindings chain := by
  have hmem := Module.mem_of_binding? found
  have hname := Module.name_of_binding? found
  unfold unfollowed
  have hsub : (bindings.filter fun b => !(name :: chain).contains b.name) =
      (bindings.filter fun b => !chain.contains b.name).filter fun b => b.name != name := by
    rw [List.filter_filter]
    congr 1
    funext b
    by_cases hb : b.name = name <;> simp [hb]
  rw [hsub]
  refine List.length_filter_lt_length_iff_exists.2 ⟨target, ?_, ?_⟩
  · simp only [List.mem_filter, hmem, true_and]
    simpa [hname] using new
  · simp [hname]

mutual

/-- Check a value, or the lack of one, against a schema. -/
def check (bindings : List Binding) (chain : List String) (path : List Segment)
    (schema : Schema) (value : Option Json) : Except Failure Unit :=
  match schema, value with
  | .nullable _, some .null => .ok ()
  | .nullable inner, value => check bindings chain path inner value
  | .reference _ required, none => absent path required
  | .reference name _, some value =>
    match _new : chain.contains name with
    | true => .error (.circular name)
    | false =>
      match _found : Module.binding? bindings name with
      | none => .error (.unknownBinding name)
      | some target => check bindings (name :: chain) path target.schema (some value)
  | .primitive _ required, none => absent path required
  | .primitive kind _, some value => checkPrimitive path kind value
  | .enumeration _ required, none => absent path required
  | .enumeration values _, some value => checkListed path values value
  | .array _ required, none => absent path required
  | .array item _, some (.list elements) => checkElements bindings path item 0 elements
  | .array _ _, some _ => violated path .notArray
  | .object _ required, none => absent path required
  | .object fields _, some (.object entries) => do
    checkFields bindings path fields entries
    match unknownKey? fields entries with
    | some key => violated (path ++ [.key key]) .notAllowed
    | none => .ok ()
  | .object _ _, some _ => violated path (.notPrimitive .object)
termination_by (sizeOf value, unfollowed bindings chain, sizeOf schema)
decreasing_by
  · apply Prod.Lex.right
    apply Prod.Lex.right
    simp +arith
  · apply Prod.Lex.right
    apply Prod.Lex.left
    exact unfollowed_cons_lt _found _new
  · apply Prod.Lex.left
    simp +arith
  · apply Prod.Lex.left
    simp +arith

/-- Check elements of a list from a position on. -/
def checkElements (bindings : List Binding) (path : List Segment) (item : Schema)
    (position : Nat) (elements : List Json) : Except Failure Unit :=
  match elements with
  | [] => .ok ()
  | element :: rest => do
    check bindings [] (path ++ [.index position]) item (some element)
    checkElements bindings path item (position + 1) rest
termination_by (sizeOf elements, 0, 0)
decreasing_by
  · apply Prod.Lex.left
    have : 0 < sizeOf rest := by cases rest <;> simp +arith
    simp +arith
    omega
  · apply Prod.Lex.left
    simp +arith

/-- Check the entries of an object against fields, in the order of the fields. -/
def checkFields (bindings : List Binding) (path : List Segment) (fields : List Schema.Field)
    (entries : List (String × Json)) : Except Failure Unit :=
  match fields with
  | [] => .ok ()
  | field :: rest => do
    check bindings [] (path ++ [.key field.1]) field.2 (Json.lookup? field.1 entries)
    checkFields bindings path rest entries
termination_by (1 + sizeOf entries, 0, sizeOf fields)
decreasing_by
  · apply Prod.Lex.left
    cases h : Json.lookup? field.1 entries with
    | none => cases entries <;> simp +arith
    | some v =>
      have := Json.sizeOf_lookup? h
      simp +arith
      omega
  · apply Prod.Lex.right
    apply Prod.Lex.right
    simp +arith

end

end SchemaGuards.Check

namespace SchemaGuards.Module

open Check

/-- Check a document against a binding, by its generated name. -/
def validateBinding (m : Module) (name : String) (document : Json) : Except Failure Unit :=
  match Module.binding? m.bindings name with
  | none => .error (.unknownBinding name)
  | some target => check m.bindings [name] [] target.schema (some document)

/-- Check a document against a declared type. -/
def validate (m : Module) (typeName : String) (document : Json) : Except Failure Unit :=
  match Module.bindingOfType? m.bindings typeName with
  | none => .error (.unknownType typeName)
  | some target => m.validateBinding target.name document

/-- What the guard of a declared type answers. Failures other than violations remain. -/
def accepts (m : Module) (typeName : String) (document : Json) : Except Failure Bool :=
  match m.validate typeName document with
  | .ok () => .ok true
  | .error failure => if failure.isViolation then .ok false else .error failure

end SchemaGuards.Module
