import SchemaGuards.Json.Basic
import SchemaGuards.Check.Failure

/-!
# Paths into documents

What stands at a path of a document: a key leads to the value of the first entry that has it, and a
position to an element of a list. Nothing stands where a step does not fit the value.
-/

namespace SchemaGuards.Json

/-- What stands at a path of a document. -/
def at? : List Check.Segment → Json → Option Json
  | [], v => some v
  | .key key :: path, .object entries => (lookup? key entries).bind (at? path)
  | .index position :: path, .list items => items[position]?.bind (at? path)
  | _, _ => none

theorem at?_append (path later : List Check.Segment) (v : Json) :
    at? (path ++ later) v = (at? path v).bind (at? later) := by
  induction path generalizing v with
  | nil => rfl
  | cons segment path ih =>
      have hih : at? (path ++ later) = fun v => (at? path v).bind (at? later) := funext ih
      cases segment with
      | key key =>
          cases v with
          | object entries =>
              simp only [List.cons_append, at?, Option.bind_assoc, hih]
          | _ => rfl
      | index position =>
          cases v with
          | list items =>
              simp only [List.cons_append, at?, Option.bind_assoc, hih]
          | _ => rfl

variable {document : Json} {path : List Check.Segment}

theorem at?_key {entries : List (String × Json)} (h : document.at? path = some (.object entries))
    (key : String) : document.at? (path ++ [.key key]) = lookup? key entries := by
  rw [at?_append, h]
  cases hv : lookup? key entries <;> simp [at?, hv]

theorem at?_index {items : List Json} (h : document.at? path = some (.list items))
    (position : Nat) : document.at? (path ++ [.index position]) = items[position]? := by
  rw [at?_append, h]
  cases hv : items[position]? <;> simp [at?, hv]

end SchemaGuards.Json
