/-!
# JSON values

Documents that are checked and records that are printed are values of this type. Objects
keep their entries in the order of the text, because diagnostics name the first entry in
that order. A number is kept as it is written: checks ask only whether a value is one.
-/

namespace SchemaGuards

/-- A JSON value with ordered objects. -/
inductive Json where
  | null
  | bool (value : Bool)
  | number (literal : String)
  | text (value : String)
  | list (items : List Json)
  | object (entries : List (String × Json))
  deriving Inhabited, Repr

namespace Json

/-- The value under a key of an association list. -/
def lookup? (key : String) : List (String × Json) → Option Json
  | [] => none
  | (k, v) :: rest => if k = key then some v else lookup? key rest

/-- Give a key its value: a new key goes to the end, a known one keeps its place. -/
def insert (key : String) (value : Json) : List (String × Json) → List (String × Json)
  | [] => [(key, value)]
  | (k, v) :: rest => if k = key then (k, value) :: rest else (k, v) :: insert key value rest

/-- The value found under a key occurs in the list. -/
theorem mem_of_lookup? {key : String} {entries : List (String × Json)} {value : Json}
    (h : lookup? key entries = some value) : (key, value) ∈ entries := by
  induction entries with
  | nil => simp [lookup?] at h
  | cons entry rest ih =>
    obtain ⟨k, v⟩ := entry
    by_cases hk : k = key
    · simp only [lookup?, hk, if_true, Option.some.injEq] at h
      simp [hk, h]
    · simp only [lookup?, hk, if_false] at h
      exact List.mem_cons_of_mem _ (ih h)

end Json

end SchemaGuards
