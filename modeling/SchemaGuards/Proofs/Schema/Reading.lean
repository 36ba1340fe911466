import SchemaGuards.Schema.Render
import SchemaGuards.Proofs.Schema.Induction
import SchemaGuards.Proofs.Text.Reading

/-!
# Reading builder expressions back

A builder expression gives back its schema, when the names of fields and references are
names. A reader takes the name at the front. The name of the schema library opens a call of a
builder, unless no builder is called on it: then it is the name of a reference like any other.

## Implementation notes

The mark of a nullable schema comes after the expression of what is inside. So reading an
expression comes down to having its schema in hand and reading on with such marks. The
recursion is on a budget that the length of the text bounds.
-/

namespace SchemaGuards

theorem Primitive.ofWord?_word (p : Primitive) : ofWord? p.word = some p := by
  cases p <;> rfl

namespace Schema

open Text Text.Reading

mutual

/-- The fields and references of a schema, at any depth, have names. -/
def named : Schema → Bool
  | primitive _ _ => true
  | nullable inner => named inner
  | enumeration _ _ => true
  | array item _ => named item
  | object fields _ => namedFields fields
  | reference binding _ => isName binding

/-- Fields have names, and so have the fields and references in their schemas. -/
def namedFields : List Field → Bool
  | [] => true
  | (name, schema) :: rest => isName name && named schema && namedFields rest

end

/-! ### The reader -/

/-- A schema, with the marks of nullable schemas that come next. -/
def readNullables (s : Schema) (cs : List Char) : Option (Schema × List Char) :=
  match _found : ".allow(null)".toList.isPrefixOf? cs with
  | some rest => readNullables (.nullable s) rest
  | none => some (s, cs)
termination_by cs.length
decreasing_by
  obtain rfl := List.isPrefixOf?_eq_some_iff_append_eq.mp _found
  simp +arith

/-- String literals with commas between them. -/
def readLiterals : Nat → Reading (List String)
  | 0 => failure
  | budget + 1 => do
    let value ← literal
    if ← isNext [',', ' '] then
      let rest ← readLiterals budget
      pure (value :: rest)
    else pure [value]

/-- The strings of an enumeration up to the closing parenthesis. -/
def readValues : Reading (List String) := do
  if ← isNext [')'] then pure []
  else
    let values ← fun cs => readLiterals cs.length cs
    exactly [')']
    pure values

/-- A builder call without its flag, given readers of what is inside. -/
def readCall (level : Nat) (item : Reading Schema) (fields : Reading (List Field)) :
    Reading (Bool → Schema) :=
  (do
    exactly ".array().items(".toList
    let item ← item
    exactly [')']
    pure (array item)) <|>
  (do
    exactly ".string().valid(".toList
    let values ← readValues
    pure (enumeration values)) <|>
  (do
    exactly ".object(\x7b\x7d)".toList
    pure (object [])) <|>
  (do
    exactly ".object(\x7b\n".toList
    let fields ← fields
    exactly ('\n' :: indentation level ++ ['\x7d', ')'])
    pure (object fields)) <|>
  (do
    exactly ['.']
    let word ← name
    exactly ['(', ')']
    match Primitive.ofWord? word with
    | some p => pure (primitive p)
    | none => failure)

/-- A schema without its flag: a builder call, or the name of a binding. -/
def readHead (level : Nat) (item : Reading Schema) (fields : Reading (List Field)) :
    Reading (Bool → Schema) := do
  let word ← name
  if word = "Joi" then readCall level item fields <|> pure (reference word)
  else pure (reference word)

mutual

/-- A schema that starts on a line of the given level. -/
def read : Nat → Nat → Reading Schema
  | 0, _ => failure
  | budget + 1, level => do
    let make ← readHead level (read budget level) (readFields budget (level + 1))
    let required ← isNext ".required()".toList
    readNullables (make required)

/-- Fields on lines of the given level. -/
def readFields : Nat → Nat → Reading (List Field)
  | 0, _ => failure
  | budget + 1, level => do
    exactly (indentation level)
    let key ← name
    exactly [':', ' ']
    let schema ← read budget level
    if ← isNext [',', '\n'] then
      let rest ← readFields budget level
      pure ((key, schema) :: rest)
    else pure [(key, schema)]

end

/-! ### Where an expression ends -/

/-- What comes after an expression: nothing, or a character that no expression goes on with. -/
inductive Stops : List Char → Prop
  | nothing : Stops []
  | line (more) : Stops ('\n' :: more)
  | comma (more) : Stops (',' :: more)
  | close (more) : Stops (')' :: more)

/-- What comes after an expression of any schema, inside a nullable one as well. -/
inductive Follows : List Char → Prop
  | stops {rest} (h : Stops rest) : Follows rest
  | null (more) : Follows (".allow(null)".toList ++ more)

/-- What comes after an expression without its flag. -/
inductive FollowsHead : List Char → Prop
  | flag (more) : FollowsHead (".required()".toList ++ more)
  | null (more) : FollowsHead (".allow(null)".toList ++ more)
  | stops {rest} (h : Stops rest) : FollowsHead rest

theorem Follows.head {rest : List Char} (h : Follows rest) (required : Bool) :
    FollowsHead (requiredSuffix required ++ rest) := by
  cases required with
  | true => exact .flag rest
  | false =>
      cases h with
      | stops h => exact .stops h
      | null more => exact .null more

/-- No name goes on with what comes after the head of an expression. -/
theorem FollowsHead.ends {rest : List Char} (h : FollowsHead rest) :
    ∀ c ∈ rest.head?, isNamePart c = false := by
  cases h with
  | flag more => rintro c ⟨⟩; decide
  | null more => rintro c ⟨⟩; decide
  | stops h => cases h <;> rintro c ⟨⟩ <;> decide

variable {level : Nat} {item : Reading Schema} {fields : Reading (List Field)}
  {piece rest : List Char} {make : Bool → Schema}

theorem readNullables_null (s : Schema) (rest : List Char) :
    readNullables s (".allow(null)".toList ++ rest) = readNullables (.nullable s) rest := by
  rw [readNullables]
  rfl

theorem readNullables_of_stops (s : Schema) (h : Stops rest) :
    readNullables s rest = some (s, rest) := by
  rw [readNullables]
  cases h <;> rfl

/-- After a call, the mark of a required value tells the flag. -/
theorem reads_required (required : Bool) (h : Follows rest) :
    Reads (isNext ".required()".toList) (requiredSuffix required) required rest := by
  cases required with
  | true => exact reads_isNext_true _ _
  | false =>
      cases h with
      | stops h => cases h <;> rfl
      | null more => rfl

/-! ### Strings of an enumeration -/

theorem length_le_quotedList (values : List String) :
    values.length ≤ (quotedList values).length := by
  induction values with
  | nil => exact Nat.zero_le _
  | cons value rest ih =>
      cases rest with
      | nil => simp [quotedList, Json.quotedChars]
      | cons next rest =>
          simp only [quotedList, Json.quotedChars, List.length_append, List.length_cons] at ih ⊢
          omega

theorem quotedList_cons_cons (value next : String) (rest : List String) :
    quotedList (value :: next :: rest) =
      Json.quotedChars value.toList ++ ([',', ' '] ++ quotedList (next :: rest)) := by
  simp [quotedList]

theorem reads_literals {budget : Nat} {values : List String} (listed : values ≠ [])
    (enough : values.length ≤ budget) (rest : List Char) :
    Reads (readLiterals budget) (quotedList values) values (')' :: rest) := by
  induction values generalizing budget with
  | nil => exact absurd rfl listed
  | cons value values ih =>
      obtain ⟨budget, rfl⟩ := Nat.exists_eq_add_one_of_ne_zero (Nat.ne_zero_of_lt enough)
      cases values with
      | nil =>
          rw [quotedList, ← List.append_nil (Json.quotedChars _)]
          exact (reads_literal value _).bind rfl
      | cons next values =>
          have hrest := ih (List.cons_ne_nil _ _) (Nat.le_of_succ_le_succ enough)
          rw [quotedList_cons_cons]
          exact (reads_literal value _).bind ((reads_isNext_true [',', ' '] _).bind (hrest.map _))

theorem reads_values (values : List String) (rest : List Char) :
    Reads readValues (quotedList values ++ [')']) values rest := by
  cases values with
  | nil =>
      change Reads readValues ([')'] ++ []) [] rest
      exact (reads_isNext_true [')'] _).bind rfl
  | cons value values =>
      have listed : Reads (isNext [')']) [] false
          (quotedList (value :: values) ++ [')'] ++ rest) := by
        cases values <;> rfl
      refine listed.bind (Reads.bind ?_ ((reads_exactly [')'] rest).map _))
      refine reads_literals (List.cons_ne_nil _ _) ?_ rest
      have := length_le_quotedList (value :: values)
      rw [List.length_append]
      omega

/-! ### Calls of builders -/

theorem reads_call_array {s : Schema} (hitem : Reads item piece s (')' :: rest)) :
    Reads (readCall level item fields) (".array().items(".toList ++ (piece ++ [')'])) (array s)
      rest :=
  .orElse ((reads_exactly _ _).bind (hitem.bind ((reads_exactly [')'] rest).map _)))

theorem reads_call_enumeration (values : List String) :
    Reads (readCall level item fields) (".string().valid(".toList ++ (quotedList values ++ [')']))
      (enumeration values) rest := by
  refine reads_orElse_of_none rfl (.orElse ?_)
  exact (reads_exactly _ _).bind ((reads_values values rest).map _)

theorem reads_call_empty :
    Reads (readCall level item fields) ".object(\x7b\x7d)".toList (object []) rest := by
  refine reads_orElse_of_none rfl (reads_orElse_of_none rfl (.orElse ?_))
  exact (reads_exactly _ _).map _

theorem reads_call_object {fs : List Field}
    (hfields : Reads fields piece fs ('\n' :: indentation level ++ ['\x7d', ')'] ++ rest)) :
    Reads (readCall level item fields) (".object(\x7b\n".toList ++ (piece ++
      ('\n' :: indentation level ++ ['\x7d', ')']))) (object fs) rest := by
  refine reads_orElse_of_none rfl (reads_orElse_of_none rfl (reads_orElse_of_none rfl (.orElse ?_)))
  exact (reads_exactly _ _).bind (hfields.bind ((reads_exactly _ rest).map _))

/-- The name of a primitive is read up to the parentheses. -/
theorem reads_word (p : Primitive) (rest : List Char) :
    Reads name p.word.toList p.word ('(' :: rest) :=
  reads_name (by cases p <;> decide) (by rintro c ⟨⟩; decide)

theorem reads_call_primitive (p : Primitive) (h : FollowsHead rest) :
    Reads (readCall level item fields) (['.'] ++ (p.word.toList ++ ['(', ')'])) (primitive p)
      rest := by
  refine reads_orElse_of_none ?_ (reads_orElse_of_none ?_ (reads_orElse_of_none ?_
    (reads_orElse_of_none ?_ ?_)))
  · cases p <;> rfl
  · -- The call of the primitive `string` also opens an enumeration; what follows differs.
    cases p
    case string =>
      cases h with
      | flag more => rfl
      | null more => rfl
      | stops h => cases h <;> rfl
    all_goals rfl
  · cases p <;> rfl
  · cases p <;> rfl
  · refine (reads_exactly _ _).bind ((reads_word p _).bind ?_)
    simp only [Primitive.ofWord?_word]
    exact (reads_exactly _ _).map _

/-- No builder is called on the name of the library where an expression ends. -/
theorem run_call_eq_none (h : FollowsHead rest) : (readCall level item fields).run rest = none := by
  cases h with
  | flag more => rfl
  | null more => rfl
  | stops h => cases h <;> rfl

/-! ### Expressions in pieces -/

theorem renderFields_singleton (f : Field) :
    renderFields level [f] =
      indentation level ++ (f.1.toList ++ ([':', ' '] ++ (render level f.2 ++ []))) := by
  simp [renderFields]

theorem renderFields_cons_cons (f next : Field) (fs : List Field) :
    renderFields level (f :: next :: fs) = indentation level ++ (f.1.toList ++ ([':', ' '] ++
      (render level f.2 ++ ([',', '\n'] ++ renderFields level (next :: fs))))) := by
  simp [renderFields]

theorem render_primitive (p : Primitive) (required : Bool) :
    render level (primitive p required) =
      "Joi".toList ++ (['.'] ++ (p.word.toList ++ ['(', ')'])) ++ requiredSuffix required := by
  -- By `change`, since rewriting by the writer's equations would evaluate its long literals.
  change "Joi.".toList ++ p.word.toList ++ "()".toList ++ requiredSuffix required = _
  simp

theorem render_nullable (inner : Schema) :
    render level (nullable inner) = render level inner ++ ".allow(null)".toList := rfl

theorem render_enumeration (values : List String) (required : Bool) :
    render level (enumeration values required) =
      "Joi".toList ++ (".string().valid(".toList ++ (quotedList values ++ [')'])) ++
        requiredSuffix required := by
  change "Joi.string().valid(".toList ++ quotedList values ++ [')'] ++ requiredSuffix required = _
  simp

theorem render_array (s : Schema) (required : Bool) :
    render level (array s required) =
      "Joi".toList ++ (".array().items(".toList ++ (render level s ++ [')'])) ++
        requiredSuffix required := by
  change "Joi.array().items(".toList ++ render level s ++ [')'] ++ requiredSuffix required = _
  simp

theorem render_object_nil (required : Bool) :
    render level (object [] required) =
      "Joi".toList ++ ".object(\x7b\x7d)".toList ++ requiredSuffix required := rfl

theorem render_object_cons (f : Field) (fs : List Field) (required : Bool) :
    render level (object (f :: fs) required) =
      "Joi".toList ++ (".object(\x7b\n".toList ++ (renderFields (level + 1) (f :: fs) ++
        ('\n' :: indentation level ++ ['\x7d', ')']))) ++ requiredSuffix required := by
  have written : (renderFields (level + 1) (f :: fs)).isEmpty = false := by
    cases fs with
    | nil => simp [renderFields_singleton]
    | cons next fs => simp [renderFields_cons_cons]
  change objectCall level (renderFields (level + 1) (f :: fs)) ++ requiredSuffix required = _
  simp [objectCall, written]

theorem render_reference (word : String) (required : Bool) :
    render level (reference word required) = word.toList ++ requiredSuffix required := rfl

theorem render_ne_nil {s : Schema} (names : s.named = true) : render level s ≠ [] := by
  cases s with
  | primitive p required => simp [render_primitive]
  | nullable inner => simp [render_nullable]
  | enumeration values required => simp [render_enumeration]
  | array item required => simp [render_array]
  | object fields required =>
      cases fields with
      | nil => simp [render_object_nil]
      | cons f fs => simp [render_object_cons]
  | reference name required =>
      have hname : name.toList ≠ [] := by
        simp only [named, isName, Bool.and_eq_true] at names
        simpa using names.1
      simp [render_reference, hname]

/-! ### Schemas -/

/-- A builder call is read after the name of the library. -/
theorem reads_head_call (dot : piece.head? = some '.')
    (hcall : Reads (readCall level item fields) piece make rest) :
    Reads (readHead level item fields) ("Joi".toList ++ piece) make rest := by
  have hname : Reads name "Joi".toList "Joi" (piece ++ rest) := by
    refine reads_name (by decide) ?_
    rw [List.head?_append, dot]
    rintro c ⟨⟩
    decide
  refine hname.bind ?_
  rw [if_pos rfl]
  exact hcall.orElse

/-- The name of a binding is read as a reference, also where it is the name of the library. -/
theorem reads_head_reference {word : String} (hword : isName word = true)
    (h : FollowsHead rest) :
    Reads (readHead level item fields) word.toList (reference word) rest := by
  rw [← List.append_nil word.toList]
  refine (reads_name hword h.ends).bind ?_
  split
  · exact reads_orElse_of_none (run_call_eq_none h) rfl
  · rfl

/-- After the head of an expression come its flag and the marks of nullable schemas. -/
theorem run_read_of_head {budget : Nat} (required : Bool) (h : Follows rest)
    (hhead : Reads (readHead level (read budget level) (readFields budget (level + 1))) piece make
      (requiredSuffix required ++ rest)) :
    (read (budget + 1) level).run (piece ++ requiredSuffix required ++ rest) =
      readNullables (make required) rest := by
  rw [read, List.append_assoc, StateT.run_bind, hhead]
  change (isNext ".required()".toList >>= fun required => readNullables (make required)).run _ = _
  rw [StateT.run_bind, reads_required required h]
  rfl

/-- Fields are read back if their schemas are. -/
theorem reads_fields {budget : Nat} {fs : List Field} (listed : fs ≠ [])
    (names : namedFields fs = true) (enough : (renderFields level fs).length ≤ budget)
    (hread : ∀ f ∈ fs, ∀ budget rest, f.2.named = true → (render level f.2).length ≤ budget →
      Stops rest → Reads (read budget level) (render level f.2) f.2 rest) (rest : List Char) :
    Reads (readFields budget level) (renderFields level fs) fs ('\n' :: rest) := by
  induction fs generalizing budget with
  | nil => exact absurd rfl listed
  | cons f fs ih =>
      obtain ⟨⟨hkey, hschema⟩, hfs⟩ : (isName f.1 = true ∧ f.2.named = true) ∧
          namedFields fs = true := by
        simpa only [namedFields, Bool.and_eq_true] using names
      have colon : isNamePart ':' = false := by decide
      cases fs with
      | nil =>
          rw [renderFields_singleton] at enough ⊢
          simp only [List.length_append, List.length_cons] at enough
          obtain ⟨budget, rfl⟩ := Nat.exists_eq_add_one_of_ne_zero (n := budget) (by omega)
          have hlast := hread f (.head _) budget ([] ++ '\n' :: rest) hschema (by omega) (.line _)
          refine (reads_exactly _ _).bind ((reads_name hkey ?_).bind
            ((reads_exactly [':', ' '] _).bind (hlast.bind ?_)))
          · exact fun c hc => Option.some.inj hc ▸ colon
          · rfl
      | cons next fs =>
          rw [renderFields_cons_cons] at enough ⊢
          simp only [List.length_append, List.length_cons] at enough
          obtain ⟨budget, rfl⟩ := Nat.exists_eq_add_one_of_ne_zero (n := budget) (by omega)
          have hlen : (renderFields level (next :: fs)).length ≤ budget := by omega
          have hrest := ih (List.cons_ne_nil _ _) hfs hlen fun g hg => hread g (.tail _ hg)
          have hnext := hread f (.head _) budget
            ([',', '\n'] ++ renderFields level (next :: fs) ++ '\n' :: rest) hschema (by omega)
            (.comma _)
          refine (reads_exactly _ _).bind ((reads_name hkey ?_).bind ((reads_exactly _ _).bind
            (hnext.bind ((reads_isNext_true [',', '\n'] _).bind (hrest.map _)))))
          exact fun c hc => Option.some.inj hc ▸ colon

/-- There is a step left of any budget that covers an expression. -/
theorem exists_budget {s : Schema} {budget : Nat} (names : s.named = true)
    (enough : (render level s).length ≤ budget) : ∃ smaller, budget = smaller + 1 := by
  have written : render level s ≠ [] := render_ne_nil names
  have := List.length_pos_iff.mpr written
  exact Nat.exists_eq_add_one_of_ne_zero (by omega)

/-- Reading an expression comes down to its schema and the marks that come next. -/
theorem run_read (s : Schema) {budget : Nat} (names : s.named = true)
    (enough : (render level s).length ≤ budget) (h : Follows rest) :
    (read budget level).run (render level s ++ rest) = readNullables s rest := by
  induction s using Schema.induction generalizing budget level rest with
  | primitive p required =>
      obtain ⟨budget, rfl⟩ := exists_budget names enough
      rw [render_primitive]
      exact run_read_of_head required h
        (reads_head_call rfl (reads_call_primitive p (h.head required)))
  | nullable inner ih =>
      rw [render_nullable, List.length_append] at enough
      rw [render_nullable, List.append_assoc,
        ih names (Nat.le_of_add_right_le enough) (.null rest), readNullables_null]
  | enumeration values required =>
      obtain ⟨budget, rfl⟩ := exists_budget names enough
      rw [render_enumeration]
      exact run_read_of_head required h (reads_head_call rfl (reads_call_enumeration values))
  | array item required ih =>
      obtain ⟨budget, rfl⟩ := exists_budget names enough
      rw [render_array] at enough ⊢
      have hlen : (render level item).length ≤ budget := by
        simp only [List.length_append, List.length_cons] at enough
        omega
      refine run_read_of_head required h (reads_head_call rfl (reads_call_array ?_))
      exact (ih names hlen (.stops (.close _))).trans (readNullables_of_stops item (.close _))
  | object fields required ih =>
      obtain ⟨budget, rfl⟩ := exists_budget names enough
      cases fields with
      | nil =>
          rw [render_object_nil]
          exact run_read_of_head required h (reads_head_call rfl reads_call_empty)
      | cons f fs =>
          rw [render_object_cons] at enough ⊢
          have hlen : (renderFields (level + 1) (f :: fs)).length ≤ budget := by
            simp only [List.length_append, List.length_cons] at enough
            omega
          refine run_read_of_head required h (reads_head_call rfl (reads_call_object ?_))
          refine reads_fields (List.cons_ne_nil f fs) names hlen ?_ _
          intro g hg budget rest hnamed hlen hstops
          exact (ih g hg hnamed hlen (.stops hstops)).trans (readNullables_of_stops g.2 hstops)
  | reference name required =>
      obtain ⟨budget, rfl⟩ := exists_budget names enough
      rw [render_reference]
      exact run_read_of_head required h (reads_head_reference names (h.head required))

/-- An expression is read back as its schema, wherever it stops. -/
theorem reads_read (s : Schema) {budget : Nat} (names : s.named = true)
    (enough : (render level s).length ≤ budget) (h : Stops rest) :
    Reads (read budget level) (render level s) s rest :=
  (run_read s names enough (.stops h)).trans (readNullables_of_stops s h)

end Schema

end SchemaGuards
