import SchemaGuards.Proofs.Syntax.Patterns

/-!
# Types read back from their text

A legible type is read from its text, by the grammar for a depth that the length of the text
bounds. The parts of a type are shorter than the type, and the grammar for the depth below
reads them.
-/

namespace SchemaGuards

namespace TypeExpr

theorem length_charsJoined (separator : List Char) {types : List TypeExpr} {t : TypeExpr}
    (h : t ∈ types) : t.chars.length ≤ (charsJoined separator types).length := by
  induction types with
  | nil => cases h
  | cons first others ih =>
      cases others with
      | nil =>
          obtain rfl := List.mem_singleton.mp h
          exact Nat.le_refl _
      | cons second others =>
          rw [charsJoined, List.length_append, List.length_append]
          · cases h with
            | head => exact Nat.le_trans (Nat.le_add_right _ _) (Nat.le_add_right _ _)
            | tail _ h => exact Nat.le_trans (ih h) (Nat.le_add_left _ _)
          · exact List.cons_ne_nil second others

/-- An argument of a generic name is shorter than the reference. -/
theorem length_argument (name : EntityName) {arguments : List TypeExpr} {t : TypeExpr}
    (h : t ∈ arguments) : t.chars.length < (reference name arguments).chars.length := by
  have hempty : arguments.isEmpty = false := List.isEmpty_eq_false_iff.mpr (List.ne_nil_of_mem h)
  have := length_charsJoined [',', ' '] h
  rw [chars, hempty]
  simp only [Bool.false_eq_true, if_false, List.length_append, List.length_cons]
  omega

theorem length_charsOfMembers {members : List Member} {m : Member} (h : m ∈ members) :
    (charsOfMember m).length < (charsOfMembers members).length := by
  induction members with
  | nil => cases h
  | cons first others ih =>
      rw [charsOfMembers, List.length_append, List.length_append]
      cases h with
      | head => exact Nat.lt_add_right _ (Nat.lt_add_of_pos_right (by decide))
      | tail _ h => exact Nat.lt_of_lt_of_le (ih h) (Nat.le_add_left _ _)

/-- The type of a property is shorter than the object type. -/
theorem length_property {name : PropertyName} {optional : Bool} {t : TypeExpr}
    {members : List Member} (h : .property name optional (some t) ∈ members) :
    t.chars.length < (object members).chars.length := by
  have hempty : members.isEmpty = false := List.isEmpty_eq_false_iff.mpr (List.ne_nil_of_mem h)
  have := length_charsOfMembers h
  have hmember : (charsOfMember (.property name optional (some t))).length =
      (name.chars ++ (if optional then ['?'] else []) ++ ':' :: ' ' :: t.chars).length := rfl
  rw [chars, hempty]
  simp only [Bool.false_eq_true, if_false, List.length_append, List.length_cons] at hmember ⊢
  omega

/-- Brackets of arrays, before a text. -/
def brackets (rest : List Char) : Nat → List Char
  | 0 => rest
  | count + 1 => '[' :: ']' :: brackets rest count

/-- The written form of an array's item. -/
def bound (t : TypeExpr) : List Char := parenthesized t.bindsLoosely t.chars

/-- A type that is an array of no other. -/
def isArray : TypeExpr → Bool
  | array _ => true
  | _ => false

/-- A type under so many arrays, the innermost of which is the first. -/
def arrays : Nat → TypeExpr → TypeExpr
  | 0, t => t
  | count + 1, t => arrays count (array t)

theorem array_arrays (count : Nat) (t : TypeExpr) :
    array (arrays count t) = arrays (count + 1) t := by
  induction count generalizing t with
  | zero => rfl
  | succ count ih => exact ih (array t)

theorem brackets_append (count : Nat) (rest : List Char) :
    brackets ('[' :: ']' :: rest) count = brackets rest (count + 1) := by
  induction count with
  | zero => rfl
  | succ count ih => exact congrArg (['[', ']'] ++ ·) ih

theorem chars_array_bound (item : TypeExpr) (rest : List Char) :
    (array item).chars ++ rest = item.bound ++ '[' :: ']' :: rest := by
  rw [chars, bound, List.append_assoc]
  rfl

/-- Of the legible types only unions are put into parentheses. -/
theorem Legible.bindsLoosely_eq {t : TypeExpr} (legible : t.Legible) :
    t.bindsLoosely = t.isUnion := by
  cases legible <;> rfl

theorem Legible.bound_eq_chars {t : TypeExpr} (legible : t.Legible) (single : t.isUnion = false) :
    t.bound = t.chars := by
  rw [bound, legible.bindsLoosely_eq, single]
  rfl

/-- A legible type that is no union is a type under arrays, written before their brackets. -/
theorem Legible.exists_arrays {t : TypeExpr} (legible : t.Legible) (single : t.isUnion = false) :
    ∃ count base, t = arrays count base ∧ base.Legible ∧ base.isArray = false ∧
      (base.isAccessWord = true → count = 0) ∧
      ∀ rest, t.chars ++ rest = base.bound ++ brackets rest count := by
  have hself {t : TypeExpr} (legible : t.Legible) (single : t.isUnion = false)
      (harray : t.isArray = false) : ∃ count base, t = arrays count base ∧ base.Legible ∧
        base.isArray = false ∧ (base.isAccessWord = true → count = 0) ∧
        ∀ rest, t.chars ++ rest = base.bound ++ brackets rest count := by
    refine ⟨0, t, rfl, legible, harray, fun _ => rfl, fun rest => ?_⟩
    rw [legible.bound_eq_chars single, brackets]
  induction legible with
  | @array item h noAccess ih =>
      cases hunion : item.isUnion with
      | true =>
          refine ⟨1, item, rfl, h, ?_, ?_, fun rest => chars_array_bound item rest⟩
          · cases item with
            | union types => rfl
            | _ => cases hunion
          · intro haccess
            rw [noAccess] at haccess
            cases haccess
      | false =>
          obtain ⟨count, base, rfl, hbase, harray, haccess, hchars⟩ := ih hunion
          refine ⟨count + 1, base, array_arrays count base, hbase, harray, ?_, fun rest => ?_⟩
          · intro hword
            obtain rfl := haccess hword
            exact absurd hword (Bool.eq_false_iff.mp noAccess)
          · rw [chars_array_bound, h.bound_eq_chars hunion, hchars, brackets_append]
  | union several each flat => cases single
  | keyword k => exact hself (.keyword k) rfl rfl
  | string h => exact hself (.string h) rfl rfl
  | number h => exact hself (.number h) rfl rfl
  | boolean value => exact hself (.boolean value) rfl rfl
  | object named typed => exact hself (.object named typed) rfl rfl
  | reference named each => exact hself (.reference named each) rfl rfl

/-- Parts that are joined by bars, or one alone. -/
def joined (first : TypeExpr) : List TypeExpr → TypeExpr
  | [] => first
  | others => union (first :: others)

/-- A legible type is a union of others or one alone. -/
theorem Legible.exists_parts {t : TypeExpr} (legible : t.Legible) :
    ∃ first others, (∀ part ∈ first :: others, part.Legible ∧ part.isUnion = false ∧
        part.chars.length ≤ t.chars.length) ∧
      (∀ rest, t.chars ++ rest = first.chars ++ behind [' ', '|', ' '] rest others) ∧
      t = joined first others := by
  cases hunion : t.isUnion with
  | false =>
      refine ⟨t, [], fun part h => ?_, fun _ => rfl, rfl⟩
      obtain rfl := List.mem_singleton.mp h
      exact ⟨legible, hunion, Nat.le_refl _⟩
  | true =>
      cases legible with
      | @union types several each flat =>
          match types with
          | first :: second :: others =>
              refine ⟨first, second :: others, fun part h => ?_, chars_union first _, rfl⟩
              refine ⟨each part h, flat part h, ?_⟩
              rw [chars]
              exact length_charsJoined [' ', '|', ' '] h
      | _ => cases hunion

end TypeExpr

namespace Syntax.Parse

section Types

variable {e : Setting} {g : Grammar} {members : Parse TypeNode} {gap rest : List Char}
  {marks : List String} {length depth : Nat}

/-- The marks that a part of a union stands before. -/
def partClosing : List String := "|" :: closing

/-- A grammar reads the legible types whose text is shorter than some length. -/
def ReadsShorter (g : Grammar) (length : Nat) : Prop :=
  ∀ t : TypeExpr, t.Legible → t.chars.length < length → ReadsType g.type closing t

/-- A union in parentheses is read when the union is. -/
theorem takes_groupedType (he : e.mode.inType = true) (hgap : isPad gap = true) {type : TypeExpr}
    (reads : ReadsType g.type closing type) :
    Takes (At e (gap ++ '(' :: (type.chars ++ ')' :: rest))) (primaryType g members) (·.type = type)
      (At e rest) := by
  have hopen : Front e.mode.inType (gap ++ '(' :: (type.chars ++ ')' :: rest)) (.mark "(") false
      (type.chars ++ ')' :: rest) := front_punctuation rfl hgap (.inl (by decide))
  have hclose : Front e.mode.inType ([] ++ ')' :: rest) (.mark ")") false rest :=
    front_punctuation rfl rfl (.inl (by decide))
  have hend : Closes e.mode.inType closing (')' :: rest) :=
    closes_punctuation ")" rfl (.inl (by decide)) (by decide)
  have hinner : Takes (At e ([] ++ (type.chars ++ ')' :: rest))) g.type (·.type = type)
      (At e (')' :: rest)) := reads he rfl hend
  refine (gives_required hopen).look ?_
  change Takes _ (groupedType g) _ _
  refine (takes_here hopen).look fun start _ => ?_
  refine (gives_expectMark hopen).bind ?_
  refine hinner.bind fun node hnode => ?_
  refine (gives_expectMark hclose).bind ?_
  exact (takes_spanFrom start).bind fun span _ => takes_pure hnode

/-- An object type is read by what reads the members of one. -/
theorem takes_object (hgap : isPad gap = true) {p : Parse TypeNode} {fields : List Member}
    (legible : ∀ m ∈ fields, ReadsMember p m)
    (hmembers : Takes (At e (gap ++ ((TypeExpr.object fields).chars ++ rest))) members
      (·.type = .object fields) (At e rest)) :
    Takes (At e (gap ++ ((TypeExpr.object fields).chars ++ rest))) (primaryType g members)
      (·.type = .object fields) (At e rest) := by
  obtain ⟨rest', front⟩ := front_object e.mode.inType hgap fields rest
  refine (gives_required front).look ?_
  have hlook : Takes (At e (gap ++ ((TypeExpr.object fields).chars ++ rest)))
      (lookAhead opensMappedType) (· = false)
      (At e (gap ++ ((TypeExpr.object fields).chars ++ rest))) :=
    takes_lookAhead (takes_opensMappedType (e := e.quieted) hgap legible)
  refine hlook.bind ?_
  rintro _ rfl
  exact hmembers

/-- A predefined type is read before any mark but a point. -/
theorem takes_predefined (hgap : isPad gap = true) (k : Keyword)
    (closes : Closes e.mode.inType marks rest) (hpoint : "." ∉ marks) :
    Takes (At e (gap ++ (k.word.toList ++ rest))) (primaryType g members) (·.type = .keyword k)
      (At e rest) := by
  have front : Front e.mode.inType (gap ++ (k.word.toList ++ rest)) (.word k.word) false rest :=
    front_word hgap (keyword_word k).1 closes.endsWord
  obtain ⟨t, rest', next, hpoint, hword⟩ := closes.follows hpoint
  by_cases h : k = .this
  · subst h
    exact takes_this front next hword
  · exact takes_keyword h front next hpoint

/-- A legible type that is no array is read when the types in it are. -/
theorem takes_primaryType (he : e.mode.inType = true) (hgap : isPad gap = true) {base : TypeExpr}
    (legible : base.Legible) (single : base.isArray = false)
    (reads : ReadsShorter (Grammar.upTo (depth + 2)) length)
    (hlength : base.bound.length ≤ length) (closes : Closes e.mode.inType marks rest)
    (hmarks : ∀ mark ∈ marks, mark ∈ innerMarks)
    (hbracket : base.isAccessWord = true → "[" ∉ marks) :
    Takes (At e (gap ++ (base.bound ++ rest)))
      (primaryType (Grammar.upTo (depth + 2)) (objectType (Grammar.upTo (depth + 2))))
      (·.type = base) (At e rest) := by
  have hpoint : "." ∉ marks := fun h => absurd (hmarks "." h) (by decide)
  cases legible with
  | keyword k => exact takes_predefined hgap k closes hpoint
  | string h => exact takes_string (front_string hgap h)
  | number h => exact takes_number hgap h closes.endsNumber
  | boolean value =>
      cases value with
      | true => exact takes_literal_word (by decide) (front_word hgap (by decide) closes.endsWord)
      | false => exact takes_literal_word (by decide) (front_word hgap (by decide) closes.endsWord)
  | @union types several each flat =>
      have hbound : (TypeExpr.union types).bound = '(' :: ((TypeExpr.union types).chars ++ [')']) :=
        rfl
      rw [hbound, List.length_cons, List.length_append] at hlength
      have hunion : ReadsType (Grammar.upTo (depth + 2)).type closing (.union types) :=
        reads _ (.union several each flat) (by omega)
      rw [hbound, List.cons_append, List.append_assoc]
      exact takes_groupedType he hgap hunion
  | array h noAccess => cases single
  | @object fields named typed =>
      have hfields : ∀ m ∈ fields, ReadsMember (Grammar.upTo (depth + 2)).type m := by
        intro m hm
        obtain ⟨name, optional, type, rfl, hname⟩ := named m hm
        refine .property hname ?_
        rintro t ⟨⟩
        exact reads t (typed name optional t hm)
          (Nat.lt_of_lt_of_le (TypeExpr.length_property hm) hlength)
      exact takes_object hgap hfields (takes_objectType he hgap depth hfields)
  | @reference name arguments named each =>
      have harguments : ∀ t ∈ arguments, ReadsType (Grammar.upTo (depth + 2)).type closing t :=
        fun t ht => reads t (each t ht)
          (Nat.lt_of_lt_of_le (TypeExpr.length_argument name ht) hlength)
      exact takes_reference he hgap named each harguments closes hmarks hbracket

/-- The brackets of arrays are read up to where none follow. -/
theorem takes_bracketedTypes (closes : Closes e.mode.inType marks rest) (hbracket : "[" ∉ marks)
    (count : Nat) (first : TypeNode) :
    Takes (At e (TypeExpr.brackets rest count)) (bracketedTypes g first)
      (·.type = TypeExpr.arrays count first.type) (At e rest) := by
  let inv (cs : List Char) (node : TypeNode) : Prop :=
    ∃ left, cs = TypeExpr.brackets rest left ∧
      TypeExpr.arrays left node.type = TypeExpr.arrays count first.type
  have hinv : inv (TypeExpr.brackets rest count) first := ⟨count, rfl, rfl⟩
  refine takes_iterate ?_ hinv
  rintro _ node ⟨left, rfl, hnode⟩
  cases left with
  | zero =>
      obtain ⟨mark, hmark, rest', front⟩ := closes.front
      have hother : Token.mark mark ≠ .mark "[" := by
        rintro ⟨⟩
        exact hbracket hmark
      refine .inl ?_
      refine (gives_onFreshLine front).look ?_
      refine (gives_eat_other front hother).look ?_
      exact takes_pure ⟨rfl, hnode⟩
  | succ left =>
      have hopen : Front e.mode.inType ([] ++ '[' :: ']' :: TypeExpr.brackets rest left) (.mark "[")
          false (']' :: TypeExpr.brackets rest left) := front_punctuation rfl rfl (.inl (by decide))
      have hclose : Front e.mode.inType ([] ++ ']' :: TypeExpr.brackets rest left) (.mark "]") false
          (TypeExpr.brackets rest left) := front_punctuation rfl rfl (.inl (by decide))
      refine .inr ⟨TypeExpr.brackets rest left, ?_, ?_⟩
      · rw [TypeExpr.brackets, List.length_cons, List.length_cons]
        omega
      · refine (gives_onFreshLine hopen).look ?_
        refine (gives_eatMark hopen).bind ?_
        refine (gives_eatMark hclose).bind ?_
        exact (takes_spanFrom _).bind fun span _ => takes_pure ⟨rfl, left, rfl, hnode⟩

/-- The first token of a type is no word that has a meaning of its own there. -/
theorem Leads.exists_plain {typed : Bool} {cs : List Char} (leads : Leads typed marks cs) :
    ∃ t rest, Front typed cs t false rest ∧
      ∀ text ∈ "new" :: operatorWords, t.wordText? ≠ some text := by
  cases leads with
  | word front _ _ plain _ =>
      refine ⟨_, _, front, ?_⟩
      rintro _ htext ⟨⟩
      exact plain htext
  | string front => exact ⟨_, _, front, fun _ _ h => by cases h⟩
  | number front => exact ⟨_, _, front, fun _ _ h => by cases h⟩
  | minus front => exact ⟨_, _, front, fun _ _ h => by cases h⟩
  | group front _ _ => exact ⟨_, _, front, fun _ _ h => by cases h⟩
  | @brace members gap rest _ _ hgap text _ _ _ =>
      subst text
      obtain ⟨rest', front⟩ := front_object typed hgap members rest
      exact ⟨_, _, front, fun _ _ h => by cases h⟩

/-- A word that is no modifier is not taken as one. -/
theorem gives_eatModifier_other {t : Token} {cs rest : List Char}
    (front : Front e.mode.inType cs t false rest) {allowed : List String}
    (other : ∀ text ∈ allowed, t.wordText? ≠ some text) :
    Gives (At e cs) (eatModifier allowed) false (Looked e cs) := by
  refine Gives.bind (a := none) (R := Looked e cs) ?_ (gives_pure false)
  refine (gives_required front).bind ?_
  cases htext : t.wordText? with
  | none => exact gives_pure none
  | some text =>
      have hallowed : allowed.contains text = false :=
        Bool.eq_false_iff.mpr fun h => other text (List.contains_iff_mem.mp h) htext
      simp only [hallowed]
      exact gives_pure none

/-- A type that starts with no operator is read by what reads types that stand for themselves. -/
theorem takes_operatorTypeRule {cs : List Char} {Q : TypeNode → Prop} {R : State → Prop}
    (leads : Leads e.mode.inType marks cs)
    (hprimary : Takes (At e cs) (do bracketedTypes g (← primaryType g members)) Q R) :
    Takes (At e cs) (operatorTypeRule g members) Q R := by
  obtain ⟨t, rest, front, hplain⟩ := leads.exists_plain
  have hword : ∀ text ∈ "new" :: operatorWords, t ≠ .word text := by
    rintro text h rfl
    exact hplain text h rfl
  have hwords : ∀ text ∈ ["keyof", "unique", "readonly"], text ∈ "new" :: operatorWords := by decide
  have hoperator : t.isWordIn ["keyof", "unique", "readonly"] = false :=
    Token.isWordIn_eq_false fun text h => hword text (hwords text h)
  have hmodifier : ∀ text ∈ ["readonly"], t.wordText? ≠ some text :=
    fun text h => hplain text (hwords text (List.mem_cons_of_mem _ (List.mem_cons_of_mem _ h)))
  refine (takes_here front).look fun start _ => ?_
  refine (gives_isWordOf front _).look ?_
  rw [hoperator]
  refine (gives_eat_other front (hword "infer" (by decide))).look ?_
  exact (gives_eatModifier_other front hmodifier).look hprimary

/-- A legible type that is no union is read when the types in it are. -/
theorem takes_operatorType (he : e.mode.inType = true) (hgap : isPad gap = true) {type : TypeExpr}
    (legible : type.Legible) (single : type.isUnion = false)
    (reads : ReadsShorter (Grammar.upTo (depth + 2)) type.chars.length)
    (closes : Closes e.mode.inType partClosing rest) :
    Takes (At e (gap ++ (type.chars ++ rest))) (Grammar.upTo (depth + 3)).operatorType
      (·.type = type) (At e rest) := by
  have hmarks : "[" ∉ partClosing := by decide
  have leads := leads_of_legible legible he hgap closes fun _ => hmarks
  change Takes _ (operatorTypeRule (Grammar.upTo (depth + 2))
    (objectType (Grammar.upTo (depth + 2)))) _ _
  refine takes_operatorTypeRule leads ?_
  obtain ⟨count, base, rfl, hbase, harray, haccess, hchars⟩ := legible.exists_arrays single
  have hlength : base.bound.length ≤ (TypeExpr.arrays count base).chars.length := by
    have h := congrArg List.length (hchars [])
    rw [List.append_nil, List.length_append] at h
    omega
  obtain ⟨marks, hcloses, hinner, hbracket⟩ : ∃ marks, Closes e.mode.inType marks
      (TypeExpr.brackets rest count) ∧ (∀ mark ∈ marks, mark ∈ innerMarks) ∧
      (base.isAccessWord = true → "[" ∉ marks) := by
    cases count with
    | zero => exact ⟨partClosing, closes, by decide, fun _ => hmarks⟩
    | succ count =>
        refine ⟨["["], closes_punctuation "[" rfl (.inl (by decide)) (by decide), by decide, ?_⟩
        intro hword
        cases haccess hword
  rw [hchars]
  refine (takes_primaryType he hgap hbase harray reads hlength hcloses hinner hbracket).bind
    fun node hnode => ?_
  have hrest := takes_bracketedTypes (g := Grammar.upTo (depth + 2)) closes hmarks count node
  rw [hnode] at hrest
  exact hrest

/-- A type that no ampersand follows is read alone. -/
theorem takes_intersectionType {cs : List Char} {type : TypeExpr}
    (leads : Leads e.mode.inType marks cs)
    (hpart : Takes (At e cs) g.operatorType (·.type = type) (At e rest))
    (closes : Closes e.mode.inType partClosing rest) :
    Takes (At e cs) (intersectionType g) (·.type = type) (At e rest) := by
  obtain ⟨t, rest', front, hother⟩ := leads.exists_front
  obtain ⟨t', rest'', next, hampersand, -⟩ := closes.follows (show "&" ∉ partClosing by decide)
  have hjoined : Takes (At e cs) (joinedTypes "&" g.operatorType)
      (fun found => ∃ node, found.2 = [node] ∧ node.type = type) (At e rest) := by
    refine (takes_here front).look fun start _ => ?_
    refine (gives_eat_other front (hother "&" (by decide))).look ?_
    refine hpart.bind fun node hnode => ?_
    refine Takes.bind (Q := (· = [node])) (R := At e rest) ?_ ?_
    · refine takes_iterate (I := fun cs found => cs = rest ∧ found = [node]) ?_ ⟨rfl, rfl⟩
      rintro _ _ ⟨rfl, rfl⟩
      refine .inl ?_
      exact (gives_eat_other next hampersand).look (takes_pure ⟨rfl, rfl⟩)
    · rintro _ rfl
      exact takes_pure ⟨node, rfl, hnode⟩
  refine hjoined.bind ?_
  rintro ⟨start, _⟩ ⟨node, rfl, hnode⟩
  exact takes_pure hnode

/-- What closes a union, or a bar in it, closes a part of it. -/
theorem closes_behind {typed : Bool} (closes : Closes typed closing rest) (others : List TypeExpr) :
    Closes typed partClosing (TypeExpr.behind [' ', '|', ' '] rest others) := by
  cases others with
  | nil => exact closes.mono fun mark => List.mem_cons_of_mem "|"
  | cons t others => exact closes_bar.mono (by decide)

/-- The parts of a union are read between its bars. -/
theorem takes_parts (he : e.mode.inType = true) {part : Parse TypeNode} {first : TypeExpr}
    {others : List TypeExpr} {cs : List Char}
    (hfirst : Takes (At e cs) part (·.type = first)
      (At e (TypeExpr.behind [' ', '|', ' '] rest others)))
    (reads : ∀ t ∈ others, ReadsType part partClosing t)
    (closes : Closes e.mode.inType closing rest)
    (leads : Leads e.mode.inType marks cs) :
    Takes (At e cs) (joinedTypes "|" part) (·.2.map (·.type) = first :: others) (At e rest) := by
  obtain ⟨t, rest', front, hother⟩ := leads.exists_front
  obtain ⟨t', rest'', next, hbar, -⟩ := closes.follows (show "|" ∉ closing by decide)
  refine (takes_here front).look fun start _ => ?_
  refine (gives_eat_other front (hother "|" (by decide))).look ?_
  refine hfirst.bind fun node hnode => ?_
  let inv (cs : List Char) (found : List TypeNode) : Prop :=
    ∃ left, cs = TypeExpr.behind [' ', '|', ' '] rest left ∧
      found.map (·.type) ++ left = first :: others ∧ ∀ t ∈ left, ReadsType part partClosing t
  have hinv : inv (TypeExpr.behind [' ', '|', ' '] rest others) [node] :=
    ⟨others, rfl, by rw [List.map_singleton, hnode]; rfl, reads⟩
  refine Takes.bind (Q := fun found => found.map (·.type) = first :: others) (R := At e rest)
    (takes_iterate ?_ hinv) fun found hfound => takes_pure hfound
  rintro _ found ⟨left, rfl, hfound, reads⟩
  cases left with
  | nil =>
      rw [List.append_nil] at hfound
      refine .inl ?_
      exact (gives_eat_other next hbar).look (takes_pure ⟨rfl, hfound⟩)
  | cons t left =>
      have hpart : Takes (At e ([' '] ++ (t.chars ++ TypeExpr.behind [' ', '|', ' '] rest left)))
          part (·.type = t) (At e (TypeExpr.behind [' ', '|', ' '] rest left)) := by
        exact reads t List.mem_cons_self he rfl (closes_behind closes left)
      refine .inr ⟨TypeExpr.behind [' ', '|', ' '] rest left, ?_, ?_⟩
      · simp only [TypeExpr.behind, List.length_append, List.length_cons]
        omega
      · refine (gives_eatMark front_bar).bind ?_
        refine hpart.bind fun node hnode => ?_
        refine takes_pure ⟨rfl, left, rfl, ?_, fun t h => reads t (List.mem_cons_of_mem _ h)⟩
        rw [List.map_append, List.map_singleton, hnode, List.append_assoc, ← hfound]
        rfl

/-- A part of a union is read when the types in it are. -/
theorem readsType_part {type : TypeExpr} (legible : type.Legible) (single : type.isUnion = false)
    (reads : ReadsShorter (Grammar.upTo (depth + 2)) length)
    (hlength : type.chars.length ≤ length) :
    ReadsType (intersectionType (Grammar.upTo (depth + 3))) partClosing type := by
  intro e gap rest he hgap closes
  have leads := leads_of_legible legible he hgap closes fun _ => by decide
  have hreads : ReadsShorter (Grammar.upTo (depth + 2)) type.chars.length :=
    fun t ht hlt => reads t ht (Nat.lt_of_lt_of_le hlt hlength)
  exact takes_intersectionType leads
    (takes_operatorType he hgap legible single hreads closes) closes

/-- A legible type, a union or not, is read when the types in it are. -/
theorem takes_unionType (he : e.mode.inType = true) (hgap : isPad gap = true) {type : TypeExpr}
    (legible : type.Legible) (reads : ReadsShorter (Grammar.upTo (depth + 2)) type.chars.length)
    (closes : Closes e.mode.inType closing rest) :
    Takes (At e (gap ++ (type.chars ++ rest))) (unionType (Grammar.upTo (depth + 3)))
      (·.type = type) (At e rest) := by
  have leads := leads_of_legible legible he hgap closes fun _ => by decide
  obtain ⟨first, others, hparts, hchars, htype⟩ := legible.exists_parts
  have hpart : ∀ t ∈ first :: others,
      ReadsType (intersectionType (Grammar.upTo (depth + 3))) partClosing t := by
    intro t ht
    obtain ⟨hlegible, hsingle, hlength⟩ := hparts t ht
    exact readsType_part hlegible hsingle reads hlength
  rw [hchars] at leads ⊢
  have hfirst := hpart first List.mem_cons_self he hgap (closes_behind closes others)
  have hothers : ∀ t ∈ others, ReadsType _ partClosing t :=
    fun t ht => hpart t (List.mem_cons_of_mem _ ht)
  refine (takes_parts he hfirst hothers closes leads).bind ?_
  rintro ⟨start, nodes⟩ hnodes
  rw [htype]
  match nodes, others, hnodes with
  | [node], [], hnodes => exact takes_pure (List.cons.inj hnodes).1
  | node :: node' :: nodes, second :: others, hnodes =>
      refine (takes_spanFrom start).bind fun span _ => takes_pure ?_
      exact congrArg TypeExpr.union hnodes

/-- No type of a constructor starts where a type does. -/
theorem gives_startsConstructor {cs : List Char} (leads : Leads e.mode.inType marks cs) :
    Gives (At e cs)
      (do
        if ← isWord "new" then return true
        if ← isWord "abstract" then nextIsWord "new" else return false) false (At e cs) := by
  have hother {t : Token} {rest : List Char} (front : Front e.mode.inType cs t false rest)
      (hword : t.wordText? = none) : Gives (At e cs)
        (do
          if ← isWord "new" then return true
          if ← isWord "abstract" then nextIsWord "new" else return false) false (At e cs) := by
    have hno (text : String) : decide (t = .word text) = false := by
      refine decide_eq_false ?_
      rintro rfl
      cases hword
    refine (gives_isWord front "new").look ?_
    rw [hno]
    refine (gives_isWord front "abstract").look ?_
    rw [hno]
    exact gives_pure false
  cases leads with
  | @word text mark rest rest' front next _ plain _ =>
      have hnew : Token.word text ≠ .word "new" := by
        rintro ⟨⟩
        exact plain List.mem_cons_self
      refine (gives_isWord front "new").look ?_
      rw [decide_eq_false hnew]
      refine (gives_isWord front "abstract").bind ?_
      split
      · exact (gives_nextIsWord front next "new").mono (fun _ h => h) fun _ h => h.1
      · exact (gives_pure false).mono (fun _ h => h) fun _ h => h.1
  | string front => exact hother front rfl
  | number front => exact hother front rfl
  | minus front => exact hother front rfl
  | group front _ _ => exact hother front rfl
  | @brace members gap rest _ _ hgap text _ _ _ =>
      subst text
      obtain ⟨rest', front⟩ := front_object e.mode.inType hgap members rest
      exact hother front rfl

/-- A legible type that is not conditional is read when the types in it are. -/
theorem takes_plainType (he : e.mode.inType = true) (hgap : isPad gap = true) {type : TypeExpr}
    (legible : type.Legible) (reads : ReadsShorter (Grammar.upTo (depth + 2)) type.chars.length)
    (closes : Closes e.mode.inType closing rest) :
    Takes (At e (gap ++ (type.chars ++ rest))) (Grammar.upTo (depth + 4)).plainType
      (·.type = type) (At e rest) := by
  have leads := leads_of_legible legible he hgap closes fun _ => by decide
  have hunion := takes_unionType he hgap legible reads closes
  change Takes _ (plainTypeRule (Grammar.upTo (depth + 3))) _ _
  refine (gives_startsFunctionType he (triesPatterns_upTo (depth + 3)) leads).bind ?_
  exact (gives_startsConstructor leads).bind hunion

/-- A legible type that no condition follows is read when the types in it are. -/
theorem readsType_of_shorter {type : TypeExpr} (legible : type.Legible)
    (reads : ReadsShorter (Grammar.upTo (depth + 2)) type.chars.length) :
    ReadsType (Grammar.upTo (depth + 5)).type closing type := by
  intro e gap rest he hgap closes
  change Takes _ (typeRule (Grammar.upTo (depth + 4))) _ _
  refine takes_within ({ · with plainTypes := false }) rfl ?_
  generalize hchanged : e.changed ({ · with plainTypes := false }) = e'
  have hmode : e'.mode.inType = e.mode.inType := hchanged ▸ rfl
  rw [← hmode] at he closes
  have leads := leads_of_legible legible he hgap closes fun _ => by decide
  obtain ⟨t, rest', front, -⟩ := leads.exists_front
  obtain ⟨mark, hmark, rest'', next⟩ := closes.front
  refine (takes_here front).look fun start _ => ?_
  refine (takes_plainType he hgap legible reads closes).bind fun node hnode => ?_
  refine (gives_onFreshLine next).look ?_
  refine (gives_eat_other next (by rintro ⟨⟩)).look ?_
  exact takes_pure hnode

/-- The grammar for a depth that exceeds the length of a legible type reads the type. The types in
it are shorter, and the grammar for a lower depth reads them. -/
theorem readsType_of_legible (depth : Nat) : ∀ {type : TypeExpr}, type.Legible →
    3 * type.chars.length + 5 ≤ depth → ReadsType (Grammar.upTo depth).type closing type := by
  induction depth using Nat.strongRecOn with
  | ind depth ih =>
      intro type legible hdepth
      obtain ⟨below, rfl⟩ : ∃ below, depth = below + 5 := ⟨depth - 5, by omega⟩
      refine readsType_of_shorter legible fun t ht hshorter => ?_
      exact ih (below + 2) (by omega) ht (by omega)

end Types

end Syntax.Parse

end SchemaGuards
