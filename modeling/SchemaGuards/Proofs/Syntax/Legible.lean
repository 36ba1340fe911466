import SchemaGuards.Declaration.Printer
import SchemaGuards.Proofs.Syntax.Numbers
import SchemaGuards.Proofs.Syntax.Strings
import SchemaGuards.Syntax.Types

/-!
# Types whose written form is read back

A type expression is legible when each of its words, literals and names is written as the grammar
reads it in its place. The text of a legible type starts with a token that a type starts with,
and ends where a mark stands that belongs to no type.
-/

namespace SchemaGuards

open Syntax Syntax.Parse

/-- The source of a number literal that is used as a type, with a sign or without. -/
inductive IsNumberType : List Char → Prop
  | number {cs} (h : IsNumber cs) : IsNumberType cs
  | negative {fresh gap cs} (hgap : IsGap fresh gap cs) (h : IsNumber cs) :
      IsNumberType ('-' :: (gap ++ cs))

/-- The name of a property that is written as the key of one. -/
inductive PropertyName.Legible : PropertyName → Prop
  | identifier {name : String} (h : isWordText name.toList = true) : Legible (.identifier name)
  | string {value : String} (h : nullsStandAlone value.toList = true) : Legible (.string value)
  | number {text : String} (h : IsNumber text.toList)
      (shortest : (Decimal.literalValue text.toList).text = text) : Legible (.number text)

/-- The words of access, which stand before a parameter. -/
def accessWords : List String := ["public", "protected", "private"]

/-- Words that a type starts with when they are no names. -/
def operatorWords : List String := ["keyof", "unique", "readonly", "infer"]

/-- A dotted name that a type may start with. A word that has a meaning of its own may stand
before a point only. -/
structure EntityName.Legible (name : EntityName) : Prop where
  words : ∀ part ∈ name.parts, isWordText part.toList = true
  opens : ∃ first more, name.parts = first :: more ∧ first ∉ operatorWords ∧ first ≠ "void" ∧
    (first ∉ keywords ∨ first ∈ admittedWords) ∧ (more = [] → wordType? first = none)

namespace TypeExpr

/-- A union. -/
def isUnion : TypeExpr → Bool
  | union _ => true
  | _ => false

/-- A bare name that would be read as a word of access before a bracket. -/
def isAccessWord : TypeExpr → Bool
  | reference ⟨[word]⟩ [] => accessWords.contains word
  | _ => false

/-- A type expression whose written form is read back. -/
inductive Legible : TypeExpr → Prop
  | keyword (k) : Legible (.keyword k)
  | string {value : String} (h : nullsStandAlone value.toList = true) :
      Legible (.literal (.string value))
  | number {source : String} (h : IsNumberType source.toList) :
      Legible (.literal (.number source))
  | boolean (value) : Legible (.literal (.boolean value))
  | union {types} (several : 2 ≤ types.length) (each : ∀ t ∈ types, Legible t)
      (flat : ∀ t ∈ types, t.isUnion = false) : Legible (.union types)
  | array {item} (h : Legible item) (noAccess : item.isAccessWord = false) : Legible (.array item)
  | object {members}
      (named : ∀ m ∈ members, ∃ name optional type, m = .property name optional type ∧ name.Legible)
      (typed : ∀ name optional type, .property name optional (some type) ∈ members →
        Legible type) : Legible (.object members)
  | reference {name arguments} (named : name.Legible) (each : ∀ t ∈ arguments, Legible t) :
      Legible (.reference name arguments)

/-- Types that each stand behind a separator, before a text. -/
def behind (separator : List Char) (rest : List Char) : List TypeExpr → List Char
  | [] => rest
  | t :: types => separator ++ (t.chars ++ behind separator rest types)

/-- Types joined by a separator are the first of them and the others behind separators. -/
theorem charsJoined_append (separator : List Char) (t : TypeExpr) (types : List TypeExpr)
    (rest : List Char) :
    charsJoined separator (t :: types) ++ rest = t.chars ++ behind separator rest types := by
  induction types generalizing t with
  | nil => rfl
  | cons t' types ih =>
      rw [charsJoined, behind, ← ih, List.append_assoc, List.append_assoc]
      exact List.cons_ne_nil t' types

theorem chars_union (t : TypeExpr) (types : List TypeExpr) (rest : List Char) :
    (union (t :: types)).chars ++ rest = t.chars ++ behind [' ', '|', ' '] rest types :=
  charsJoined_append _ t types rest

theorem chars_array {item : TypeExpr} (h : item.bindsLoosely = false) (rest : List Char) :
    (array item).chars ++ rest = item.chars ++ '[' :: ']' :: rest := by
  rw [chars, h, List.append_assoc]
  rfl

theorem chars_array_union (t : TypeExpr) (types : List TypeExpr) (rest : List Char) :
    (array (union (t :: types))).chars ++ rest =
      '(' :: (t.chars ++ behind [' ', '|', ' '] (')' :: '[' :: ']' :: rest) types) := by
  have hchars : (array (union (t :: types))).chars ++ rest =
      '(' :: ((union (t :: types)).chars ++ ')' :: '[' :: ']' :: rest) := by
    simp [chars, bindsLoosely, parenthesized]
  rw [hchars, chars_union]

/-- The text of an object type between its braces. -/
theorem chars_object (members : List Member) (rest : List Char) :
    ∃ gap, isPad gap = true ∧ (object members).chars ++ rest =
      '\x7b' :: (gap ++ (charsOfMembers members ++ '\x7d' :: rest)) := by
  cases members with
  | nil => exact ⟨[], rfl, rfl⟩
  | cons m more =>
      refine ⟨[' '], rfl, ?_⟩
      simp [chars]

/-- The parts of a name behind points, before a text. -/
def pointed (rest : List Char) : List String → List Char
  | [] => rest
  | part :: parts => '.' :: (part.toList ++ pointed rest parts)

/-- The arguments of a generic name, before a text. -/
def angled (rest : List Char) : List TypeExpr → List Char
  | [] => rest
  | t :: types => '<' :: (t.chars ++ behind [',', ' '] ('>' :: rest) types)

theorem chars_reference {name : EntityName} {first : String} {more : List String}
    (h : name.parts = first :: more) (arguments : List TypeExpr) (rest : List Char) :
    (reference name arguments).chars ++ rest =
      first.toList ++ pointed (angled rest arguments) more := by
  have hname (first : String) (more : List String) (rest : List Char) :
      (".".intercalate (first :: more)).toList ++ rest = first.toList ++ pointed rest more := by
    induction more generalizing first with
    | nil => simp [pointed]
    | cons second more ih =>
        rw [String.intercalate_cons_cons, pointed, ← ih]
        simp
  have hangled : (if arguments.isEmpty then [] else
      '<' :: (charsJoined [',', ' '] arguments ++ ['>'])) ++ rest = angled rest arguments := by
    cases arguments with
    | nil => rfl
    | cons t types =>
        have := charsJoined_append [',', ' '] t types ('>' :: rest)
        simp [angled, ← this]
  rw [chars, EntityName.text, h, List.append_assoc, hangled, hname]

end TypeExpr

namespace Syntax.Parse

variable {typed : Bool} {marks : List String} {gap rest : List Char} {c : Char}

/-- A text that starts with one of some marks, which ends the word or number before it. -/
structure Closes (typed : Bool) (marks : List String) (rest : List Char) : Prop where
  ends : ∀ d ∈ rest.head?, Text.isNamePart d = false ∧ d ≠ '\\' ∧ d ≠ '.'
  front : ∃ mark ∈ marks, ∃ rest', Front typed rest (.mark mark) false rest'

theorem Closes.mono {marks' : List String} (h : Closes typed marks rest)
    (hmarks : ∀ mark ∈ marks, mark ∈ marks') : Closes typed marks' rest := by
  obtain ⟨ends, mark, hmark, front⟩ := h
  exact ⟨ends, mark, hmarks mark hmark, front⟩

theorem Closes.endsNumber (h : Closes typed marks rest) : EndsNumber rest :=
  fun d hd => ⟨(h.ends d hd).1, (h.ends d hd).2.2⟩

theorem Closes.endsWord (h : Closes typed marks rest) :
    ∀ d ∈ rest.head?, Text.isNamePart d = false ∧ d ≠ '\\' :=
  fun d hd => ⟨(h.ends d hd).1, (h.ends d hd).2.1⟩

/-- A bracket or a separator closes what stands before it. -/
theorem closes_punctuation (text : String) (htext : text.toList = [c])
    (hc : c ∈ ['\x7b', '\x7d', '(', ')', '[', ']', ';', ',', ':'] ∨ typed = true ∧ c ∈ ['<', '>'])
    (hmem : text ∈ marks) : Closes typed marks (c :: rest) := by
  have hends : ∀ c ∈ ['\x7b', '\x7d', '(', ')', '[', ']', ';', ',', ':'] ++ ['<', '>'],
      Text.isNamePart c = false ∧ c ≠ '\\' ∧ c ≠ '.' :=
    List.forall_iff_forall_mem.mp (by decide)
  have hfront : Front typed ([] ++ c :: rest) (.mark text) false rest :=
    front_punctuation htext rfl hc
  refine ⟨?_, text, hmem, rest, hfront⟩
  rintro d ⟨⟩
  apply hends
  obtain hc | ⟨-, hc⟩ := hc
  · exact List.mem_append_left _ hc
  · exact List.mem_append_right _ hc

theorem front_bar : Front typed (' ' :: '|' :: ' ' :: rest) (.mark "|") false (' ' :: rest) := by
  have halone : joins typed '|' ' ' = false := by cases typed <;> decide
  have hfront : Front typed ([' '] ++ '|' :: ' ' :: rest) (.mark "|") false (' ' :: rest) := by
    refine front_mark rfl rfl (by decide) (.inr (by decide)) (fun h => absurd h (by decide)) ?_
    rintro d ⟨⟩
    exact halone
  exact hfront

/-- The bar of a union closes the type before it. -/
theorem closes_bar : Closes typed ["|"] (' ' :: '|' :: ' ' :: rest) := by
  refine ⟨?_, "|", List.mem_singleton_self _, _, front_bar⟩
  rintro d ⟨⟩
  decide

/-- The brace of an object type starts a text. -/
theorem front_object (typed : Bool) (hgap : isPad gap = true) (members : List Member)
    (rest : List Char) : ∃ rest', Front typed (gap ++ ((TypeExpr.object members).chars ++ rest))
      (.mark "\x7b") false rest' := by
  obtain ⟨gap', -, hchars⟩ := TypeExpr.chars_object members rest
  rw [hchars]
  exact ⟨_, front_punctuation rfl hgap (.inl (by decide))⟩

/-- The tokens at the start of a type. A word is followed by a mark that leaves it a word: one of
the given marks, or one that stands inside a type. -/
inductive Leads (typed : Bool) (marks : List String) (cs : List Char) : Prop
  | word {text : String} {mark : String} {rest rest' : List Char}
      (front : Front typed cs (.word text) false rest)
      (next : Front typed rest (.mark mark) false rest')
      (hmark : mark ∈ [".", "<", "[", "|"] ++ marks)
      (plain : text ∉ "new" :: operatorWords)
      (noAccess : text ∈ accessWords → mark ≠ "[")
  | string {value source : String} {rest : List Char}
      (front : Front typed cs (.string value source) false rest)
  | number {source : String} {rest : List Char} (front : Front typed cs (.number source) false rest)
  | minus {rest : List Char} (front : Front typed cs (.mark "-") false rest)
  | brace {members : List Member} {gap rest rest' : List Char} {mark : String}
      (hgap : isPad gap = true) (text : cs = gap ++ ((TypeExpr.object members).chars ++ rest))
      (legible : (TypeExpr.object members).Legible)
      (next : Front typed rest (.mark mark) false rest')
      (hmark : mark ∈ [".", "<", "[", "|"] ++ marks)
  | group {type : TypeExpr} {rest : List Char}
      (front : Front typed cs (.mark "(") false (type.chars ++ rest))
      (legible : type.Legible) (closes : Closes typed ["|"] rest)

/-- No other mark starts a type. -/
theorem Leads.exists_front {cs : List Char} (h : Leads typed marks cs) :
    ∃ t rest, Front typed cs t false rest ∧ ∀ text ∉ ["-", "\x7b", "("], t ≠ .mark text := by
  cases h with
  | word front _ _ _ _ => exact ⟨_, _, front, fun _ _ h => by cases h⟩
  | string front => exact ⟨_, _, front, fun _ _ h => by cases h⟩
  | number front => exact ⟨_, _, front, fun _ _ h => by cases h⟩
  | minus front => exact ⟨_, _, front, fun _ h => by rintro ⟨⟩; exact h (by decide)⟩
  | brace hgap text _ _ _ =>
      obtain ⟨rest, front⟩ := front_object typed hgap _ _
      exact ⟨_, rest, text ▸ front, fun _ h => by rintro ⟨⟩; exact h (by decide)⟩
  | group front _ _ => exact ⟨_, _, front, fun _ h => by rintro ⟨⟩; exact h (by decide)⟩

theorem Leads.mono {marks' : List String} {cs : List Char} (h : Leads typed marks cs)
    (hmarks : ∀ mark ∈ marks, mark ∈ [".", "<", "[", "|"] ++ marks') : Leads typed marks' cs := by
  cases h with
  | word front next hmark plain noAccess =>
      refine .word front next ?_ plain noAccess
      obtain hmark | hmark := List.mem_append.mp hmark
      · exact List.mem_append_left _ hmark
      · exact hmarks _ hmark
  | string front => exact .string front
  | number front => exact .number front
  | minus front => exact .minus front
  | brace hgap text legible next hmark =>
      refine .brace hgap text legible next ?_
      obtain hmark | hmark := List.mem_append.mp hmark
      · exact List.mem_append_left _ hmark
      · exact hmarks _ hmark
  | group front legible closes => exact .group front legible closes

/-- A word that closes where it stands leads a type. -/
theorem leads_word {text : String} (hword : isWordText text.toList = true)
    (hgap : isPad gap = true) (plain : text ∉ "new" :: operatorWords)
    (closes : Closes typed marks rest) (noAccess : text ∈ accessWords → "[" ∉ marks) :
    Leads typed marks (gap ++ (text.toList ++ rest)) := by
  obtain ⟨mark, hmark, rest', next⟩ := closes.front
  refine .word (front_word hgap hword closes.endsWord) next (List.mem_append_right _ hmark) plain ?_
  rintro haccess rfl
  exact noAccess haccess hmark

theorem isGap_pad {cs : List Char} (hgap : isPad gap = true) (hcs : IsNumber cs) :
    IsGap false gap cs := by
  obtain ⟨c, more, rfl, hopens, -⟩ := hcs.exists_head
  exact fun offset => skipGap_pad hgap hopens offset more

/-- What stands before a number joins with no sign before it. -/
theorem IsGap.head_notMem {fresh : Bool} {cs : List Char} (hgap : IsGap fresh gap cs)
    (hcs : IsNumber cs) : ∀ d ∈ (gap ++ (cs ++ rest)).head?, d ∉ ['-', '='] := by
  intro d hd hsign
  cases gap with
  | nil =>
      obtain ⟨c, more, rfl, -, -, hother⟩ := hcs.exists_head
      obtain rfl : c = d := Option.some.inj hd
      have hsub : ∀ d ∈ ['-', '='], d ∈ ['\\', '"', '\'', '<', '>', '-', '=', '|'] := by simp
      exact hother (hsub c hsign)
  | cons c gap =>
      obtain rfl : c = d := Option.some.inj hd
      -- A sign would stop the gap where it stands.
      have hopens : ∀ d ∈ ['-', '='], opensToken d = true :=
        List.forall_iff_forall_mem.mp (by decide)
      have := (skipGap_opening (hopens c hsign) 0 false (gap ++ cs)).symm.trans (hgap 0)
      simp at this

/-- A minus sign before a number starts a text. -/
theorem starts_minus {gap' cs : List Char} {fresh : Bool} (hgap : isPad gap = true)
    (hgap' : IsGap fresh gap' cs) (hcs : IsNumber cs) :
    Starts typed gap ['-'] (.mark "-") false (gap' ++ (cs ++ rest)) := by
  refine starts_mark rfl hgap (by decide) (.inr (by decide)) (fun h => absurd h (by decide)) ?_
  exact fun d hd => joins_eq_false (by decide) (hgap'.head_notMem hcs d hd)

theorem isNameStart_of_isDigitOf {d : Char} (hd : Decimal.isDigitOf 10 d = true) :
    Text.isNameStart d = false :=
  (opensToken_of_number (by rw [decimal_of_isDigitOf hd, Bool.true_or])).2.1

/-- The point of a dotted name starts a text. -/
theorem front_point {part : List Char} (hpart : isWordText part = true) :
    Front typed ('.' :: (part ++ rest)) (.mark ".") false (part ++ rest) := by
  cases part with
  | nil => cases hpart
  | cons d part =>
      have hd : Text.isNameStart d = true := by
        simp only [isWordText, Bool.and_eq_true] at hpart
        exact hpart.1
      have hpoint : d ≠ '.' := by
        rintro rfl
        exact absurd hd (by decide)
      have hdigit : Decimal.isDigitOf 10 d = false := Bool.eq_false_iff.mpr fun h => by
        rw [isNameStart_of_isDigitOf h] at hd
        cases hd
      have hfront : Front typed ([] ++ '.' :: (d :: part ++ rest)) (.mark ".") false
          (d :: part ++ rest) := by
        refine front_mark rfl rfl (by decide) (.inr (by decide)) (fun _ => hdigit) ?_
        rintro _ ⟨⟩
        have hseconds : d ∉ ['.'] := by simpa using hpoint
        exact joins_eq_false (by decide) hseconds
      exact hfront

theorem keyword_word (k : Keyword) : isWordText k.word.toList = true ∧
    k.word ∉ "new" :: operatorWords ∧ k.word ∉ accessWords := by
  cases k <;> decide

/-- What stands behind the first word of a reference: a point, an angle bracket, or a mark that
closes the reference. -/
theorem follows_first (htyped : typed = true) (closes : Closes typed marks rest)
    {more : List String} (words : ∀ part ∈ more, isWordText part.toList = true)
    (arguments : List TypeExpr) :
    (∀ d ∈ (TypeExpr.pointed (TypeExpr.angled rest arguments) more).head?,
      Text.isNamePart d = false ∧ d ≠ '\\') ∧
    ∃ mark rest', Front typed (TypeExpr.pointed (TypeExpr.angled rest arguments) more)
        (.mark mark) false rest' ∧
      (more ≠ [] ∧ mark = "." ∨ more = [] ∧ arguments ≠ [] ∧ mark = "<" ∨
        more = [] ∧ arguments = [] ∧ mark ∈ marks) := by
  cases more with
  | cons part more =>
      refine ⟨?_, ".", _, front_point (words part List.mem_cons_self), .inl ⟨?_, rfl⟩⟩
      · rintro d ⟨⟩
        decide
      · exact List.cons_ne_nil part more
  | nil =>
      cases arguments with
      | cons t types =>
          have hangle : Closes typed ["<"] (TypeExpr.angled rest (t :: types)) :=
            closes_punctuation "<" rfl (.inr ⟨htyped, by decide⟩) (by decide)
          obtain ⟨mark, hmark, rest', front⟩ := hangle.front
          refine ⟨hangle.endsWord, mark, rest', front, .inr (.inl ⟨rfl, ?_, ?_⟩)⟩
          · exact List.cons_ne_nil t types
          · exact List.mem_singleton.mp hmark
      | nil =>
          obtain ⟨mark, hmark, rest', front⟩ := closes.front
          exact ⟨closes.endsWord, mark, rest', front, .inr (.inr ⟨rfl, rfl, hmark⟩)⟩

/-- The first word of a reference with the mark behind it. -/
theorem reference_front (htyped : typed = true) (hgap : isPad gap = true) {name : EntityName}
    (words : ∀ part ∈ name.parts, isWordText part.toList = true)
    {first : String} {more : List String} (hparts : name.parts = first :: more)
    (closes : Closes typed marks rest) (arguments : List TypeExpr)
    (access : (TypeExpr.reference name arguments).isAccessWord = true → "[" ∉ marks) :
    Front typed (gap ++ ((TypeExpr.reference name arguments).chars ++ rest)) (.word first) false
      (TypeExpr.pointed (TypeExpr.angled rest arguments) more) ∧
    ∃ mark rest', Front typed (TypeExpr.pointed (TypeExpr.angled rest arguments) more)
        (.mark mark) false rest' ∧
      (more ≠ [] ∧ mark = "." ∨ more = [] ∧ arguments ≠ [] ∧ mark = "<" ∨
        more = [] ∧ arguments = [] ∧ mark ∈ marks) ∧
      (first ∈ accessWords → mark ≠ "[") := by
  have hfirst := words first (hparts ▸ List.mem_cons_self)
  obtain ⟨ends, mark, rest', next, hmark⟩ := follows_first htyped closes
    (fun part h => words part (hparts ▸ List.mem_cons_of_mem _ h)) arguments
  rw [TypeExpr.chars_reference hparts]
  refine ⟨front_word hgap hfirst ends, mark, rest', next, hmark, fun haccess hbracket => ?_⟩
  obtain ⟨-, rfl⟩ | ⟨-, -, rfl⟩ | ⟨rfl, rfl, hmark⟩ := hmark
  · exact absurd hbracket (by decide)
  · exact absurd hbracket (by decide)
  · refine access ?_ (hbracket ▸ hmark)
    cases name
    cases hparts
    exact List.contains_iff_mem.mpr haccess

/-- The text of a legible type starts with a token that a type starts with. -/
theorem leads_of_legible {type : TypeExpr} (legible : type.Legible) (htyped : typed = true) :
    ∀ {marks gap rest}, isPad gap = true → Closes typed marks rest →
      (type.isAccessWord = true → "[" ∉ marks) →
        Leads typed marks (gap ++ (type.chars ++ rest)) := by
  induction legible with
  | keyword k =>
      intro marks gap rest hgap closes _
      obtain ⟨hword, hplain, haccess⟩ := keyword_word k
      exact leads_word hword hgap hplain closes fun h => absurd h haccess
  | string h =>
      intro marks gap rest hgap closes _
      exact .string (front_string hgap h)
  | number h =>
      intro marks gap rest hgap closes _
      change Leads typed marks (gap ++ (String.toList _ ++ rest))
      generalize String.toList _ = cs at h
      cases h with
      | @number cs h =>
          exact .number ⟨gap, cs, rfl, starts_number h (isGap_pad hgap h) closes.endsNumber⟩
      | @negative fresh gap' cs hgap' h =>
          rw [List.cons_append, List.append_assoc]
          exact .minus ⟨gap, ['-'], rfl, starts_minus hgap hgap' h⟩
  | boolean value =>
      intro marks gap rest hgap closes _
      cases value with
      | true => exact leads_word (by decide) hgap (by decide) closes (fun h => absurd h (by decide))
      | false =>
          exact leads_word (by decide) hgap (by decide) closes (fun h => absurd h (by decide))
  | @union types several each flat ih =>
      intro marks gap rest hgap closes _
      have hbar : ∀ mark ∈ ["|"], mark ∈ [".", "<", "[", "|"] := by decide
      match types with
      | first :: second :: others =>
          rw [TypeExpr.chars_union, TypeExpr.behind]
          refine (ih first List.mem_cons_self hgap closes_bar fun _ => by decide).mono ?_
          exact fun mark hmark => List.mem_append_left marks (hbar mark hmark)
  | @array item h noAccess ih =>
      intro marks gap rest hgap closes _
      cases hloose : item.bindsLoosely with
      | false =>
          have hbracket : Closes typed ["["] ('[' :: ']' :: rest) :=
            closes_punctuation "[" rfl (.inl (by decide)) (by decide)
          have hsub : ∀ mark ∈ ["["], mark ∈ [".", "<", "[", "|"] := by decide
          rw [TypeExpr.chars_array hloose]
          refine (ih hgap hbracket fun h => absurd h (by rw [noAccess]; decide)).mono ?_
          exact fun mark hmark => List.mem_append_left marks (hsub mark hmark)
      | true =>
          cases h with
          | @union types several each flat =>
              match types with
              | first :: second :: others =>
                  rw [TypeExpr.chars_array_union, TypeExpr.behind]
                  exact .group (front_punctuation rfl hgap (.inl (by decide)))
                    (each first List.mem_cons_self) closes_bar
          | _ => cases hloose
  | object named fields ih =>
      intro marks gap rest hgap closes _
      obtain ⟨mark, hmark, rest', next⟩ := closes.front
      exact .brace hgap rfl (.object named fields) next (List.mem_append_right _ hmark)
  | @reference name arguments named each ih =>
      intro marks gap rest hgap closes hmarks
      obtain ⟨first, more, hparts, hplain, -, hword, -⟩ := named.opens
      have hnew : first ∉ "new" :: operatorWords := by
        have hnew : "new" ∈ keywords ∧ "new" ∉ admittedWords := by decide
        intro h
        obtain rfl | h := List.mem_cons.mp h
        · exact hword.elim (fun h => h hnew.1) hnew.2
        · exact hplain h
      obtain ⟨front, mark, rest', next, hmark, noAccess⟩ :=
        reference_front htyped hgap named.words hparts closes arguments hmarks
      refine .word front next ?_ hnew noAccess
      obtain ⟨-, rfl⟩ | ⟨-, -, rfl⟩ | ⟨-, -, hmark⟩ := hmark
      · exact List.mem_append_left marks (by decide)
      · exact List.mem_append_left marks (by decide)
      · exact List.mem_append_right _ hmark

end Syntax.Parse

end SchemaGuards
