import SchemaGuards.Proofs.Syntax.Legible

/-!
# Types that stand for themselves

Words, literals and references are read back from their text, and so are the arguments of a
generic name when each of them is.
-/

namespace SchemaGuards.Syntax.Parse

/-- The marks that a whole type stands before. -/
def closing : List String := [";", ")", ",", ">"]

/-- The marks that stand behind a type or inside one, behind an array's item. -/
def innerMarks : List String := "[" :: "|" :: closing

section Words

variable {e : Setting} {g : Grammar} {members : Parse TypeNode} {gap cs rest : List Char}

theorem Closes.follows {marks : List String} (closes : Closes e.mode.inType marks rest)
    {mark : String} (h : mark ∉ marks) :
    ∃ t rest', Front e.mode.inType rest t false rest' ∧ t ≠ .mark mark ∧ t.wordText? = none := by
  obtain ⟨found, hfound, rest', front⟩ := closes.front
  refine ⟨_, rest', front, ?_, rfl⟩
  rintro ⟨⟩
  exact h hfound

theorem takes_literal_word {text : String} (htext : text ∈ ["true", "false"])
    (front : Front e.mode.inType cs (.word text) false rest) :
    Takes (At e cs) (primaryType g members) (·.type = .literal (.boolean (text = "true")))
      (At e rest) := by
  refine (gives_required front).look ?_
  have hliteral : (decide (text = "true") || decide (text = "false")) = true := by
    simpa using htext
  simp only [hliteral, if_true]
  refine (takes_here front).look fun start _ => ?_
  refine (gives_required front).look ?_
  refine (gives_take front).bind ?_
  exact (takes_spanFrom start).bind fun span _ => takes_pure rfl

/-- How the words of the predefined types are told from other words. -/
theorem keyword_tests (k : Keyword) (hk : k ≠ .this) :
    (k.word = "true" || k.word = "false") = false ∧ ¬ k.word = "import" ∧ ¬ k.word = "this" ∧
      ¬ k.word = "typeof" ∧ (!keywords.contains k.word || admittedWords.contains k.word) = true ∧
      ¬ k.word = "asserts" ∧ wordType? k.word = some (some k) := by
  cases k with
  | this => exact absurd rfl hk
  | _ => decide

theorem takes_this (front : Front e.mode.inType cs (.word "this") false rest)
    {t : Token} {rest' : List Char} (next : Front e.mode.inType rest t false rest')
    (other : t.wordText? = none) :
    Takes (At e cs) (primaryType g members) (·.type = .keyword .this) (At e rest) := by
  refine (gives_required front).look ?_
  change Takes (At e cs) (receiverType g) _ _
  refine (takes_here front).look fun start _ => ?_
  refine (gives_take front).bind ?_
  have hpredicate : Gives (At e rest)
      (do if ← onFreshLine then return false else isWord "is") false (Looked e rest) := by
    refine (gives_onFreshLine next).look ?_
    have hword : decide (t = .word "is") = false := by
      refine decide_eq_false ?_
      rintro rfl
      cases other
    have hgives : Gives (At e rest) (isWord "is") (decide (t = .word "is")) (Looked e rest) :=
      gives_isWord next "is"
    rw [hword] at hgives
    exact hgives
  refine hpredicate.look ?_
  exact (takes_spanFrom start).bind fun span _ => takes_pure rfl

theorem takes_keyword {k : Keyword} (hk : k ≠ .this)
    (front : Front e.mode.inType cs (.word k.word) false rest)
    {t : Token} {rest' : List Char} (next : Front e.mode.inType rest t false rest')
    (other : t ≠ .mark ".") :
    Takes (At e cs) (primaryType g members) (·.type = .keyword k) (At e rest) := by
  obtain ⟨hliteral, himport, hthis, htypeof, hadmitted, hasserts, hword⟩ := keyword_tests k hk
  refine (gives_required front).look ?_
  simp only [hliteral, himport, hthis, htypeof, hadmitted, if_true, if_false, Bool.false_eq_true]
  refine (takes_here front).bind fun start _ => ?_
  simp only [hasserts, if_false, hword]
  refine (gives_pure false).bind ?_
  refine (gives_nextIsMark front next ".").look ?_
  rw [decide_eq_false other]
  refine (gives_take front).bind ?_
  exact (takes_spanFrom start).bind fun span _ => takes_pure rfl

theorem takes_string {value source : String}
    (front : Front e.mode.inType cs (.string value source) false rest) :
    Takes (At e cs) (primaryType g members) (·.type = .literal (.string value)) (At e rest) := by
  refine (gives_required front).look ?_
  change Takes (At e cs) literalType _ _
  refine (takes_here front).look fun start _ => ?_
  refine (gives_required front).look ?_
  refine (gives_take front).bind ?_
  exact (takes_spanFrom start).bind fun span _ => takes_pure rfl

theorem takes_number {source : String} (hgap : isPad gap = true)
    (hsource : IsNumberType source.toList)
    (ends : EndsNumber rest) :
    Takes (At e (gap ++ (source.toList ++ rest))) (primaryType g members)
      (·.type = .literal (.number source)) (At e rest) := by
  obtain ⟨cs, rfl⟩ : ∃ cs, source = String.ofList cs := ⟨source.toList, by simp⟩
  rw [String.toList_ofList] at hsource ⊢
  refine takes_of_source fun before hbefore => ?_
  cases hsource with
  | number h =>
      have starts : Starts e.mode.inType gap cs (.number (String.ofList cs)) false rest :=
        starts_number h (isGap_pad hgap h) ends
      have front : Front e.mode.inType _ (.number (String.ofList cs)) false rest :=
        ⟨gap, cs, rfl, starts⟩
      refine (gives_required front).look ?_
      change Takes _ literalType _ _
      refine (gives_here starts hbefore).look ?_
      refine (gives_required front).look ?_
      refine (gives_take front).bind ?_
      have htext : Gives (At e rest) (textFrom (before ++ gap).length) (String.ofList cs)
        (At e rest) :=
        gives_textFrom (by rw [hbefore, List.append_assoc])
      rw [List.length_append] at htext
      refine htext.bind ?_
      exact (takes_spanFrom _).bind fun span _ => takes_pure rfl
  | @negative fresh gap' cs hgap' h =>
      have starts : Starts e.mode.inType gap ['-'] (.mark "-") false (gap' ++ (cs ++ rest)) :=
        starts_minus hgap hgap' h
      have front : Front e.mode.inType (gap' ++ (cs ++ rest))
          (.number (String.ofList cs)) fresh rest :=
        ⟨gap', cs, rfl, starts_number h hgap' ends⟩
      have hwhole : gap ++ ('-' :: (gap' ++ cs) ++ rest) =
          gap ++ (['-'] ++ (gap' ++ (cs ++ rest))) := by
        simp
      rw [hwhole] at hbefore ⊢
      refine (gives_required ⟨gap, ['-'], rfl, starts⟩).look ?_
      change Takes _ negativeType _ _
      refine (gives_here starts hbefore).look ?_
      refine (gives_take ⟨gap, ['-'], rfl, starts⟩).bind ?_
      refine (gives_required front).look ?_
      refine (gives_take front).bind ?_
      have htext : Gives (At e rest) (textFrom (before ++ gap).length)
          (String.ofList ('-' :: (gap' ++ cs))) (At e rest) :=
        gives_textFrom (by rw [hbefore]; simp)
      rw [List.length_append] at htext
      refine htext.bind ?_
      exact (takes_spanFrom _).bind fun span _ => takes_pure rfl

end Words

section References

variable {e : Setting} {g : Grammar} {members : Parse TypeNode} {gap tail rest : List Char}
  {t : Token} {tail' : List Char}

theorem pointed_ends (ends : ∀ d ∈ tail.head?, Text.isNamePart d = false ∧ d ≠ '\\')
    (more : List String) :
    ∀ d ∈ (TypeExpr.pointed tail more).head?, Text.isNamePart d = false ∧ d ≠ '\\' := by
  cases more with
  | nil => exact ends
  | cons part more =>
      rintro d ⟨⟩
      decide

/-- The parts of a name behind points are read up to where no point follows. -/
theorem gives_entityTail (ends : ∀ d ∈ tail.head?, Text.isNamePart d = false ∧ d ≠ '\\')
    (front : Front e.mode.inType tail t false tail') (other : t ≠ .mark ".")
    (parts more : List String) (words : ∀ part ∈ more, isWordText part.toList = true) :
    Gives (At e (TypeExpr.pointed tail more)) (entityTail true parts) (parts ++ more)
      (At e tail) := by
  let inv (cs : List Char) (found : List String) : Prop :=
    ∃ left, cs = TypeExpr.pointed tail left ∧ found ++ left = parts ++ more ∧
      ∀ part ∈ left, isWordText part.toList = true
  have hinv : inv (TypeExpr.pointed tail more) parts := ⟨more, rfl, rfl, words⟩
  refine takes_iterate ?_ hinv
  rintro cs found ⟨left, rfl, hparts, words⟩
  cases left with
  | nil =>
      rw [List.append_nil] at hparts
      refine .inl ((gives_eat_other front other).look ?_)
      exact takes_pure ⟨rfl, hparts⟩
  | cons part left =>
      have hpart := words part List.mem_cons_self
      have hword : Front e.mode.inType ([] ++ (part.toList ++ TypeExpr.pointed tail left))
          (.word part) false (TypeExpr.pointed tail left) :=
        front_word rfl hpart (pointed_ends ends left)
      refine .inr ⟨TypeExpr.pointed tail left, ?_, ?_⟩
      · rw [TypeExpr.pointed, List.length_cons, List.length_append]
        omega
      · refine (gives_eatMark (front_point hpart)).bind ?_
        refine (takes_here hword).look fun start _ => ?_
        refine (gives_isMark hword "#").look ?_
        refine (gives_isAnyWord hword).look ?_
        refine (gives_anyName hword rfl).bind ?_
        refine takes_pure ⟨rfl, left, rfl, ?_, fun p h => words p (List.mem_cons_of_mem _ h)⟩
        rw [← hparts, List.append_assoc]
        rfl

/-- A parser reads a type off the front of each text in which one of some marks follows it. -/
def ReadsType (p : Parse TypeNode) (marks : List String) (type : TypeExpr) : Prop :=
  ∀ {e : Setting} {gap rest : List Char}, e.mode.inType = true → isPad gap = true →
    Closes e.mode.inType marks rest →
    Takes (At e (gap ++ (type.chars ++ rest))) p (·.type = type) (At e rest)

/-- A list of types between commas is read up to the mark behind it. -/
theorem takes_delimited (he : e.mode.inType = true) {first : TypeExpr} {others : List TypeExpr}
    (legible : ∀ t ∈ first :: others, t.Legible)
    (reads : ∀ t ∈ first :: others, ReadsType g.type closing t) :
    Takes (At e (first.chars ++ TypeExpr.behind [',', ' '] ('>' :: rest) others))
      (delimited (isMark ">") g.type) (·.map (·.type) = first :: others) (At e ('>' :: rest)) := by
  let inv (cs : List Char) (found : List TypeNode) : Prop :=
    ∃ gap t left, isPad gap = true ∧
      cs = gap ++ (t.chars ++ TypeExpr.behind [',', ' '] ('>' :: rest) left) ∧
      found.map (·.type) ++ t :: left = first :: others
  have hinv : inv (first.chars ++ TypeExpr.behind [',', ' '] ('>' :: rest) others) [] :=
    ⟨[], first, others, rfl, rfl, rfl⟩
  have hclose : Closes e.mode.inType closing ('>' :: rest) :=
    closes_punctuation ">" rfl (.inr ⟨he, by decide⟩) (by decide)
  have hcomma (rest : List Char) : Closes e.mode.inType closing (',' :: rest) :=
    closes_punctuation "," rfl (.inl (by decide)) (by decide)
  have hangle : Front e.mode.inType ([] ++ '>' :: rest) (.mark ">") false rest :=
    front_punctuation rfl rfl (.inr ⟨he, by decide⟩)
  refine takes_iterate ?_ hinv
  rintro cs found ⟨gap, t, left, hgap, rfl, hfound⟩
  have hmem : t ∈ first :: others := hfound ▸ List.mem_append_right _ List.mem_cons_self
  cases left with
  | nil =>
      obtain ⟨lead, _, front, hlead⟩ :=
        (leads_of_legible (legible t hmem) he hgap hclose fun _ => by decide).exists_front
      refine .inl ?_
      refine (gives_isMark front ">").look ?_
      rw [decide_eq_false (hlead ">" (by decide))]
      refine (reads t hmem he hgap hclose).bind fun node hnode => ?_
      refine (gives_eat_other hangle (by decide)).look ?_
      refine (gives_isMark hangle ">").look ?_
      refine takes_pure ⟨rfl, ?_⟩
      rw [List.map_append, List.map_singleton, hnode, hfound]
  | cons t' left =>
      obtain ⟨lead, _, front, hlead⟩ :=
        (leads_of_legible (legible t hmem) he hgap (hcomma _) fun _ => by decide).exists_front
      refine .inr ⟨' ' :: (t'.chars ++ TypeExpr.behind [',', ' '] ('>' :: rest) left), ?_, ?_⟩
      · simp only [TypeExpr.behind, List.length_append, List.length_cons]
        omega
      · refine (gives_isMark front ">").look ?_
        rw [decide_eq_false (hlead ">" (by decide))]
        refine (reads t hmem he hgap (hcomma _)).bind fun node hnode => ?_
        have hmark (rest : List Char) :
          Front e.mode.inType ([] ++ ',' :: rest) (.mark ",") false rest :=
          front_punctuation rfl rfl (.inl (by decide))
        refine (gives_eatMark (hmark _)).bind ?_
        refine takes_pure ⟨rfl, [' '], t', left, rfl, rfl, ?_⟩
        rw [List.map_append, List.map_singleton, hnode, List.append_assoc, ← hfound]
        rfl

/-- The arguments of a generic name are read up to the bracket that closes them. -/
theorem takes_typeArguments? (he : e.mode.inType = true) {arguments : List TypeExpr}
    (legible : ∀ t ∈ arguments, t.Legible)
    (reads : ∀ t ∈ arguments, ReadsType g.type closing t)
    (front : Front e.mode.inType rest t false tail') (other : t ≠ .mark "<") :
    Takes (At e (TypeExpr.angled rest arguments)) (typeArguments? g)
      (fun found => (found.getD []).map (·.type) = arguments) (At e rest) := by
  cases arguments with
  | nil =>
      refine (gives_isMark front "<").look ?_
      rw [decide_eq_false other]
      exact takes_pure rfl
  | cons first others =>
      have hopen {e : Setting} (he : e.mode.inType = true) (rest : List Char) :
          Front e.mode.inType ([] ++ '<' :: rest) (.mark "<") false rest :=
        front_punctuation rfl rfl (.inr ⟨he, by decide⟩)
      have hclose {e : Setting} (he : e.mode.inType = true) (rest : List Char) :
          Front e.mode.inType ([] ++ '>' :: rest) (.mark ">") false rest :=
        front_punctuation rfl rfl (.inr ⟨he, by decide⟩)
      have harguments : Takes (At e (TypeExpr.angled rest (first :: others))) (typeArguments g)
          (·.map (·.type) = first :: others) (At e rest) := by
        refine takes_within ({ · with inType := true }) he.symm ?_
        have hsplit : Gives (At (e.changed ({ · with inType := true }))
            (TypeExpr.angled rest (first :: others))) splitAngle false
            (Looked (e.changed ({ · with inType := true }))
              (TypeExpr.angled rest (first :: others))) := by
          refine (takes_lexeme (hopen rfl _)).bind ?_
          rintro _ ⟨span, rfl⟩
          exact gives_pure false
        refine hsplit.look ?_
        refine (gives_expectMark (hopen rfl _)).bind ?_
        refine (takes_delimited rfl legible reads).bind fun types htypes => ?_
        exact (gives_expectMark (hclose rfl _)).bind (takes_pure htypes)
      refine (gives_isMark (hopen he _) "<").look ?_
      exact harguments.bind fun types htypes => takes_pure htypes

/-- A word of access is a name where no parameter follows it. -/
theorem gives_eatParameterModifier {text mark : String}
    (front : Front e.mode.inType rest (.word text) false tail)
    (next : Front e.mode.inType tail (.mark mark) false tail') (plain : text ≠ "readonly")
    (noBrace : mark ≠ "\x7b") (noAccess : text ∈ accessWords → mark ≠ "[") :
    Gives (At e rest) eatParameterModifier false (Looked e rest) := by
  refine (gives_isWordOf front _).bind ?_
  cases hmodifier : (Token.word text).isWordIn ["public", "protected", "private", "readonly"] with
  | false => exact gives_pure false
  | true =>
      have haccess : text ∈ accessWords := by
        have hmem : text ∈ accessWords ++ ["readonly"] := List.contains_iff_mem.mp hmodifier
        exact (List.mem_append.mp hmem).resolve_right fun h => plain (List.mem_singleton.mp h)
      have hfollows : decide (mark = "\x7b") = false ∧ decide (mark = "[") = false :=
        ⟨decide_eq_false noBrace, decide_eq_false (noAccess haccess)⟩
      rw [if_neg (by decide)]
      refine Gives.bind (a := false) (R := Looked e rest) ?_ (gives_pure false)
      refine (gives_next front next).bind ?_
      exact takes_pure (by rw [hfollows.1, hfollows.2]; rfl)

/-- A reference is read with its arguments when these are. -/
theorem takes_referenceType (he : e.mode.inType = true) (hgap : isPad gap = true)
    {name : EntityName} {arguments : List TypeExpr} {marks : List String}
    (named : name.Legible) (legible : ∀ t ∈ arguments, t.Legible)
    (reads : ∀ t ∈ arguments, ReadsType g.type closing t)
    (closes : Closes e.mode.inType marks rest) (hmarks : ∀ mark ∈ marks, mark ∈ innerMarks)
    (hbracket : (TypeExpr.reference name arguments).isAccessWord = true → "[" ∉ marks) :
    Takes (At e (gap ++ ((TypeExpr.reference name arguments).chars ++ rest))) (referenceType g)
      (·.type = .reference name arguments) (At e rest) := by
  obtain ⟨first, more, hparts, hplain, hvoid, -⟩ := named.opens
  have hmore : ∀ part ∈ more, isWordText part.toList = true :=
    fun part h => named.words part (hparts ▸ List.mem_cons_of_mem _ h)
  obtain ⟨front, mark, rest', next, hmark, noAccess⟩ :=
    reference_front he hgap named.words hparts closes arguments hbracket
  obtain rfl : name = ⟨first :: more⟩ := by rw [← hparts]
  obtain ⟨last, hlast, rest'', follows⟩ := closes.front
  have hinner : ∀ mark ∈ innerMarks, mark ≠ "\x7b" ∧ mark ≠ "." ∧ mark ≠ "<" := by decide
  have hbrace : mark ≠ "\x7b" := by
    obtain ⟨-, rfl⟩ | ⟨-, -, rfl⟩ | ⟨-, -, h⟩ := hmark
    · decide
    · decide
    · exact (hinner mark (hmarks mark h)).1
  have hreadonly : first ≠ "readonly" := by
    rintro rfl
    exact hplain (by decide)
  obtain ⟨hends, mark', tail', hfront, hpoint⟩ : (∀ d ∈ (TypeExpr.angled rest arguments).head?,
      Text.isNamePart d = false ∧ d ≠ '\\') ∧ ∃ mark tail', Front e.mode.inType
        (TypeExpr.angled rest arguments) (.mark mark) false tail' ∧ mark ≠ "." := by
    cases arguments with
    | nil => exact ⟨closes.endsWord, last, rest'', follows, (hinner last (hmarks last hlast)).2.1⟩
    | cons first others =>
        have hangle : Closes e.mode.inType ["<"] (TypeExpr.angled rest (first :: others)) :=
          closes_punctuation "<" rfl (.inr ⟨he, by decide⟩) (by decide)
        obtain ⟨mark, hmark, tail', front⟩ := hangle.front
        refine ⟨hangle.endsWord, mark, tail', front, ?_⟩
        obtain rfl := List.mem_singleton.mp hmark
        decide
  have hname : Gives (At e (gap ++ ((TypeExpr.reference ⟨first :: more⟩ arguments).chars ++ rest)))
      (entityName true) ⟨first :: more⟩ (At e (TypeExpr.angled rest arguments)) := by
    refine (gives_anyName front rfl).bind ?_
    rw [if_neg hvoid]
    refine (gives_entityTail hends hfront ?_ [first] more hmore).bind (gives_pure _)
    rintro ⟨⟩
    exact hpoint rfl
  refine (takes_here front).look fun start _ => ?_
  refine (gives_eatParameterModifier front next hreadonly hbrace noAccess).look ?_
  refine hname.bind ?_
  have harguments : Takes (At e (TypeExpr.angled rest arguments))
      (do
        if ← onFreshLine then return none
        typeArguments? g)
      (fun found => (found.getD []).map (·.type) = arguments) (At e rest) := by
    refine (gives_onFreshLine hfront).look ?_
    refine takes_typeArguments? he legible reads follows ?_
    rintro ⟨⟩
    exact (hinner "<" (hmarks "<" hlast)).2.2 rfl
  refine harguments.bind fun found hfound => ?_
  refine (takes_spanFrom start).bind fun span _ => takes_pure ?_
  rw [hfound]

/-- The first word of a reference is told from the words with a meaning of their own. -/
theorem takes_reference (he : e.mode.inType = true) (hgap : isPad gap = true)
    {name : EntityName} {arguments : List TypeExpr} {marks : List String}
    (named : name.Legible) (legible : ∀ t ∈ arguments, t.Legible)
    (reads : ∀ t ∈ arguments, ReadsType g.type closing t)
    (closes : Closes e.mode.inType marks rest) (hmarks : ∀ mark ∈ marks, mark ∈ innerMarks)
    (hbracket : (TypeExpr.reference name arguments).isAccessWord = true → "[" ∉ marks) :
    Takes (At e (gap ++ ((TypeExpr.reference name arguments).chars ++ rest)))
      (primaryType g members)
      (·.type = .reference name arguments) (At e rest) := by
  have hreference := takes_referenceType he hgap named legible reads closes hmarks hbracket
  obtain ⟨first, more, hparts, -, -, hword, hbare⟩ := named.opens
  obtain ⟨front, mark, rest', next, hmark, -⟩ :=
    reference_front he hgap named.words hparts closes arguments hbracket
  generalize gap ++ ((TypeExpr.reference name arguments).chars ++ rest) = cs at hreference front ⊢
  have hkept : ∀ word ∈ ["true", "false", "import", "this", "typeof"],
      word ∈ keywords ∧ word ∉ admittedWords := by decide
  have hother : ∀ word ∈ ["true", "false", "import", "this", "typeof"], ¬ first = word := by
    rintro word h rfl
    exact hword.elim (fun hfirst => hfirst (hkept first h).1) (hkept first h).2
  have hadmitted : (!keywords.contains first || admittedWords.contains first) = true := by
    simpa using hword
  refine (gives_required front).look ?_
  simp only [hother, List.mem_cons, decide_false, Bool.or_self, Bool.false_eq_true, if_false,
    true_or, or_true, hadmitted, if_true]
  refine (takes_here front).bind fun start _ => ?_
  have hasserts : Gives (Looked e cs)
      (do if first = "asserts" then nextIsWord "this" else return false) false (Looked e cs) := by
    split
    · exact gives_nextIsWord front next "this"
    · exact gives_pure false
  refine hasserts.bind ?_
  refine (gives_nextIsMark front next ".").look ?_
  split
  · next keyword hfirst hpoint =>
      -- A word with a meaning of its own has a point behind it here.
      have hmore : more ≠ [] := by
        intro hmore
        rw [hbare hmore] at hfirst
        cases hfirst
      obtain ⟨-, rfl⟩ | ⟨h, -⟩ | ⟨h, -⟩ := hmark
      · cases hpoint
      · exact absurd h hmore
      · exact absurd h hmore
  · exact hreference

end References

end SchemaGuards.Syntax.Parse
