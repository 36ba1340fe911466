import SchemaGuards.Proofs.Syntax.Properties
import SchemaGuards.Syntax.Patterns

/-!
# Where no function type starts

A parenthesis may open the parameters of a function type, which is found by reading what stands
behind it as a parameter. A type in parentheses never reads as one: a mark that belongs to no
parameter stands behind its first part, and the first property of an object type ends with a
semicolon where the field of a record pattern ends with a comma.
-/

namespace SchemaGuards.Syntax.Parse

/-- The marks that may stand behind the first part of a type. -/
def partMarks : List String := [".", "<", "[", "|", ";"]

/-- A state stands before one of some marks. -/
def AtMark (e : Setting) (marks : List String) (s : State) : Prop :=
  ∃ cs mark rest, At e cs s ∧ Front e.mode.inType cs (.mark mark) false rest ∧ mark ∈ marks

section Names

variable {α : Type} {e : Setting} {cs rest rest' : List Char} {t : Token} {marks : List String}
  {p : Parse α} {S : State → Prop}

/-- What may be tried before each of some marks. -/
theorem tries_atMark (hp : ∀ cs mark rest, Front e.mode.inType cs (.mark mark) false rest →
    mark ∈ marks → Tries (At e cs) p S) : Tries (AtMark e marks) p S := by
  rintro s ⟨cs, mark, rest, hs, front, hmark⟩
  exact hp cs mark rest front hmark s hs

theorem tries_ite {P : State → Prop} {c : Prop} [Decidable c] {q : Parse α} (hp : Tries P p S)
    (hq : Tries P q S) : Tries P (if c then p else q) S := by
  split
  · exact hp
  · exact hq

/-- Where faults are forgotten a report that may be due changes nothing. -/
theorem tries_reported {c : Prop} [Decidable c] {cause : Cause} {offset : Nat}
    {more : Unit → Parse α} (quiet : e.mode.quiet = true)
    (hmore : Tries (At e cs) (more ()) S) :
    Tries (At e cs) (if c then report cause offset >>= more else more ()) S := by
  split
  · exact (gives_report quiet cause offset).bind_tries hmore
  · exact hmore

theorem tries_variableOf (quiet : e.mode.quiet = true) (front : Front e.mode.inType cs t false rest)
    (admitsYield : Bool) (text : String) :
    Tries (At e cs) (variableOf admitsYield text) (At e cs) := by
  have hspan : Takes (At e cs) previousSpan (fun _ => True) (At e cs) :=
    fun s hs => ⟨_, s, rfl, trivial, hs⟩
  have hfail (cause : Cause) (offset : Nat) :
      Tries (At e cs) (failAt (α := String) cause offset) (At e cs) :=
    (fails_failAt front cause offset).tries
  refine hspan.bind_tries fun span _ => ?_
  refine tries_reported quiet ?_
  refine takes_get.bind_tries fun now _ => ?_
  have hplain : Tries (At e cs)
      (if text = "this" || text = "let" || !keywords.contains text then pure text
        else if text = "yield" && admitsYield then pure text else failAt .nameExpected span.lo)
      (At e cs) := by
    refine tries_ite (tries_pure text) ?_
    exact tries_ite (tries_pure text) (hfail _ _)
  refine tries_ite ?_ (tries_reported quiet hplain)
  refine tries_ite (tries_pure text) ?_
  refine tries_ite ?_ ?_
  · exact (fails_failAt front _ _).bind fun _ _ hs => hs.elim
  · exact (fails_failAt front _ _).bind fun _ _ hs => hs.elim

/-- A word that is read as the name of a variable is taken, where it may name one. -/
theorem tries_bindingName (quiet : e.mode.quiet = true) {text : String}
    (front : Front e.mode.inType cs (.word text) false rest)
    (follows : Front e.mode.inType rest t false rest') :
    Tries (At e cs) bindingName (At e rest) := by
  have hname : Tries (At e cs) (variableName true) (At e rest) := by
    refine (gives_required front).look_tries ?_
    exact (gives_take front).bind_tries (tries_variableOf quiet follows true text)
  refine (takes_here front).bind_tries fun start _ => ?_
  refine (hname.weaken fun _ h => h.1).bind fun name => ?_
  refine takes_get.bind_tries fun now _ => ?_
  refine tries_reported quiet ?_
  refine tries_reported quiet ?_
  exact tries_reported quiet (tries_pure name)

end Names

section Records

variable {e : Setting} {g : Grammar} {cs gap tail rest : List Char} {t : Token}

theorem takes_fieldKey {name : PropertyName} (named : name.Legible)
    (front : Front e.mode.inType cs (keyToken name) false tail) :
    Takes (At e cs) (fieldKey g) (fun _ => True) (At e tail) := by
  refine (takes_here front).look fun start _ => ?_
  refine Takes.bind (Q := fun _ => True) (R := At e tail) ?_ fun name _ => ?_
  · refine (gives_required front).look ?_
    have hkey (name : PropertyName) : Takes (At e cs) (do advance; return name) (fun _ => True)
        (At e tail) := (gives_take front).bind (takes_pure trivial)
    cases named with
    | identifier h => exact hkey _
    | string h => exact hkey _
    | number h _ => exact hkey _
  · exact (takes_spanFrom start).bind fun _ _ => takes_pure trivial

/-- A pattern with no value behind it. -/
theorem tries_patternWithValue (front : Front e.mode.inType cs t false rest)
    (hpattern : Tries (At e cs) g.pattern (AtMark e partMarks)) :
    Tries (At e cs) (patternWithValue g) (AtMark e partMarks) := by
  refine (takes_here front).look_tries fun start _ => ?_
  refine hpattern.bind fun pattern => ?_
  refine tries_atMark fun cs mark rest front hmark => ?_
  have hequals : Token.mark mark ≠ .mark "=" := by
    rintro ⟨⟩
    exact absurd hmark (by decide)
  refine (gives_eat_other front hequals).look_tries ?_
  exact (tries_pure pattern).mono fun s hs => ⟨cs, mark, rest, hs, front, hmark⟩

/-- The end of a field of a record pattern. -/
theorem tries_fieldEnd (start : Nat) (hcs : ∀ s, At e cs s → AtMark e ("?" :: partMarks) s) :
    Tries (At e cs) (do return ((none : Option Pattern), ← spanFrom start))
      (AtMark e ("?" :: partMarks)) :=
  ((takes_spanFrom start).bind_tries fun _ _ => tries_pure _).mono hcs

/-- A field without a value is read up to what stands behind its key. -/
theorem tries_shorthandField (quiet : e.mode.quiet = true) {start : Nat} {key : Key}
    {mark : String} (front : Front e.mode.inType tail (.mark mark) false rest)
    (hmark : mark ∈ ["?", ";"]) :
    Tries (At e tail)
      (do
        if ← eatMark ":" then
          let _ ← patternWithValue g
        else
          match key.name with
          | .identifier name =>
            if ← eatMark "=" then initializer g
            else if isReserved name then report .shorthandReserved key.span.lo
          | _ => unexpected "an identifier"
        return ((none : Option Pattern), ← spanFrom start))
      (AtMark e ("?" :: partMarks)) := by
  have hmarks : ∀ mark ∈ ["?", ";"], mark ≠ ":" ∧ mark ≠ "=" ∧ mark ∈ "?" :: partMarks := by
    decide
  obtain ⟨hcolon, hequals, hpart⟩ := hmarks mark hmark
  have hother {text : String} (h : mark ≠ text) : Token.mark mark ≠ .mark text :=
    fun heq => h (Token.mark.inj heq)
  have hdone := tries_fieldEnd start fun s hs => ⟨tail, mark, rest, hs, front, hpart⟩
  refine (gives_eat_other front (hother hcolon)).look_tries ?_
  cases key.name with
  | identifier name =>
      refine (gives_eat_other front (hother hequals)).look_tries ?_
      rw [if_neg Bool.false_ne_true]
      exact tries_reported quiet hdone
  | _ => exact (fails_unexpected front _).bind fun _ _ hs => hs.elim

/-- A property that is read as the field of a record pattern ends where no such field does. -/
theorem tries_recordPatternField (quiet : e.mode.quiet = true) {name : PropertyName}
    (named : name.Legible) {optional : Bool} {type : Option TypeExpr}
    (front : Front e.mode.inType cs (keyToken name) false
      (Member.propertyTail optional type rest))
    (hpattern : ∀ t ∈ type, Tries (At e (' ' :: (t.chars ++ ';' :: rest))) (patternWithValue g)
      (AtMark e partMarks)) :
    Tries (At e cs) (recordPatternField g) (AtMark e ("?" :: partMarks)) := by
  refine (takes_here front).look_tries fun start _ => ?_
  refine (gives_eat_other front (keyToken_ne_mark named "...")).look_tries ?_
  refine (takes_fieldKey named front).bind_tries fun key _ => ?_
  cases optional with
  | true => exact tries_shorthandField quiet (front_question rest type) (by decide)
  | false =>
      cases type with
      | none =>
          have hsemicolon : Front e.mode.inType ([] ++ ';' :: rest) (.mark ";") false rest :=
            front_punctuation rfl rfl (.inl (by decide))
          exact tries_shorthandField quiet hsemicolon (by decide)
      | some t =>
          have hcolon : Front e.mode.inType ([] ++ ':' :: ' ' :: (t.chars ++ ';' :: rest))
              (.mark ":") false (' ' :: (t.chars ++ ';' :: rest)) :=
            front_punctuation rfl rfl (.inl (by decide))
          refine (gives_eat_self hcolon).bind_tries ?_
          refine (hpattern t rfl).bind fun value => ?_
          refine tries_atMark fun cs mark rest front hmark => ?_
          exact tries_fieldEnd start fun s hs => ⟨cs, mark, rest, hs, front, List.mem_cons_of_mem _ hmark⟩

/-- Fields between braces are not read to their end where a field ends as no field does. -/
theorem fails_bracedFields {α : Type} {field : Parse α}
    (hopen : Front e.mode.inType cs t false tail) {t' : Token} {tail' : List Char}
    (hkey : Front e.mode.inType tail t' false tail') (other : t' ≠ .mark "\x7d")
    (hfield : Tries (At (e.changed ({ · with colonDue := false })) tail) field
      (AtMark (e.changed ({ · with colonDue := false })) ("?" :: partMarks))) :
    Fails (At e cs) (bracedFields field) := by
  have hmarks : ∀ mark ∈ "?" :: partMarks, mark ≠ "\x7d" ∧ mark ≠ "," := by decide
  refine fails_within ({ · with colonDue := false }) rfl ?_
  revert hfield
  generalize he : e.changed ({ · with colonDue := false }) = e'
  have hmode : e'.mode.inType = e.mode.inType := he ▸ rfl
  intro hfield
  rw [← hmode] at hopen hkey
  refine (gives_required hopen).look_tries ?_
  refine (gives_take hopen).bind_tries ?_
  refine Tries.bind (R := fun _ => False) (fails_iterate ?_) fun _ _ hs => hs.elim
  refine (gives_isMark hkey "\x7d").look_tries ?_
  rw [decide_eq_false other]
  refine Tries.bind hfield fun found => ?_
  refine tries_atMark fun cs mark rest front hmark => ?_
  obtain ⟨hbrace, hcomma⟩ := hmarks mark hmark
  have hother {text : String} (h : mark ≠ text) : Token.mark mark ≠ .mark text :=
    fun heq => h (Token.mark.inj heq)
  refine (gives_isMark front "\x7d").look_tries ?_
  rw [decide_eq_false (hother hbrace)]
  exact (fails_expectMark front (hother hcomma)).bind fun _ _ hs => hs.elim

/-- Before a closing brace no fields are read. -/
theorem takes_noFields {α : Type} (field : Parse α)
    (hclose : Front e.mode.inType ('\x7d' :: rest) (.mark "\x7d") false rest) :
    Takes (At e ('\x7d' :: rest))
      (iterate (fun ((fields, comma) : List α × Option Nat) => do
        if ← isMark "\x7d" then return ((fields, comma), false)
        let fields := fields ++ [← field]
        if ← isMark "\x7d" then return ((fields, comma), true)
        expectMark ","
        if ← isMark "\x7d" then return ((fields, some (← previousSpan).lo), true)
        return ((fields, comma), true)) ([], none)) (· = ([], none))
      (At e ('\x7d' :: rest)) := by
  refine takes_iterate
    (I := fun cs found => cs = '\x7d' :: rest ∧ found = ([], none)) ?_ ⟨rfl, rfl⟩
  rintro cs found ⟨rfl, rfl⟩
  refine .inl ?_
  refine (gives_isMark hclose "\x7d").look ?_
  exact takes_pure ⟨rfl, rfl⟩

/-- Empty braces are a record pattern. -/
theorem tries_recordPattern_nil (hgap : isPad gap = true) {mark : String}
    (next : Front e.mode.inType rest (.mark mark) false tail) (hmark : mark ∈ partMarks) :
    Tries (At e (gap ++ '\x7b' :: '\x7d' :: rest)) (recordPattern g) (AtMark e partMarks) := by
  have hopen : Front e.mode.inType (gap ++ '\x7b' :: '\x7d' :: rest) (.mark "\x7b") false
      ('\x7d' :: rest) := front_punctuation rfl hgap (.inl (by decide))
  have hclose : Front e.mode.inType ([] ++ '\x7d' :: rest) (.mark "\x7d") false rest :=
    front_punctuation rfl rfl (.inl (by decide))
  have hquestion : Token.mark mark ≠ .mark "?" := by
    rintro ⟨⟩
    exact absurd hmark (by decide)
  have hfields {α : Type} (field : Parse α) : Takes (At e (gap ++ '\x7b' :: '\x7d' :: rest))
      (bracedFields field) (· = ([], none)) (At e rest) := by
    refine takes_within ({ · with colonDue := false }) rfl ?_
    generalize he : e.changed ({ · with colonDue := false }) = e'
    have hmode : e'.mode.inType = e.mode.inType := he ▸ rfl
    rw [← hmode] at hopen hclose
    refine (gives_required hopen).look ?_
    refine (gives_take hopen).bind ?_
    refine (takes_noFields field hclose).bind ?_
    rintro _ rfl
    exact (gives_take hclose).bind (takes_pure rfl)
  refine (takes_here hopen).look_tries fun start _ => ?_
  refine (hfields _).bind_tries ?_
  rintro _ rfl
  refine (takes_spanFrom start).bind_tries fun span _ => ?_
  refine Takes.bind_tries (gives_pure ()) fun _ _ => ?_
  refine takes_get.bind_tries fun now _ => ?_
  have hdone : Tries (At e rest) (pure (⟨.record, span⟩ : Pattern)) (AtMark e partMarks) :=
    (tries_pure _).mono fun s hs => ⟨rest, mark, tail, hs, next, hmark⟩
  refine tries_ite ?_ hdone
  exact (gives_eat_other next hquestion).look_tries hdone

/-- The grammar's patterns, read where a type stands, end before a mark that may follow the first
part of the type. -/
def TriesPatterns (g : Grammar) : Prop :=
  ∀ {e : Setting} {cs : List Char}, e.mode.inType = true → e.mode.quiet = true →
    Leads e.mode.inType [";"] cs → Tries (At e cs) g.pattern (AtMark e partMarks)

theorem tries_fieldType (he : e.mode.inType = true) (quiet : e.mode.quiet = true)
    (hpattern : TriesPatterns g) {type : TypeExpr} (legible : type.Legible) :
    Tries (At e (' ' :: (type.chars ++ ';' :: rest))) (patternWithValue g)
      (AtMark e partMarks) := by
  have hsemicolon : Closes e.mode.inType [";"] (';' :: rest) :=
    closes_punctuation ";" rfl (.inl (by decide)) (by decide)
  have leads : Leads e.mode.inType [";"] ([' '] ++ (type.chars ++ ';' :: rest)) :=
    leads_of_legible legible he rfl hsemicolon fun _ => by decide
  obtain ⟨t, tail, front, -⟩ := leads.exists_front
  exact tries_patternWithValue front (hpattern he quiet leads)

/-- An object type is read as a record pattern only if it is empty. -/
theorem tries_recordPattern (he : e.mode.inType = true) (quiet : e.mode.quiet = true)
    (hgap : isPad gap = true) {members : List Member} (legible : (TypeExpr.object members).Legible)
    {mark : String} (next : Front e.mode.inType rest (.mark mark) false tail)
    (hmark : mark ∈ partMarks) (hpattern : TriesPatterns g) :
    Tries (At e (gap ++ ((TypeExpr.object members).chars ++ rest))) (recordPattern g)
      (AtMark e partMarks) := by
  cases legible with
  | object named typed =>
      cases members with
      | nil => exact tries_recordPattern_nil hgap next hmark
      | cons m more =>
          obtain ⟨name, optional, type, rfl, hname⟩ := named m List.mem_cons_self
          obtain ⟨gap', hgap', hchars⟩ :=
            TypeExpr.chars_object (.property name optional type :: more) rest
          rw [hchars, Member.chars_properties]
          generalize ' ' :: (TypeExpr.charsOfMembers more ++ '\x7d' :: rest) = rest'
          have hopen : Front e.mode.inType
              (gap ++ '\x7b' :: (gap' ++ (name.chars ++ Member.propertyTail optional type rest')))
              (.mark "\x7b") false
              (gap' ++ (name.chars ++ Member.propertyTail optional type rest')) :=
            front_punctuation rfl hgap (.inl (by decide))
          have hkey : Front e.mode.inType
              (gap' ++ (name.chars ++ Member.propertyTail optional type rest'))
              (keyToken name) false
              (Member.propertyTail optional type rest') :=
            front_key (endsKey_propertyTail optional type rest') hgap' hname
          have hvalue (e : Setting) (he : e.mode.inType = true) (quiet : e.mode.quiet = true) :
              ∀ t ∈ type, Tries (At e (' ' :: (t.chars ++ ';' :: rest'))) (patternWithValue g)
                (AtMark e partMarks) := by
            rintro t ⟨⟩
            exact tries_fieldType he quiet hpattern (typed name optional t List.mem_cons_self)
          have hfield := tries_recordPatternField (e := e.changed ({ · with colonDue := false }))
            (g := g) quiet hname hkey (hvalue _ he quiet)
          refine (takes_here hopen).look_tries fun start _ => ?_
          exact (fails_bracedFields hopen hkey (keyToken_ne_mark hname "\x7d") hfield).bind
            fun _ _ hs => hs.elim

end Records

/-- What is read of a type as a pattern ends before a mark that may follow the first part of a
type. The induction is on the depth of the grammar, since the properties of an object type are
read as patterns too. -/
theorem triesPatterns_upTo (depth : Nat) : TriesPatterns (Grammar.upTo depth) := by
  induction depth with
  | zero =>
      intro e cs _ _ leads
      obtain ⟨t, rest, front, -⟩ := leads.exists_front
      exact (fails_fail front .exhausted).tries
  | succ depth ih =>
      intro e cs he quiet leads
      obtain ⟨t, rest, front, -⟩ := leads.exists_front
      change Tries (At e cs) (patternRule (Grammar.upTo depth)) _
      refine (takes_here front).look_tries fun start _ => ?_
      cases leads with
      | word front next hmark _ _ =>
          refine (gives_required front).look_tries ?_
          refine (tries_bindingName quiet front next).bind fun name => ?_
          refine (takes_spanFrom start).bind_tries fun span _ => ?_
          exact (tries_pure _).mono fun s hs => ⟨_, _, _, hs, next, hmark⟩
      | string front =>
          refine (gives_required front).look_tries ?_
          exact (fails_unexpected front _).tries
      | number front =>
          refine (gives_required front).look_tries ?_
          exact (fails_unexpected front _).tries
      | minus front =>
          refine (gives_required front).look_tries ?_
          exact (fails_unexpected front _).tries
      | group front legible closes =>
          refine (gives_required front).look_tries ?_
          exact (fails_unexpected front _).tries
      | @brace members gap rest _ _ hgap text legible next hmark =>
          subst text
          obtain ⟨rest', hopen⟩ := front_object e.mode.inType hgap members rest
          refine (gives_required hopen).look_tries ?_
          exact tries_recordPattern he quiet hgap legible next hmark ih

section FunctionTypes

variable {e : Setting} {g : Grammar} {cs : List Char} {marks : List String}

/-- The marks that stand behind a parameter of a function type. -/
def parameterMarks : List String := [":", ",", "?", "=", ")"]

/-- A state stands before a token that cannot stand behind a parameter. -/
def PastStart (e : Setting) (s : State) : Prop :=
  ∃ cs t rest, At e cs s ∧ Front e.mode.inType cs t false rest ∧
    ∀ text ∈ parameterMarks, t ≠ .mark text

theorem AtMark.pastStart {s : State} (hs : AtMark e partMarks s) : PastStart e s := by
  obtain ⟨cs, mark, rest, hs, front, hmark⟩ := hs
  have hparts : ∀ mark ∈ partMarks, mark ∉ parameterMarks := by decide
  refine ⟨cs, _, rest, hs, front, ?_⟩
  rintro _ htext ⟨⟩
  exact hparts mark hmark htext

theorem Leads.pastStart {s : State} (leads : Leads e.mode.inType marks cs) (hs : At e cs s) :
    PastStart e s := by
  obtain ⟨t, rest, front, hother⟩ := leads.exists_front
  have hstarts : ∀ text ∈ parameterMarks, text ∉ ["-", "\x7b", "("] := by decide
  exact ⟨cs, t, rest, hs, front, fun text htext => hother text (hstarts text htext)⟩

/-- A pattern that is tried where a type stands leaves no end of a parameter before it. -/
theorem takes_attemptPattern (he : e.mode.inType = true) (hpattern : TriesPatterns g)
    (leads : Leads e.mode.inType [";"] cs) :
    Takes (At e cs) (attempt do return some (← g.pattern)) (fun _ => True) (PastStart e) := by
  let inv (cs : List Char) : Prop :=
    ∃ mark rest, Front e.mode.inType cs (.mark mark) false rest ∧ mark ∈ partMarks
  have htries : Tries (At e.quieted cs) (do return some (← g.pattern))
      (fun s => ∃ cs', inv cs' ∧ At e.quieted cs' s) := by
    refine (hpattern (e := e.quieted) he rfl leads).bind fun pattern => ?_
    refine (tries_pure _).mono ?_
    rintro s ⟨cs, mark, rest, hs, hmark⟩
    exact ⟨cs, ⟨mark, rest, hmark⟩, hs⟩
  refine (takes_attempt htries).mono (fun _ h => h) ?_
  rintro s ⟨cs', rfl | ⟨mark, rest, hmark⟩, hs⟩
  · exact leads.pastStart hs
  · exact AtMark.pastStart ⟨cs', mark, rest, hs, hmark⟩

/-- The start of a type is skipped like that of a parameter, up to where no parameter ends. -/
theorem takes_skipParameterStart (he : e.mode.inType = true) (hpattern : TriesPatterns g)
    (leads : Leads e.mode.inType [";"] cs) :
    Takes (At e cs) (skipParameterStart g) (fun _ => True) (PastStart e) := by
  have hother {t : Token} {rest : List Char} (front : Front e.mode.inType cs t false rest)
      (hword : t.wordText? = none) :
      Takes (At e cs) (skipParameterStart g) (fun _ => True) (PastStart e) := by
    have hmodifier : Gives (At e cs) eatParameterModifier false (Looked e cs) := by
      refine (gives_isWordOf front _).bind ?_
      cases t with
      | word text => cases hword
      | _ => exact gives_pure false
    have hany : Gives (At e cs) isAnyWord false (Looked e cs) := by
      refine (gives_isAnyWord front).mono ?_ fun _ h => h
      rintro _ rfl
      exact Option.isSome_eq_false_iff.mpr (Option.isNone_iff_eq_none.mpr hword)
    refine hmodifier.look ?_
    refine hany.look ?_
    refine (gives_isMark front "\x7b").look ?_
    refine (gives_isMark front "[").look ?_
    split
    · exact (takes_attemptPattern he hpattern leads).bind fun _ _ => takes_pure trivial
    · exact (takes_pure trivial).mono (fun _ h => h) fun s hs => leads.pastStart hs
  cases leads with
  | @word text mark rest rest' front next hmark plain noAccess =>
      have hbrace : ∀ mark ∈ partMarks, mark ≠ "\x7b" := by decide
      have hreadonly : text ≠ "readonly" := by
        rintro rfl
        exact plain (by decide)
      refine (gives_eatParameterModifier front next hreadonly (hbrace mark hmark) noAccess).look ?_
      refine (gives_isAnyWord front).look ?_
      refine (gives_take front).bind ?_
      refine (takes_pure trivial).mono (fun _ h => h) fun s hs => ?_
      exact AtMark.pastStart ⟨rest, mark, rest', hs, next, hmark⟩
  | string front => exact hother front rfl
  | number front => exact hother front rfl
  | minus front => exact hother front rfl
  | group front _ _ => exact hother front rfl
  | @brace members gap rest _ _ hgap text legible next hmark =>
      subst text
      obtain ⟨rest', hopen⟩ := front_object e.mode.inType hgap members rest
      exact hother hopen rfl

/-- A parenthesis before a type does not open the parameters of a function type. -/
theorem takes_opensParameters (he : e.mode.inType = true) (hpattern : TriesPatterns g)
    {rest : List Char} (front : Front e.mode.inType cs (.mark "(") false rest)
    (leads : Leads e.mode.inType [";"] rest) :
    Takes (At e cs) (opensParameters g) (· = false) (fun _ => True) := by
  obtain ⟨t, tail, hfirst, hother⟩ := leads.exists_front
  have hmarks : ∀ text ∈ [")", "..."], text ∉ ["-", "\x7b", "("] := by decide
  have hdots : t.isMarkIn [")", "..."] = false :=
    Token.isMarkIn_eq_false fun text htext => hother text (hmarks text htext)
  have hpast (found : Bool) : Takes (PastStart e)
      (do
        if found then
          if ← isMarkOf [":", ",", "?", "="] then return true
          if ← eatMark ")" then return ← isMark "=>"
        return false) (· = false) (fun _ => True) := by
    rintro s ⟨cs, t, tail, hs, front, hother⟩
    have hmarks : ∀ text ∈ [":", ",", "?", "="], text ∈ parameterMarks := by decide
    have hend : t.isMarkIn [":", ",", "?", "="] = false :=
      Token.isMarkIn_eq_false fun text htext => hother text (hmarks text htext)
    have hno : Takes (At e cs)
        (do
          if found then
            if ← isMarkOf [":", ",", "?", "="] then return true
            if ← eatMark ")" then return ← isMark "=>"
          return false) (· = false) (fun _ => True) := by
      cases found with
      | false => exact (gives_pure false).mono (fun _ h => h) fun _ _ => trivial
      | true =>
          refine (gives_isMarkOf front [":", ",", "?", "="]).look ?_
          rw [hend]
          refine (gives_eat_other front (hother ")" (by decide))).bind ?_
          exact (gives_pure false).mono (fun _ h => h) fun _ _ => trivial
    exact hno s hs
  refine (gives_take front).bind ?_
  refine (gives_isMarkOf hfirst [")", "..."]).look ?_
  rw [hdots]
  exact (takes_skipParameterStart he hpattern leads).bind fun found _ => hpast found

/-- No function type starts where a type does. -/
theorem gives_startsFunctionType (he : e.mode.inType = true) (hpattern : TriesPatterns g)
    (leads : Leads e.mode.inType marks cs) :
    Gives (At e cs) (startsFunctionType g) false (At e cs) := by
  have hother {t : Token} {rest : List Char} (front : Front e.mode.inType cs t false rest)
      (hangle : t ≠ .mark "<") (hopen : t ≠ .mark "(") :
      Gives (At e cs) (startsFunctionType g) false (At e cs) := by
    refine (gives_isMark front "<").look ?_
    rw [decide_eq_false hangle]
    refine (gives_isMark front "(").look ?_
    rw [decide_eq_false hopen]
    exact gives_pure false
  cases leads with
  | word front _ _ _ _ => exact hother front (by rintro ⟨⟩) (by rintro ⟨⟩)
  | string front => exact hother front (by rintro ⟨⟩) (by rintro ⟨⟩)
  | number front => exact hother front (by rintro ⟨⟩) (by rintro ⟨⟩)
  | minus front => exact hother front (by decide) (by decide)
  | @brace members gap rest _ _ hgap text _ _ _ =>
      subst text
      obtain ⟨rest', hopen⟩ := front_object e.mode.inType hgap members rest
      exact hother hopen (by decide) (by decide)
  | @group type rest front legible closes =>
      have hinner : Leads e.mode.inType [";"] ([] ++ (type.chars ++ rest)) := by
        refine (leads_of_legible legible he rfl closes fun _ => by decide).mono ?_
        decide
      refine (gives_isMark front "<").look ?_
      refine (gives_isMark front "(").look ?_
      exact takes_lookAhead (takes_opensParameters (e := e.quieted) he hpattern front hinner)

end FunctionTypes

end SchemaGuards.Syntax.Parse
