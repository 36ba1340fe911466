import SchemaGuards.Proofs.Syntax.Primary
import SchemaGuards.Syntax.Module

/-!
# Properties of object types

A property is read back from its text when its type is. Its key may be a word that has a
meaning of its own before another key, such as `readonly` or `get`: what stands behind it tells
that it is a key.
-/

namespace SchemaGuards

/-- The type of a property with the semicolon behind it, before a text. -/
def TypeExpr.annotated (rest : List Char) : Option TypeExpr → List Char
  | none => ';' :: rest
  | some t => ':' :: ' ' :: (t.chars ++ ';' :: rest)

/-- What stands behind the key of a property, before a text. -/
def Member.propertyTail (optional : Bool) (type : Option TypeExpr) (rest : List Char) : List Char :=
  if optional then '?' :: TypeExpr.annotated rest type else TypeExpr.annotated rest type

theorem Member.chars_property (name : PropertyName) (optional : Bool) (type : Option TypeExpr)
    (rest : List Char) : TypeExpr.charsOfMember (.property name optional type) ++ ';' :: rest =
      name.chars ++ Member.propertyTail optional type rest := by
  have hnone (optional : Bool) : TypeExpr.charsOfMember (.property name optional none) =
      name.chars ++ (if optional then ['?'] else []) ++ [] := rfl
  have hsome (optional : Bool) (t : TypeExpr) :
      TypeExpr.charsOfMember (.property name optional (some t)) =
        name.chars ++ (if optional then ['?'] else []) ++ ':' :: ' ' :: t.chars := rfl
  cases optional <;> cases type <;>
    simp [hnone, hsome, Member.propertyTail, TypeExpr.annotated]

theorem Member.length_propertyTail (optional : Bool) (type : Option TypeExpr) (rest : List Char) :
    rest.length < (Member.propertyTail optional type rest).length := by
  cases optional <;> cases type <;> simp [Member.propertyTail, TypeExpr.annotated] <;> omega

theorem Member.chars_properties (name : PropertyName) (optional : Bool) (type : Option TypeExpr)
    (more : List Member) (rest : List Char) :
    TypeExpr.charsOfMembers (.property name optional type :: more) ++ rest =
      name.chars ++
        Member.propertyTail optional type (' ' :: (TypeExpr.charsOfMembers more ++ rest)) := by
  rw [← chars_property, TypeExpr.charsOfMembers]
  simp only [List.append_assoc, List.cons_append, List.nil_append]

namespace Syntax.Parse

section Keys

variable {e : Setting} {g : Grammar} {cs tail rest : List Char} {typed : Bool} {t : Token}

/-- The marks that stand behind the key of a property. -/
def keyMarks : List String := ["?", ":", ";"]

theorem front_annotated (typed : Bool) (rest : List Char) (type : Option TypeExpr) :
    ∃ mark rest', Front typed (TypeExpr.annotated rest type) (.mark mark) false rest' ∧
      mark ∈ [":", ";"] := by
  cases type with
  | none =>
      have front : Front typed ([] ++ ';' :: rest) (.mark ";") false rest :=
        front_punctuation rfl rfl (.inl (by decide))
      exact ⟨";", rest, front, by decide⟩
  | some t =>
      have front : Front typed ([] ++ ':' :: ' ' :: (t.chars ++ ';' :: rest)) (.mark ":") false _ :=
        front_punctuation rfl rfl (.inl (by decide))
      exact ⟨":", _, front, by decide⟩

theorem front_question (rest : List Char) (type : Option TypeExpr) :
    Front typed ('?' :: TypeExpr.annotated rest type) (.mark "?") false
      (TypeExpr.annotated rest type) := by
  have front : Front typed ([] ++ '?' :: TypeExpr.annotated rest type) (.mark "?") false
      (TypeExpr.annotated rest type) := by
    refine front_mark rfl rfl (by decide) (.inr (by decide)) (fun h => absurd h (by decide)) ?_
    intro d hd
    refine joins_eq_false (by decide) (?_ : d ∉ ['?'])
    cases type <;> · obtain rfl := Option.some.inj hd; decide
  exact front

/-- A key is followed by a mark of its property, and not by a point. -/
structure EndsKey (typed : Bool) (tail : List Char) : Prop where
  ends : ∀ d ∈ tail.head?, Text.isNamePart d = false ∧ d ≠ '\\' ∧ d ≠ '.'
  front : ∃ mark rest, Front typed tail (.mark mark) false rest ∧ mark ∈ keyMarks ∧
    (mark = "?" → ∃ mark' rest', Front typed rest (.mark mark') false rest' ∧ mark' ∈ [":", ";"])

theorem endsKey_propertyTail (optional : Bool) (type : Option TypeExpr) (rest : List Char) :
    EndsKey typed (Member.propertyTail optional type rest) := by
  have hends : ∀ d ∈ ['?', ':', ';'], Text.isNamePart d = false ∧ d ≠ '\\' ∧ d ≠ '.' :=
    List.forall_iff_forall_mem.mp (by decide)
  cases optional with
  | true =>
      refine ⟨?_, "?", _, front_question rest type, by decide,
        fun _ => front_annotated typed rest type⟩
      rintro d ⟨⟩
      decide
  | false =>
      obtain ⟨mark, tail, front, hmark⟩ := front_annotated typed rest type
      refine ⟨?_, mark, tail, front, List.mem_cons_of_mem _ hmark, ?_⟩
      · intro d hd
        refine hends d ?_
        cases type <;> · obtain rfl := Option.some.inj hd; decide
      · rintro rfl
        exact absurd hmark (by decide)

/-- A literal that stands alone is an operand without calls or members. -/
theorem gives_subscripts {value : Expr} (ends : EndsKey e.mode.inType tail) :
    Gives (At e tail) (subscriptsRule g (.expression value) true false) value (At e tail) := by
  obtain ⟨mark, rest, front, hmark, hquestion⟩ := ends.front
  have hother : ∀ text ∉ keyMarks, Token.mark mark ≠ .mark text := by
    rintro text h ⟨⟩
    exact h hmark
  have hno : ∀ text ∉ keyMarks, Gives (At e tail) (isMark text) false (Looked e tail) := by
    intro text h
    have hgives := gives_isMark front text
    rwa [decide_eq_false (hother text h)] at hgives
  have heat : ∀ text ∉ keyMarks, Gives (At e tail) (eatMark text) false (Looked e tail) :=
    fun text h => gives_eat_other front (hother text h)
  have hchain : Gives (At e tail) eatChainMark false (Looked e tail) := by
    refine (gives_isMark front "?").bind ?_
    by_cases h : mark = "?"
    · obtain ⟨mark', rest', next, hnext⟩ := hquestion h
      have hpoint : Token.mark mark' ≠ .mark "." := by
        rintro ⟨⟩
        exact absurd hnext (by decide)
      rw [h] at front ⊢
      refine (gives_nextIsMark front next ".").bind ?_
      rw [decide_eq_false hpoint]
      exact gives_pure false
    · have hmark : Token.mark mark ≠ .mark "?" := by
        rintro ⟨⟩
        exact h rfl
      rw [decide_eq_false hmark]
      exact gives_pure false
  have hcalls : Gives (At e tail)
      (do
        if ← eatChainPoint false ["(", "<"] then return true
        return false) false (At e tail) :=
    (gives_pure false).bind (gives_pure false)
  have hopens : Gives (At e tail)
      (do
        let _ ← eatChainPoint false ["["]
        eatMark "[") false (Looked e tail) :=
    (gives_pure false).bind (heat "[" (by decide))
  have hsubscript : Gives (At e tail) (subscript g value.lo (.expression value) true false)
      (value, false) (At e tail) := by
    refine (gives_readable front).look ?_
    refine Gives.bind (a := false) (R := At e tail) ?_ ?_
    · exact (hno "!" (by decide)).look (gives_pure false)
    refine Gives.bind (a := none) (R := At e tail) ?_ ?_
    · exact (hno "<" (by decide)).look (gives_pure none)
    refine Gives.bind (a := false) (R := At e tail) ?_ ?_
    · exact (hno "<" (by decide)).look (gives_pure false)
    refine hchain.look ?_
    refine hopens.look ?_
    refine hcalls.bind ?_
    refine (heat "." (by decide)).look ?_
    refine (gives_pure value).bind ?_
    exact (hno "`" (by decide)).look (gives_pure _)
  refine hsubscript.bind ?_
  refine Gives.bind (a := (value, false)) (R := At e tail) ?_ (gives_pure value)
  refine takes_iterate (I := fun cs found => cs = tail ∧ found = (value, false)) ?_ ⟨rfl, rfl⟩
  rintro cs found ⟨rfl, rfl⟩
  exact .inl (takes_pure ⟨rfl, rfl⟩)

/-- A key that is a literal is read as the operand that it is. -/
theorem takes_member (ends : EndsKey e.mode.inType tail)
    (front : Front e.mode.inType cs t false tail) (other : t.wordText? = none)
    (depth : Nat) {Q : Expr → Prop}
    (hoperand : Takes (At e cs) (operand (Grammar.upTo (depth + 1)))
      (fun value => value.isArrow = false ∧ Q value) (At e tail)) :
    Takes (At e cs) ((Grammar.upTo (depth + 2)).member true) Q (At e tail) := by
  obtain ⟨mark, rest, hmark, hkey, -⟩ := ends.front
  have hangle : Token.mark mark ≠ .mark "<" := by
    rintro ⟨⟩
    exact absurd hkey (by decide)
  have hword : ∀ text, t ≠ .word text := by
    rintro text rfl
    cases other
  change Takes (At e cs) (memberRule (Grammar.upTo (depth + 1)) true) _ _
  refine (takes_here front).look fun start _ => ?_
  refine (gives_eat_other front (hword "new")).look ?_
  refine (gives_eat_other front (hword "super")).look ?_
  refine (gives_eat_other front (hword "import")).look ?_
  refine hoperand.bind fun value hvalue => ?_
  rw [hvalue.1]
  refine Gives.bind (a := value) (R := At e tail) ?_ ?_
  · refine Gives.bind (a := false) (R := At e tail) ?_ (gives_pure value)
    refine (gives_isMark hmark "<").look ?_
    rw [decide_eq_false hangle]
    exact gives_pure false
  · change Takes (At e tail)
      (subscriptsRule (Grammar.upTo depth) (.expression value) true false) _ _
    exact (gives_subscripts ends).mono (fun _ h => h ▸ hvalue.2) fun _ h => h

/-- The token that writes the key of a property. -/
def keyToken : PropertyName → Token
  | .identifier name => .word name
  | .string value => .string value (Text.escaped value)
  | .number text => .number text
  | .computed => .mark "["

theorem front_key (ends : EndsKey typed tail) {gap : List Char} (hgap : isPad gap = true)
    {name : PropertyName} (legible : name.Legible) :
    Front typed (gap ++ (name.chars ++ tail)) (keyToken name) false tail := by
  cases legible with
  | identifier h => exact front_word hgap h fun d hd => ⟨(ends.ends d hd).1, (ends.ends d hd).2.1⟩
  | string h => exact front_string hgap h
  | @number text h _ =>
      have starts : Starts typed gap text.toList (.number (String.ofList text.toList)) false tail :=
        starts_number h (isGap_pad hgap h) fun d hd => ⟨(ends.ends d hd).1, (ends.ends d hd).2.2⟩
      rw [String.ofList_toList] at starts
      exact ⟨gap, text.toList, rfl, starts⟩

theorem keyToken_ne_mark {name : PropertyName} (legible : name.Legible) (text : String) :
    keyToken name ≠ .mark text := by
  cases legible <;> rintro ⟨⟩

/-- The key of a property in the grammar for some depth. -/
theorem gives_memberKey (ends : EndsKey e.mode.inType tail) {name : PropertyName}
    (legible : name.Legible) (front : Front e.mode.inType cs (keyToken name) false tail)
    (depth : Nat) :
    Gives (At e cs) (memberKey (Grammar.upTo (depth + 2))) name (At e tail) := by
  refine (gives_eat_other front (keyToken_ne_mark legible "[")).look ?_
  refine (gives_required front).look ?_
  cases legible with
  | identifier h => exact (gives_anyName front rfl).bind (gives_pure _)
  | @string value h =>
      have hoperand : Takes (At e cs) (operand (Grammar.upTo (depth + 1)))
          (fun found => found.isArrow = false ∧ literalName found = .string value) (At e tail) := by
        refine (takes_here front).look fun start _ => ?_
        refine takes_get.bind fun _ _ => ?_
        refine (gives_current front).look ?_
        refine (gives_take front).bind ?_
        exact (takes_spanFrom start).bind fun span _ => takes_pure ⟨rfl, rfl⟩
      exact (takes_member ends front rfl depth hoperand).bind fun found hfound => takes_pure hfound
  | @number text h shortest =>
      have hoperand : Takes (At e cs) (operand (Grammar.upTo (depth + 1)))
          (fun found => found.isArrow = false ∧ literalName found = .number text) (At e tail) := by
        refine (takes_here front).look fun start _ => ?_
        refine takes_get.bind fun _ _ => ?_
        refine (gives_current front).look ?_
        refine (gives_take front).bind ?_
        refine (takes_spanFrom start).bind fun span _ => takes_pure ⟨rfl, ?_⟩
        rw [literalName, shortest]
      exact (takes_member ends front rfl depth hoperand).bind fun found hfound => takes_pure hfound

/-- No key stands where a mark of a property does. -/
theorem fails_memberKey (ends : EndsKey e.mode.inType tail) : Fails (At e tail) (memberKey g) := by
  obtain ⟨mark, rest, front, hmark, -⟩ := ends.front
  have hbracket : Token.mark mark ≠ .mark "[" := by
    rintro ⟨⟩
    exact absurd hmark (by decide)
  have hhash : mark ≠ "#" := by
    rintro rfl
    exact absurd hmark (by decide)
  refine (gives_eat_other front hbracket).look_tries ?_
  refine (gives_required front).look_tries ?_
  have hname : Fails (At e tail) (do return PropertyName.identifier (← anyName)) := by
    refine Tries.bind (R := fun _ => False) ?_ fun _ _ hs => hs.elim
    refine (gives_required front).look_tries ?_
    exact fails_fail front _
  split
  · next h => cases h
  · next h => cases h
  · next h => exact absurd (Token.mark.inj h) hhash
  · exact hname

/-- No accessor is read where a key is followed by a mark of its property. -/
theorem gives_accessor? (ends : EndsKey e.mode.inType tail)
    (front : Front e.mode.inType cs t false tail) :
    Gives (At e cs) (accessor? g) none (At e cs) := by
  refine gives_attempt_none ?_
  -- A key that is the word of an accessor has no key behind it.
  have hkey {α : Type} (more : PropertyName → Parse α) :
      Fails (At e.quieted tail) (memberKey g >>= more) :=
    (fails_memberKey (e := e.quieted) ends).bind fun _ _ hs => hs.elim
  by_cases hget : t = .word "get"
  · subst hget
    exact (gives_eat_self (e := e.quieted) front).bind_tries (hkey _)
  · refine (gives_eat_other (e := e.quieted) front hget).look_tries ?_
    by_cases hset : t = .word "set"
    · subst hset
      have hword : Gives (At e.quieted cs) (expectWord "set") () (At e.quieted tail) :=
        (gives_eat_self (e := e.quieted) front).bind (gives_pure ())
      exact hword.bind_tries (hkey _)
    · exact (fails_expectWord (e := e.quieted) front hset).bind fun _ _ hs => hs.elim

/-- The word of a modifier is a key where a mark of its property follows it. -/
theorem gives_eatModifier (ends : EndsKey e.mode.inType tail)
    (front : Front e.mode.inType cs t false tail) (allowed : List String) :
    Gives (At e cs) (eatModifier allowed) false (At e cs) := by
  obtain ⟨mark, rest, follows, hmark, -⟩ := ends.front
  have hmodifies : ∀ mark ∈ keyMarks, ["[", "\x7b", "*", "...", "#"].contains mark = false := by
    decide
  have hfollows : Gives (At e.quieted cs)
      (do
        advance
        if ← followsModifier then return t.wordText? else return none) none
      (Looked e.quieted tail) := by
    refine (gives_take (e := e.quieted) front).bind ?_
    refine Gives.bind (a := false) (R := Looked e.quieted tail) ?_ (gives_pure none)
    refine (gives_onFreshLine (e := e.quieted) follows).look ?_
    refine (gives_current (e := e.quieted) follows).bind ?_
    exact takes_pure (hmodifies mark hmark)
  have hmodifier : Gives (At e cs) (modifier? allowed false) none (At e cs) := by
    refine (gives_required front).look ?_
    cases htext : t.wordText? with
    | none => exact gives_pure none
    | some text =>
        rw [htext] at hfollows
        cases hallowed : allowed.contains text with
        | false =>
            simp only [hallowed]
            exact gives_pure none
        | true =>
            simp only [hallowed]
            refine (gives_isWord front "static").bind ?_
            refine (gives_nextIsMark front follows "\x7b").look ?_
            exact gives_attempt_nothing hfollows
  exact hmodifier.bind (gives_pure false)

theorem gives_memberEnd : Gives (At e (';' :: rest)) memberEnd () (At e rest) := by
  have front : Front e.mode.inType ([] ++ ';' :: rest) (.mark ";") false rest :=
    front_punctuation rfl rfl (.inl (by decide))
  refine (gives_eat_other front (by decide)).look ?_
  exact gives_expectEnd front

/-- The type of a property is read up to the semicolon behind it. -/
theorem takes_propertyType (he : e.mode.inType = true) {type : Option TypeExpr}
    (reads : ∀ t ∈ type, ReadsType g.type closing t) :
    Takes (At e (TypeExpr.annotated rest type)) (annotationType? g)
      (fun node => node.map (·.type) = type) (At e (';' :: rest)) := by
  cases type with
  | none =>
      have front : Front e.mode.inType ([] ++ ';' :: rest) (.mark ";") false rest :=
        front_punctuation rfl rfl (.inl (by decide))
      exact (gives_isMark front ":").look (takes_pure rfl)
  | some t =>
      have front {typed : Bool} : Front typed ([] ++ ':' :: ' ' :: (t.chars ++ ';' :: rest))
          (.mark ":") false (' ' :: (t.chars ++ ';' :: rest)) :=
        front_punctuation rfl rfl (.inl (by decide))
      have hclose : Closes true closing (';' :: rest) :=
        closes_punctuation ";" rfl (.inl (by decide)) (by decide)
      have htype : Takes (At e (TypeExpr.annotated rest (some t))) (annotationType g) (·.type = t)
          (At e (';' :: rest)) := by
        refine takes_within ({ · with inType := true }) he.symm ?_
        refine (gives_take (e := e.changed ({ · with inType := true })) front).bind ?_
        have hread : Takes (At (e.changed ({ · with inType := true }))
            ([' '] ++ (t.chars ++ ';' :: rest))) g.type (·.type = t)
            (At (e.changed ({ · with inType := true })) (';' :: rest)) :=
          reads t rfl rfl rfl hclose
        exact hread
      refine (gives_isMark front ":").look ?_
      exact htype.bind fun node hnode => takes_pure (congrArg some hnode)

/-- The word of a construct signature is a key where a mark of its property follows it. -/
theorem gives_constructs (ends : EndsKey e.mode.inType tail)
    (front : Front e.mode.inType cs t false tail) :
    Gives (At e cs)
      (do if ← isWord "new" then lookAhead (do advance; isMarkOf ["(", "<"]) else return false)
      false (At e cs) := by
  obtain ⟨mark, rest, follows, hmark, -⟩ := ends.front
  have hother : ∀ mark ∈ keyMarks, ["(", "<"].contains mark = false := by decide
  have hlook : Gives (At e.quieted cs) (do advance; isMarkOf ["(", "<"]) false
      (Looked e.quieted tail) := by
    refine (gives_take (e := e.quieted) front).bind ?_
    refine (gives_isMarkOf (e := e.quieted) follows ["(", "<"]).mono ?_ fun _ h => h
    rintro _ rfl
    exact hother mark hmark
  refine (gives_isWord front "new").look ?_
  split
  · exact takes_lookAhead hlook
  · exact gives_pure false

theorem gives_indexSignature? (front : Front e.mode.inType cs t false tail)
    (other : t ≠ .mark "[") : Gives (At e cs) (indexSignature? g) false (At e cs) := by
  refine Gives.bind (a := false) (R := At e cs) ?_ (gives_pure false)
  refine (gives_isMark front "[").look ?_
  rw [decide_eq_false other]
  exact gives_pure false

/-- A key with what stands behind it is a property. -/
theorem gives_propertyOrMethod (he : e.mode.inType = true) {name : PropertyName} {optional : Bool}
    {type : Option TypeExpr} (hname : Gives (At e cs) (memberKey g) name
      (At e (Member.propertyTail optional type rest)))
    (reads : ∀ t ∈ type, ReadsType g.type closing t) :
    Gives (At e cs) (propertyOrMethod g false) (.property name optional type) (At e rest) := by
  obtain ⟨mark, rest', front, hmark⟩ := front_annotated e.mode.inType rest type
  have hother : ∀ mark ∈ [":", ";"], ["(", "<"].contains mark = false ∧ mark ≠ "?" := by decide
  have hquestion : Gives (At e (Member.propertyTail optional type rest)) (eatMark "?") optional
      (At e (TypeExpr.annotated rest type)) := by
    cases optional with
    | true => exact gives_eatMark (front_question rest type)
    | false =>
        have hmark : Token.mark mark ≠ .mark "?" :=
          fun h => (hother mark hmark).2 (Token.mark.inj h)
        exact (gives_eat_other front hmark).mono (fun _ h => h) fun _ h => h.1
  have hmethod : Gives (At e (TypeExpr.annotated rest type)) (isMarkOf ["(", "<"]) false
      (Looked e (TypeExpr.annotated rest type)) := by
    refine (gives_isMarkOf front ["(", "<"]).mono ?_ fun _ h => h
    rintro _ rfl
    exact (hother mark hmark).1
  refine hname.bind (hquestion.bind (hmethod.look ?_))
  refine (takes_propertyType he reads).bind fun node hnode => ?_
  refine gives_memberEnd.bind (takes_pure ?_)
  rw [hnode]

/-- A property is read up to the blank behind it. -/
theorem gives_member (he : e.mode.inType = true) {gap : List Char} (hgap : isPad gap = true)
    {name : PropertyName} (named : name.Legible) (optional : Bool) {type : Option TypeExpr}
    (depth : Nat)
    (reads : ∀ t ∈ type, ReadsType (Grammar.upTo (depth + 2)).type closing t) :
    Gives (At e (gap ++ (name.chars ++ Member.propertyTail optional type rest)))
      (member (Grammar.upTo (depth + 2))) (.property name optional type) (At e rest) := by
  have ends : EndsKey e.mode.inType (Member.propertyTail optional type rest) :=
    endsKey_propertyTail optional type rest
  have front := front_key ends hgap named
  have hmarks (texts : List String) : (keyToken name).isMarkIn texts = false := by
    cases named <;> rfl
  refine (gives_isMarkOf front ["(", "<"]).look ?_
  rw [hmarks]
  refine (gives_constructs ends front).bind ?_
  refine (gives_eatModifier ends front ["readonly"]).bind ?_
  refine (gives_indexSignature? front (keyToken_ne_mark named "[")).bind ?_
  refine (gives_accessor? ends front).bind ?_
  exact gives_propertyOrMethod he (gives_memberKey ends named front depth) reads

end Keys

section Objects

variable {e : Setting} {gap rest : List Char} {members : List Member}

/-- A member of an object type that is read back when its type is. -/
inductive ReadsMember (p : Parse TypeNode) : Member → Prop
  | property {name : PropertyName} {optional : Bool} {type : Option TypeExpr}
      (named : name.Legible) (reads : ∀ t ∈ type, ReadsType p closing t) :
      ReadsMember p (.property name optional type)

/-- The first token between the braces of an object type is a key or the closing brace. -/
theorem front_members (typed : Bool) {p : Parse TypeNode} (hgap : isPad gap = true)
    (reads : ∀ m ∈ members, ReadsMember p m) (rest : List Char) :
    (members = [] ∧ Front typed (gap ++ (TypeExpr.charsOfMembers members ++ '\x7d' :: rest))
      (.mark "\x7d") false rest) ∨
    ∃ name tail, name.Legible ∧ EndsKey typed tail ∧
      Front typed (gap ++ (TypeExpr.charsOfMembers members ++ '\x7d' :: rest)) (keyToken name) false
        tail := by
  cases members with
  | nil => exact .inl ⟨rfl, front_punctuation rfl hgap (.inl (by decide))⟩
  | cons m more =>
      cases reads m List.mem_cons_self with
      | @property name optional type named _ =>
          have ends : EndsKey typed (Member.propertyTail optional type
              (' ' :: (TypeExpr.charsOfMembers more ++ '\x7d' :: rest))) :=
            endsKey_propertyTail optional type _
          rw [Member.chars_properties]
          exact .inr ⟨name, _, named, ends, front_key ends hgap named⟩

/-- The members of an object type are read up to the brace that closes it. -/
theorem gives_memberList (he : e.mode.inType = true) (hgap : isPad gap = true) (depth : Nat)
    (reads : ∀ m ∈ members, ReadsMember (Grammar.upTo (depth + 2)).type m) :
    Gives (At e (gap ++ (TypeExpr.charsOfMembers members ++ '\x7d' :: rest)))
      (gather do
        if ← isMark "\x7d" then return none
        else return some (← member (Grammar.upTo (depth + 2))))
      members (fun s => ∃ gap : List Char, At e (gap ++ '\x7d' :: rest) s ∧ isPad gap = true) := by
  let inv (cs : List Char) (left : List Member) : Prop :=
    ∃ gap : List Char, isPad gap = true ∧
      cs = gap ++ (TypeExpr.charsOfMembers left ++ '\x7d' :: rest) ∧
      ∀ m ∈ left, ReadsMember (Grammar.upTo (depth + 2)).type m
  have hinv : inv (gap ++ (TypeExpr.charsOfMembers members ++ '\x7d' :: rest)) members :=
    ⟨gap, hgap, rfl, reads⟩
  refine gives_gather ?_ ?_ hinv
  · rintro _ ⟨gap, hgap, rfl, -⟩
    have front : Front e.mode.inType (gap ++ '\x7d' :: rest) (.mark "\x7d") false rest :=
      front_punctuation rfl hgap (.inl (by decide))
    refine (gives_isMark front "\x7d").bind ?_
    exact (gives_pure none).mono (fun _ h => h) fun s hs => ⟨gap, hs.1, hgap⟩
  · rintro _ m left ⟨gap, hgap, rfl, reads⟩
    cases reads m List.mem_cons_self with
    | @property name optional type named htype =>
        have ends : EndsKey e.mode.inType (Member.propertyTail optional type
            (' ' :: (TypeExpr.charsOfMembers left ++ '\x7d' :: rest))) :=
          endsKey_propertyTail optional type _
        have front := front_key ends hgap named
        rw [Member.chars_properties]
        refine ⟨' ' :: (TypeExpr.charsOfMembers left ++ '\x7d' :: rest), ?_, ?_, [' '], rfl, rfl,
          ?_⟩
        · have := Member.length_propertyTail optional type
            (' ' :: (TypeExpr.charsOfMembers left ++ '\x7d' :: rest))
          rw [List.length_append, List.length_append]
          omega
        · refine (gives_isMark front "\x7d").look ?_
          rw [decide_eq_false (keyToken_ne_mark named "\x7d")]
          exact (gives_member he hgap named optional depth htype).bind (gives_pure _)
        · exact fun m h => reads m (List.mem_cons_of_mem _ h)

/-- An object type is read when the types of its properties are. -/
theorem takes_objectType (he : e.mode.inType = true) (hgap : isPad gap = true) (depth : Nat)
    (reads : ∀ m ∈ members, ReadsMember (Grammar.upTo (depth + 2)).type m) :
    Takes (At e (gap ++ ((TypeExpr.object members).chars ++ rest)))
      (objectType (Grammar.upTo (depth + 2))) (·.type = .object members) (At e rest) := by
  obtain ⟨gap', hgap', hchars⟩ := TypeExpr.chars_object members rest
  rw [hchars]
  have front : Front e.mode.inType (gap ++ '\x7b' :: (gap' ++ (TypeExpr.charsOfMembers members ++
      '\x7d' :: rest))) (.mark "\x7b") false _ := front_punctuation rfl hgap (.inl (by decide))
  have hclose : Gives
      (fun s => ∃ gap : List Char, At e (gap ++ '\x7d' :: rest) s ∧ isPad gap = true)
      (expectMark "\x7d") () (At e rest) := by
    rintro s ⟨gap, hs, hgap⟩
    have front : Front e.mode.inType (gap ++ '\x7d' :: rest) (.mark "\x7d") false rest :=
      front_punctuation rfl hgap (.inl (by decide))
    exact gives_expectMark front s hs
  have hmembers : Gives (At e (gap ++ '\x7b' :: (gap' ++ (TypeExpr.charsOfMembers members ++
      '\x7d' :: rest)))) (Parse.members (Grammar.upTo (depth + 2))) members (At e rest) := by
    refine (gives_expectMark front).bind ?_
    refine (gives_memberList he hgap' depth reads).bind ?_
    exact hclose.bind (gives_pure members)
  refine (takes_here front).look fun start _ => ?_
  refine hmembers.bind ?_
  exact (takes_spanFrom start).bind fun span _ => takes_pure rfl

/-- Behind the brace of an object type stands no bracket of a mapped type. A key that is the word
of a mapped type's modifier is taken first. -/
theorem takes_mappedKey {t : Token} {cs tail : List Char}
    (front : Front e.mode.inType cs t false tail)
    (other : ∀ text ≠ "\x7d", t ≠ .mark text)
    (readonly : t = .word "readonly" → EndsKey e.mode.inType tail) :
    Takes (At e cs)
      (do
        let _ ← eatWord "readonly"
        if !(← eatMark "[") then return false
        if !(← isName) then return false
        advance
        isWord "in") (· = false) (fun _ => True) := by
  have hbracket {t : Token} {cs tail : List Char} (front : Front e.mode.inType cs t false tail)
      (other : t ≠ .mark "[") :
      Takes (At e cs)
        (do
          if !(← eatMark "[") then return false
          if !(← isName) then return false
          advance
          isWord "in") (· = false) (fun _ => True) :=
    (gives_eat_other front other).bind ((gives_pure false).mono (fun _ h => h) fun _ _ => trivial)
  by_cases h : t = .word "readonly"
  · obtain ⟨mark, rest, follows, hmark, -⟩ := (readonly h).front
    have hother : Token.mark mark ≠ .mark "[" := by
      rintro ⟨⟩
      exact absurd hmark (by decide)
    subst h
    refine Gives.bind (gives_eat_self front) ?_
    exact hbracket follows hother
  · refine Gives.look (gives_eat_other front h) ?_
    exact hbracket front (other "[" (by decide))

/-- No mapped type starts where an object type with properties does. -/
theorem takes_opensMappedType {p : Parse TypeNode} (hgap : isPad gap = true)
    (reads : ∀ m ∈ members, ReadsMember p m) :
    Takes (At e (gap ++ ((TypeExpr.object members).chars ++ rest))) opensMappedType (· = false)
      (fun _ => True) := by
  obtain ⟨gap', hgap', hchars⟩ := TypeExpr.chars_object members rest
  rw [hchars]
  have hopen : Front e.mode.inType (gap ++ '\x7b' :: (gap' ++ (TypeExpr.charsOfMembers members ++
      '\x7d' :: rest))) (.mark "\x7b") false _ := front_punctuation rfl hgap (.inl (by decide))
  obtain ⟨t, tail, front, other, readonly⟩ : ∃ t tail, Front e.mode.inType
      (gap' ++ (TypeExpr.charsOfMembers members ++ '\x7d' :: rest)) t false tail ∧
      (∀ text ≠ "\x7d", t ≠ .mark text) ∧ (t = .word "readonly" → EndsKey e.mode.inType tail) := by
    obtain ⟨-, front⟩ | ⟨name, tail, named, ends, front⟩ :=
      front_members e.mode.inType hgap' reads rest
    · refine ⟨_, _, front, ?_, fun h => by cases h⟩
      rintro text h ⟨⟩
      exact h rfl
    · exact ⟨_, _, front, fun text _ => keyToken_ne_mark named text, fun _ => ends⟩
  have hsign : Gives (At e (gap' ++ (TypeExpr.charsOfMembers members ++ '\x7d' :: rest)))
      (do if ← eatMark "+" then return true else eatMark "-") false
      (Looked e (gap' ++ (TypeExpr.charsOfMembers members ++ '\x7d' :: rest))) := by
    refine (gives_eat_other front (other "+" (by decide))).look ?_
    exact gives_eat_other front (other "-" (by decide))
  refine (gives_take hopen).bind ?_
  refine hsign.look ?_
  exact takes_mappedKey front other readonly

end Objects

end Syntax.Parse

end SchemaGuards
