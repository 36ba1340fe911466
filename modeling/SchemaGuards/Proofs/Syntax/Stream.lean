import SchemaGuards.Syntax.Members

/-!
# Parsers on a text that is known

What a parser takes and gives when the text before it is known. A state stands before a text
when the tokens to come are those of the text, however many of them were looked at already. The
rules for single tokens carry over to sequences of actions, to attempts and to loops.

## Implementation notes

All texts here are read in a type, where the angle brackets stand alone, and hold no templates.
-/

namespace SchemaGuards.Syntax

/-- A token that opens nothing which changes how the next ones are read. -/
def Token.isPlain : Token → Bool
  | .chunk _ _ => false
  | .broken _ _ => false
  | .mark text => text != "`"
  | _ => true

/-- A token is one of some words. -/
def Token.isWordIn (texts : List String) : Token → Bool
  | .word text => texts.contains text
  | _ => false

/-- A token is one of some marks. -/
def Token.isMarkIn (texts : List String) : Token → Bool
  | .mark text => texts.contains text
  | _ => false

theorem Token.isMarkIn_eq_false {t : Token} {texts : List String}
    (h : ∀ text ∈ texts, t ≠ .mark text) : t.isMarkIn texts = false := by
  cases t with
  | mark text => exact Bool.eq_false_iff.mpr fun ht => h text (List.contains_iff_mem.mp ht) rfl
  | _ => rfl

theorem Token.isWordIn_eq_false {t : Token} {texts : List String}
    (h : ∀ text ∈ texts, t ≠ .word text) : t.isWordIn texts = false := by
  cases t with
  | word text => exact Bool.eq_false_iff.mpr fun ht => h text (List.contains_iff_mem.mp ht) rfl
  | _ => rfl

namespace Parse

theorem run_get (s : State) : (get : Parse State) s = .ok s s := rfl

theorem run_modify (f : State → State) (s : State) : (modify f : Parse Unit) s = .ok () (f s) := rfl

/-- The parts of a state that stay the same while tokens are taken. -/
structure Setting where
  source : List Char
  mode : Mode
  budget : Nat

/-- The setting in a changed mode. -/
@[reducible] def Setting.changed (e : Setting) (change : Mode → Mode) : Setting :=
  { e with mode := change e.mode }

/-- The setting in which faults that do not stop the parser are forgotten. -/
@[reducible] def Setting.quieted (e : Setting) : Setting := e.changed ({ · with quiet := true })

/-- A state in which the next token is no regular expression and no part of a template, and is
read as in a type or not. -/
structure Ready (typed : Bool) (s : State) : Prop where
  inType : s.mode.inType = typed
  noRegex : s.regexAt = none
  noTemplate : .template ∉ s.brackets
  started : s.started = true
  budget : s.source.length < s.budget

/-- A lexeme is read at the front of a text, at some place of the source. -/
def Reads (typed : Bool) (cs : List Char) (offset : Nat) (l : Lexeme) (rest : List Char)
    (stop : Nat) : Prop :=
  ∀ s, Ready typed s → readToken s ⟨cs, offset, none⟩ = .ok (some l) ⟨rest, stop, none⟩

/-- The lexemes that are read from a text one by one, and the place after them. -/
inductive ReadTo (typed : Bool) : List Lexeme → List Char → Nat → Cursor → Prop
  | nil {cs offset} : ReadTo typed [] cs offset ⟨cs, offset, none⟩
  | cons {l ls cs offset rest stop cursor} (plain : l.token.isPlain = true)
      (reads : Reads typed cs offset l rest stop) (later : ReadTo typed ls rest stop cursor) :
      ReadTo typed (l :: ls) cs offset cursor

/-- A state stands before a text of the source: what was looked at is read from it. -/
structure At (e : Setting) (cs : List Char) (s : State) : Prop where
  ready : Ready e.mode.inType s
  source : s.source = e.source
  mode : s.mode = e.mode
  budget : s.budget = e.budget
  unreported : s.reported = none
  place : ∃ before, e.source = before ++ cs ∧ s.previous.hi = before.length ∧
    ReadTo e.mode.inType (s.current.toList ++ s.ahead.toList) cs before.length s.cursor

/-- A state stands before a text whose first token was looked at. -/
def Looked (e : Setting) (cs : List Char) (s : State) : Prop :=
  At e cs s ∧ s.current.isSome = true

/-- A state stands before a text of which at most one token was looked at. -/
def Alone (e : Setting) (cs : List Char) (s : State) : Prop :=
  At e cs s ∧ (s.current = none ∨ s.ahead = none)

/-- From every state of one kind a parser gives a result and ends in a state of another kind. -/
def Takes {α : Type} (P : State → Prop) (p : Parse α) (Q : α → Prop) (R : State → Prop) : Prop :=
  ∀ s, P s → ∃ a s', p s = .ok a s' ∧ Q a ∧ R s'

/-- A token with a gap before it stands at the front of a text, on a fresh line or not. -/
structure Starts (typed : Bool) (gap word : List Char) (t : Token) (fresh : Bool)
    (rest : List Char) : Prop where
  plain : t.isPlain = true
  reads : ∀ offset, Reads typed (gap ++ (word ++ rest)) offset
    ⟨t, ⟨offset + gap.length, offset + gap.length + word.length⟩, fresh⟩ rest
    (offset + gap.length + word.length)

/-- From every state of one kind a parser gives one result. -/
def Gives {α : Type} (P : State → Prop) (p : Parse α) (a : α) (R : State → Prop) : Prop :=
  Takes P p (· = a) R

section Rules

variable {α β : Type} {P R S : State → Prop} {p : Parse α} {f : α → Parse β} {a : α} {b : β}
  {Q : α → Prop} {Q' : β → Prop} {e : Setting} {cs : List Char}

theorem Takes.bind (hp : Takes P p Q R) (hf : ∀ a, Q a → Takes R (f a) Q' S) :
    Takes P (p >>= f) Q' S := by
  intro s hs
  obtain ⟨a, s', hp, ha, hs'⟩ := hp s hs
  obtain ⟨b, s'', hf, hb, hs''⟩ := hf a ha s' hs'
  exact ⟨b, s'', by simp only [Bind.bind, EStateM.bind, hp, hf], hb, hs''⟩

theorem Gives.bind (hp : Gives P p a R) (hf : Takes R (f a) Q' S) : Takes P (p >>= f) Q' S :=
  Takes.bind hp fun _ h => h ▸ hf

theorem takes_pure (ha : Q a) : Takes P (pure a) Q P := fun s hs => ⟨a, s, rfl, ha, hs⟩

theorem gives_pure (a : α) : Gives P (pure a) a P := takes_pure rfl

theorem Takes.weaken (hp : Takes P p Q R) (hP : ∀ s, S s → P s) : Takes S p Q R :=
  fun s hs => hp s (hP s hs)

/-- Looking at a token and going on from before it. -/
theorem Gives.look (hp : Gives P p a (Looked e cs)) (hf : Takes (At e cs) (f a) Q' S) :
    Takes P (p >>= f) Q' S :=
  Gives.bind hp (hf.weaken fun _ h => h.1)

theorem Takes.look (hp : Takes P p Q (Looked e cs))
    (hf : ∀ a, Q a → Takes (At e cs) (f a) Q' S) : Takes P (p >>= f) Q' S :=
  hp.bind fun a ha => (hf a ha).weaken fun _ h => h.1

theorem Takes.mono {R' : State → Prop} {Q' : α → Prop} (hp : Takes P p Q R)
    (hQ : ∀ a, Q a → Q' a) (hR : ∀ s, R s → R' s) : Takes P p Q' R' := by
  intro s hs
  obtain ⟨a, s', hp, ha, hs'⟩ := hp s hs
  exact ⟨a, s', hp, hQ a ha, hR s' hs'⟩

end Rules

section Tokens

variable {typed : Bool} {e : Setting} {gap word rest : List Char} {t : Token} {fresh : Bool}

/-- Reading on from a text goes to its first token first. -/
theorem ReadTo.cons_inv {l : Lexeme} {ls : List Lexeme} {offset : Nat} {cursor : Cursor} {s : State}
    (h : ReadTo typed (l :: ls) (gap ++ (word ++ rest)) offset cursor) (ready : Ready typed s)
    (starts : Starts typed gap word t fresh rest) :
    l = ⟨t, ⟨offset + gap.length, offset + gap.length + word.length⟩, fresh⟩ ∧
      ReadTo typed ls rest (offset + gap.length + word.length) cursor := by
  cases h with
  | cons plain reads later =>
      have h := (reads s ready).symm.trans (starts.reads offset s ready)
      simp only [EStateM.Result.ok.injEq, Option.some.injEq, Cursor.mk.injEq] at h
      obtain ⟨rfl, rfl, rfl, -⟩ := h
      exact ⟨rfl, later⟩

/-- Plain tokens open no templates. -/
theorem noTemplate_bracketsAfter {brackets : List Bracket} (plain : t.isPlain = true)
    (outside : .template ∉ brackets) : .template ∉ bracketsAfter t brackets := by
  unfold bracketsAfter
  split
  · simpa using outside
  · simpa using outside
  · simpa using outside
  · exact fun h => outside (List.mem_of_mem_tail h)
  · exact fun h => outside (List.mem_of_mem_tail h)
  · cases plain
  · exact outside

/-- Two states differ only in what was looked at. -/
structure Kept (typed : Bool) (s s' : State) : Prop where
  ready : Ready typed s'
  source : s'.source = s.source
  mode : s'.mode = s.mode
  budget : s'.budget = s.budget
  reported : s'.reported = s.reported
  previous : s'.previous = s.previous

theorem Ready.looked {s : State} (ready : Ready typed s) (current ahead : Option Lexeme) :
    Ready typed { s with current := current, ahead := ahead } :=
  ⟨ready.inType, ready.noRegex, ready.noTemplate, ready.started, ready.budget⟩

theorem At.kept {s s' : State} {cs before : List Char} (hs : At e cs s)
    (kept : Kept e.mode.inType s s') (source : e.source = before ++ cs)
    (previous : s.previous.hi = before.length)
    (cached : ReadTo e.mode.inType (s'.current.toList ++ s'.ahead.toList) cs before.length
      s'.cursor) :
    At e cs s' :=
  ⟨kept.ready, kept.source.trans hs.source, kept.mode.trans hs.mode, kept.budget.trans hs.budget,
    kept.reported.trans hs.unreported, before, source, kept.previous ▸ previous, cached⟩

/-- Reading the next token from the cursor. -/
theorem run_read {s : State} {offset : Nat} (ready : Ready typed s)
    (cursor : s.cursor = ⟨gap ++ (word ++ rest), offset, none⟩)
    (starts : Starts typed gap word t fresh rest) :
    ∃ s', read s =
        .ok (some ⟨t, ⟨offset + gap.length, offset + gap.length + word.length⟩, fresh⟩) s' ∧
      Kept typed s s' ∧ s'.current = s.current ∧ s'.ahead = s.ahead ∧
      s'.cursor = ⟨rest, offset + gap.length + word.length, none⟩ := by
  have hread := starts.reads offset s ready
  rw [← cursor] at hread
  have hreported : (if s.mode.quiet = true then s.reported else s.reported <|> none) =
      s.reported := by
    cases s.reported <;> simp
  have hscan : scan (readToken s) s =
      .ok (some ⟨t, ⟨offset + gap.length, offset + gap.length + word.length⟩, fresh⟩)
        { s with cursor := ⟨rest, offset + gap.length + word.length, none⟩ } := by
    simp only [scan, hread, hreported]
  simp only [read, bind, EStateM.bind, run_get, hscan, run_modify, pure, EStateM.pure]
  refine ⟨_, rfl, ⟨⟨ready.inType, ready.noRegex, ?_, rfl, ready.budget⟩, rfl, rfl, rfl, rfl, rfl⟩,
    rfl, rfl, rfl⟩
  exact noTemplate_bracketsAfter starts.plain ready.noTemplate

theorem ReadTo.nil_inv {cs : List Char} {offset : Nat} {cursor : Cursor}
    (h : ReadTo typed [] cs offset cursor) : cursor = ⟨cs, offset, none⟩ := by
  cases h
  rfl

/-- The lexeme of a token behind a part of the source and a gap. -/
def lexemeAt (before gap word : List Char) (t : Token) (fresh : Bool) : Lexeme :=
  ⟨t, ⟨before.length + gap.length, before.length + gap.length + word.length⟩, fresh⟩

/-- Looking at the current token takes nothing. -/
theorem run_currentLexeme {s : State} (hs : At e (gap ++ (word ++ rest)) s)
    (starts : Starts e.mode.inType gap word t fresh rest) :
    ∃ before s', e.source = before ++ (gap ++ (word ++ rest)) ∧
      currentLexeme s = .ok (some (lexemeAt before gap word t fresh)) s' ∧
      At e (gap ++ (word ++ rest)) s' ∧ s'.current = some (lexemeAt before gap word t fresh) ∧
      (s.current = none ∨ s.ahead = none → s'.ahead = none) := by
  obtain ⟨before, hsource, hprevious, hcached⟩ := hs.place
  refine ⟨before, ?_⟩
  simp only [currentLexeme, bind, EStateM.bind, run_get]
  cases hcurrent : s.current with
  | some l =>
      rw [hcurrent] at hcached
      obtain ⟨rfl, -⟩ := hcached.cons_inv hs.ready starts
      refine ⟨s, hsource, rfl, hs, hcurrent, fun h => h.resolve_left ?_⟩
      exact Option.some_ne_none _
  | none =>
      cases hahead : s.ahead with
      | some l =>
          rw [hcurrent, hahead] at hcached
          obtain ⟨rfl, -⟩ := hcached.cons_inv hs.ready starts
          exact ⟨_, hsource, rfl, hs.kept ⟨hs.ready.looked _ _, rfl, rfl, rfl, rfl, rfl⟩ hsource
            hprevious hcached, rfl, fun _ => rfl⟩
      | none =>
          rw [hcurrent, hahead] at hcached
          obtain ⟨s', hread, kept, -, hahead', hcursor⟩ :=
            run_read hs.ready hcached.nil_inv starts
          simp only [EStateM.bind, hread, run_modify, pure, EStateM.pure]
          refine ⟨_, hsource, rfl, hs.kept ⟨kept.ready.looked _ _, kept.source, kept.mode,
            kept.budget, kept.reported, kept.previous⟩ hsource hprevious ?_, rfl,
            fun _ => hahead'.trans hahead⟩
          rw [hahead', hahead, hcursor]
          exact .cons starts.plain (starts.reads _) .nil

theorem takes_currentLexeme (starts : Starts e.mode.inType gap word t fresh rest) :
    Takes (At e (gap ++ (word ++ rest))) currentLexeme
      (∃ span, · = some ⟨t, span, fresh⟩)
      (Looked e (gap ++ (word ++ rest))) := by
  intro s hs
  obtain ⟨before, s', -, hrun, hs', hcurrent, -⟩ := run_currentLexeme hs starts
  exact ⟨_, s', hrun, ⟨_, rfl⟩, hs', by rw [hcurrent]; rfl⟩

/-- Looking at the token after the current one takes nothing. -/
theorem takes_nextLexeme {gap' word' rest' : List Char} {t' : Token} {fresh' : Bool}
    (starts : Starts e.mode.inType gap word t fresh (gap' ++ (word' ++ rest')))
    (follows : Starts e.mode.inType gap' word' t' fresh' rest') :
    Takes (Looked e (gap ++ (word ++ (gap' ++ (word' ++ rest'))))) nextLexeme
      (∃ span, · = some ⟨t', span, fresh'⟩)
      (Looked e (gap ++ (word ++ (gap' ++ (word' ++ rest'))))) := by
  rintro s ⟨hs, hcurrent⟩
  obtain ⟨l, hl⟩ := Option.isSome_iff_exists.mp hcurrent
  obtain ⟨before, hsource, hprevious, hcached⟩ := hs.place
  rw [hl] at hcached
  obtain ⟨rfl, hlater⟩ := hcached.cons_inv hs.ready starts
  simp only [nextLexeme, bind, EStateM.bind, run_get]
  cases hahead : s.ahead with
  | some l' =>
      rw [hahead] at hlater
      obtain ⟨rfl, -⟩ := hlater.cons_inv (l := l') hs.ready follows
      exact ⟨_, s, rfl, ⟨_, rfl⟩, hs, hcurrent⟩
  | none =>
      rw [hahead] at hlater
      obtain ⟨s', hread, kept, hcurrent', -, hcursor⟩ :=
        run_read hs.ready hlater.nil_inv follows
      simp only [EStateM.bind, hread, run_modify, pure, EStateM.pure]
      refine ⟨_, _, rfl, ⟨_, rfl⟩, hs.kept ⟨kept.ready.looked _ _, kept.source, kept.mode,
        kept.budget, kept.reported, kept.previous⟩ hsource hprevious ?_, by
          rw [hcurrent']; exact hcurrent⟩
      rw [hcurrent', hl, hcursor]
      exact .cons starts.plain (starts.reads _) (.cons follows.plain (follows.reads _) .nil)

/-- Taking the current token leaves the text behind it. -/
theorem gives_advance (starts : Starts e.mode.inType gap word t fresh rest) :
    Gives (At e (gap ++ (word ++ rest))) advance () (Alone e rest) := by
  intro s hs
  obtain ⟨before, s', hsource, hrun, hs', hcurrent, -⟩ := run_currentLexeme hs starts
  obtain ⟨before', hsource', hprevious, hcached⟩ := hs'.place
  obtain rfl := List.append_cancel_right (hsource.symm.trans hsource')
  rw [hcurrent] at hcached
  obtain ⟨-, hlater⟩ := hcached.cons_inv hs'.ready starts
  refine ⟨(), _, by simp only [advance, bind, EStateM.bind, hrun]; rfl, rfl, ?_, .inl rfl⟩
  refine ⟨⟨hs'.ready.inType, hs'.ready.noRegex, hs'.ready.noTemplate, hs'.ready.started,
    hs'.ready.budget⟩, hs'.source, hs'.mode, hs'.budget, hs'.unreported,
    before ++ (gap ++ word), ?_, ?_, ?_⟩
  · rw [hsource, List.append_assoc, List.append_assoc]
  · simp only [lexemeAt, List.length_append]
    omega
  · simp only [List.length_append, ← Nat.add_assoc]
    exact hlater

end Tokens

/-- A text starts with a token, on a fresh line or not, before another text. -/
def Front (typed : Bool) (cs : List Char) (t : Token) (fresh : Bool) (rest : List Char) : Prop :=
  ∃ gap word, cs = gap ++ (word ++ rest) ∧ Starts typed gap word t fresh rest

section Front

variable {e : Setting} {cs cs' rest : List Char} {t t' : Token} {fresh fresh' : Bool}

theorem takes_lexeme (front : Front e.mode.inType cs t fresh rest) :
    Takes (At e cs) currentLexeme (∃ span, · = some ⟨t, span, fresh⟩) (Looked e cs) := by
  obtain ⟨gap, word, rfl, starts⟩ := front
  exact takes_currentLexeme starts

theorem gives_current (front : Front e.mode.inType cs t fresh rest) :
    Gives (At e cs) current (some t) (Looked e cs) := by
  refine (takes_lexeme front).bind ?_
  rintro _ ⟨span, rfl⟩
  exact gives_pure _

theorem gives_onFreshLine (front : Front e.mode.inType cs t fresh rest) :
    Gives (At e cs) onFreshLine fresh (Looked e cs) := by
  refine (takes_lexeme front).bind ?_
  rintro _ ⟨span, rfl⟩
  exact gives_pure _

theorem takes_here (front : Front e.mode.inType cs t fresh rest) :
    Takes (At e cs) here (fun _ => True) (Looked e cs) := by
  refine (takes_lexeme front).bind ?_
  rintro _ ⟨span, rfl⟩
  exact takes_pure trivial

theorem gives_next (front : Front e.mode.inType cs t fresh cs')
    (follows : Front e.mode.inType cs' t' fresh' rest) :
    Gives (Looked e cs) next (some t') (Looked e cs) := by
  obtain ⟨gap, word, rfl, starts⟩ := front
  obtain ⟨gap', word', rfl, follows⟩ := follows
  refine (takes_nextLexeme starts follows).bind ?_
  rintro _ ⟨span, rfl⟩
  exact gives_pure _

theorem gives_at? (front : Front e.mode.inType cs t fresh rest) (token : Token) :
    Gives (At e cs) (at? token) (t = token) (Looked e cs) := by
  refine (gives_current front).bind ?_
  exact takes_pure (by simp)

theorem gives_isMark (front : Front e.mode.inType cs t fresh rest) (text : String) :
    Gives (At e cs) (isMark text) (t = .mark text) (Looked e cs) := gives_at? front _

theorem gives_isWord (front : Front e.mode.inType cs t fresh rest) (text : String) :
    Gives (At e cs) (isWord text) (t = .word text) (Looked e cs) := gives_at? front _

theorem gives_take_alone (front : Front e.mode.inType cs t fresh rest) :
    Gives (At e cs) advance () (Alone e rest) := by
  obtain ⟨gap, word, rfl, starts⟩ := front
  exact gives_advance starts

theorem gives_take (front : Front e.mode.inType cs t fresh rest) :
    Gives (At e cs) advance () (At e rest) :=
  (gives_take_alone front).mono (fun _ h => h) fun _ h => h.1

/-- A token that comes next is eaten, and another one is not. -/
theorem gives_eat_self (front : Front e.mode.inType cs t fresh rest) :
    Gives (At e cs) (eat t) true (At e rest) := by
  refine (gives_at? front t).look ?_
  rw [if_pos (by simp)]
  exact (gives_take front).bind (gives_pure _)

theorem gives_eat_other {token : Token} (front : Front e.mode.inType cs t fresh rest)
    (other : t ≠ token) :
    Gives (At e cs) (eat token) false (Looked e cs) := by
  refine (gives_at? front token).bind ?_
  rw [if_neg (by simpa using other)]
  exact gives_pure _

theorem gives_eatMark {text : String} (front : Front e.mode.inType cs (.mark text) fresh rest) :
    Gives (At e cs) (eatMark text) true (At e rest) := gives_eat_self front

theorem gives_expectMark {text : String} (front : Front e.mode.inType cs (.mark text) fresh rest) :
    Gives (At e cs) (expectMark text) () (At e rest) := by
  refine (gives_eatMark front).bind ?_
  exact gives_pure ()

theorem gives_isMarkOf (front : Front e.mode.inType cs t fresh rest) (texts : List String) :
    Gives (At e cs) (isMarkOf texts) (t.isMarkIn texts) (Looked e cs) := by
  refine (gives_current front).bind ?_
  cases t <;> exact gives_pure _

theorem gives_isWordOf (front : Front e.mode.inType cs t fresh rest) (texts : List String) :
    Gives (At e cs) (isWordOf texts) (t.isWordIn texts) (Looked e cs) := by
  refine (gives_current front).bind ?_
  cases t <;> exact gives_pure _

theorem gives_isAnyWord (front : Front e.mode.inType cs t fresh rest) :
    Gives (At e cs) isAnyWord t.isWord (Looked e cs) := by
  refine (gives_current front).bind ?_
  exact gives_pure _

theorem gives_nextIsMark (front : Front e.mode.inType cs t fresh cs')
    (follows : Front e.mode.inType cs' t' fresh' rest)
    (text : String) :
    Gives (Looked e cs) (nextIsMark text) (t' = .mark text) (Looked e cs) := by
  refine (gives_next front follows).bind ?_
  exact takes_pure (by simp)

theorem gives_nextIsWord (front : Front e.mode.inType cs t fresh cs')
    (follows : Front e.mode.inType cs' t' fresh' rest)
    (text : String) :
    Gives (Looked e cs) (nextIsWord text) (t' = .word text) (Looked e cs) := by
  refine (gives_next front follows).bind ?_
  exact takes_pure (by simp)

theorem Front.plain (front : Front e.mode.inType cs t fresh rest) : t.isPlain = true := by
  obtain ⟨gap, word, -, starts⟩ := front
  exact starts.plain

theorem gives_broken? (front : Front e.mode.inType cs t fresh rest) :
    Gives (At e cs) broken? none (Looked e cs) := by
  refine (gives_current front).bind ?_
  have hplain := front.plain
  cases t with
  | broken fault reached => cases hplain
  | _ => exact gives_pure _

theorem gives_readable (front : Front e.mode.inType cs t fresh rest) :
    Gives (At e cs) readable (some t) (Looked e cs) :=
  (gives_broken? front).look (gives_current front)

theorem gives_required (front : Front e.mode.inType cs t fresh rest) :
    Gives (At e cs) required t (Looked e cs) :=
  (gives_readable front).bind (gives_pure _)

theorem gives_anyName {text : String} (front : Front e.mode.inType cs t fresh rest)
    (named : t.wordText? = some text) : Gives (At e cs) anyName text (At e rest) := by
  refine (gives_required front).look ?_
  rw [named]
  exact (gives_take front).bind (gives_pure _)

theorem gives_expectEnd (front : Front e.mode.inType cs (.mark ";") fresh rest) :
    Gives (At e cs) expectEnd () (At e rest) := by
  have heat : Gives (At e cs) eatEnd true (At e rest) := (gives_eatMark front).bind (gives_pure _)
  exact heat.bind (gives_pure ())

/-- What holds for every text before the one that is left. -/
theorem takes_of_source {α : Type} {p : Parse α} {Q : α → Prop} {R : State → Prop}
    (h : ∀ before, e.source = before ++ cs → Takes (At e cs) p Q R) : Takes (At e cs) p Q R := by
  intro s hs
  obtain ⟨before, hsource, -, -⟩ := hs.place
  exact h before hsource s hs

theorem gives_here {gap word before : List Char}
    (starts : Starts e.mode.inType gap word t fresh rest)
    (source : e.source = before ++ (gap ++ (word ++ rest))) :
    Gives (At e (gap ++ (word ++ rest))) here (before.length + gap.length)
      (Looked e (gap ++ (word ++ rest))) := by
  intro s hs
  obtain ⟨before', s', hsource, hrun, hs', hcurrent, -⟩ := run_currentLexeme hs starts
  obtain rfl := List.append_cancel_right (source.symm.trans hsource)
  refine ⟨_, s', ?_, rfl, hs', by rw [hcurrent]; rfl⟩
  simp only [here, bind, EStateM.bind, hrun]
  rfl

/-- The text from a place to the end of what was taken. -/
theorem gives_textFrom {before text : List Char} (source : e.source = before ++ (text ++ cs)) :
    Gives (At e cs) (textFrom before.length) (String.ofList text) (At e cs) := by
  intro s hs
  refine ⟨_, s, rfl, ?_, hs⟩
  obtain ⟨before', hsource, hprevious, -⟩ := hs.place
  have hbefore : before' = before ++ text :=
    List.append_cancel_right (hsource.symm.trans (source.trans (List.append_assoc _ _ _).symm))
  change String.ofList ((s.source.drop before.length).take (s.previous.hi - before.length)) = _
  rw [hs.source, source, hprevious, hbefore, List.drop_left, List.length_append,
    Nat.add_sub_cancel_left, List.take_left]

theorem takes_get {P : State → Prop} : Takes P (get : Parse State) (fun s => P s) P :=
  fun s hs => ⟨s, s, rfl, hs, hs⟩

theorem takes_spanFrom {P : State → Prop} (start : Nat) :
    Takes P (spanFrom start) (fun _ => True) P := fun s hs => ⟨_, s, rfl, trivial, hs⟩

end Front

section Control

variable {α : Type} {e : Setting} {cs cs' : List Char} {p : Parse α} {Q : α → Prop}

theorem At.within {s : State} (hs : At e cs s) {change : Mode → Mode}
    (stays : (change e.mode).inType = e.mode.inType) :
    At (e.changed change) cs { s with mode := change e.mode } :=
  ⟨⟨rfl, hs.ready.noRegex, hs.ready.noTemplate, hs.ready.started, hs.ready.budget⟩, hs.source,
    rfl, hs.budget, hs.unreported, by
      rw [stays]
      exact hs.place⟩

theorem At.without {s s' : State} (change : Mode → Mode)
    (stays : (change e.mode).inType = e.mode.inType)
    (hs' : At (e.changed change) cs s') (hs : At e cs' s) : At e cs { s' with mode := s.mode } :=
  ⟨⟨hs.ready.inType, hs'.ready.noRegex, hs'.ready.noTemplate, hs'.ready.started,
    hs'.ready.budget⟩, hs'.source, hs.mode, hs'.budget, hs'.unreported, by
      rw [← stays]
      exact hs'.place⟩

/-- A change of the mode that reads the same tokens changes nothing about what is taken. -/
theorem takes_within (change : Mode → Mode) (stays : (change e.mode).inType = e.mode.inType)
    (hp : Takes (At (e.changed change) cs) p Q (At (e.changed change) cs')) :
    Takes (At e cs) (within change p) Q (At e cs') := by
  intro s hs
  obtain ⟨a, s', hp, ha, hs'⟩ := hp _ (hs.within stays)
  refine ⟨a, { s' with mode := s.mode }, ?_, ha, At.without change stays hs' hs⟩
  simp only [Parse.within, hs.mode, hp]

/-- From every state of one kind a parser fails or ends in a state of another kind. -/
def Tries {α : Type} (P : State → Prop) (p : Parse α) (R : State → Prop) : Prop :=
  ∀ s, P s → (∃ fault s', p s = .error fault s') ∨ ∃ a s', p s = .ok a s' ∧ R s'

/-- A parser does not succeed from any state of some kind. -/
def Fails {α : Type} (P : State → Prop) (p : Parse α) : Prop := Tries P p fun _ => False

/-- What fails takes nothing. -/
theorem gives_attempt_none {p : Parse (Option α)} (hp : Fails (At e.quieted cs) p) :
    Gives (At e cs) (attempt p) none (At e cs) := by
  intro s hs
  obtain ⟨fault, s', hp⟩ | ⟨a, s', -, hs'⟩ := hp _ (hs.within rfl)
  · refine ⟨none, s, ?_, rfl, hs⟩
    simp only [attempt, hs.mode, hp]
  · exact hs'.elim

theorem gives_attempt_nothing {p : Parse (Option α)} {R : State → Prop}
    (hp : Gives (At e.quieted cs) p none R) : Gives (At e cs) (attempt p) none (At e cs) := by
  intro s hs
  obtain ⟨_, s', hp, rfl, -⟩ := hp _ (hs.within rfl)
  refine ⟨none, s, ?_, rfl, hs⟩
  simp only [attempt, hs.mode, hp]

/-- What may fail is taken back then, and else it is found. -/
theorem takes_attempt {p : Parse (Option α)} {I : List Char → Prop}
    (hp : Tries (At e.quieted cs) p fun s => ∃ cs', I cs' ∧ At e.quieted cs' s) :
    Takes (At e cs) (attempt p) (fun _ => True)
      fun s => ∃ cs', (cs' = cs ∨ I cs') ∧ At e cs' s := by
  intro s hs
  obtain ⟨fault, s', hp⟩ | ⟨a, s', hp, cs', hcs', hs'⟩ := hp _ (hs.within rfl)
  · refine ⟨none, s, ?_, trivial, cs, .inl rfl, hs⟩
    simp only [attempt, hs.mode, hp]
  · cases a with
    | none =>
        refine ⟨none, s, ?_, trivial, cs, .inl rfl, hs⟩
        simp only [attempt, hs.mode, hp]
    | some a =>
        have hmode : { s'.mode with quiet := s.mode.quiet } = s.mode := by
          rw [hs'.mode, hs.mode]
        refine ⟨some a, { s' with mode := s.mode }, ?_, trivial, cs', .inr hcs',
          At.without ({ · with quiet := true }) rfl hs' hs⟩
        rw [← hmode]
        simp only [attempt, hs.mode, hp]

theorem takes_lookAhead {R : State → Prop} (hp : Takes (At e.quieted cs) p Q R) :
    Takes (At e cs) (lookAhead p) Q (At e cs) := by
  intro s hs
  obtain ⟨a, s', hp, ha, -⟩ := hp _ (hs.within rfl)
  refine ⟨a, s, ?_, ha, hs⟩
  simp only [lookAhead, hs.mode, hp]

end Control

section Trying

variable {α β : Type} {P R S : State → Prop} {p : Parse α} {f : α → Parse β} {a : α}
  {Q : α → Prop} {e : Setting} {cs rest : List Char} {t : Token} {fresh : Bool}

theorem Tries.bind (hp : Tries P p R) (hf : ∀ a, Tries R (f a) S) : Tries P (p >>= f) S := by
  intro s hs
  obtain ⟨fault, s', hp⟩ | ⟨a, s', hp, hs'⟩ := hp s hs
  · exact .inl ⟨fault, s', by simp only [Bind.bind, EStateM.bind, hp]⟩
  · obtain ⟨fault, s'', hf⟩ | ⟨b, s'', hf, hs''⟩ := hf a s' hs'
    · exact .inl ⟨fault, s'', by simp only [Bind.bind, EStateM.bind, hp, hf]⟩
    · exact .inr ⟨b, s'', by simp only [Bind.bind, EStateM.bind, hp, hf], hs''⟩

theorem Takes.tries (hp : Takes P p Q R) : Tries P p R := by
  intro s hs
  obtain ⟨a, s', hp, -, hs'⟩ := hp s hs
  exact .inr ⟨a, s', hp, hs'⟩

theorem Takes.bind_tries (hp : Takes P p Q R) (hf : ∀ a, Q a → Tries R (f a) S) :
    Tries P (p >>= f) S := by
  intro s hs
  obtain ⟨a, s', hp, ha, hs'⟩ := hp s hs
  obtain ⟨fault, s'', hf⟩ | ⟨b, s'', hf, hs''⟩ := hf a ha s' hs'
  · exact .inl ⟨fault, s'', by simp only [Bind.bind, EStateM.bind, hp, hf]⟩
  · exact .inr ⟨b, s'', by simp only [Bind.bind, EStateM.bind, hp, hf], hs''⟩

theorem Gives.bind_tries (hp : Gives P p a R) (hf : Tries R (f a) S) : Tries P (p >>= f) S :=
  Takes.bind_tries hp fun _ h => h ▸ hf

theorem Tries.weaken (hp : Tries P p R) (hP : ∀ s, S s → P s) : Tries S p R :=
  fun s hs => hp s (hP s hs)

theorem Fails.tries (hp : Fails P p) : Tries P p R := by
  intro s hs
  obtain h | ⟨a, s', -, hs'⟩ := hp s hs
  · exact .inl h
  · exact hs'.elim

/-- Looking at a token before trying. -/
theorem Takes.look_tries (hp : Takes P p Q (Looked e cs))
    (hf : ∀ a, Q a → Tries (At e cs) (f a) S) : Tries P (p >>= f) S :=
  hp.bind_tries fun a ha => (hf a ha).weaken fun _ h => h.1

theorem Gives.look_tries (hp : Gives P p a (Looked e cs)) (hf : Tries (At e cs) (f a) S) :
    Tries P (p >>= f) S :=
  Takes.look_tries hp fun _ h => h ▸ hf

theorem tries_pure (a : α) : Tries P (pure a) P := (gives_pure a).tries

theorem Tries.mono (hp : Tries P p R) (hR : ∀ s, R s → S s) : Tries P p S :=
  fun s hs => (hp s hs).imp_right fun ⟨a, s', hp, hs'⟩ => ⟨a, s', hp, hR s' hs'⟩

theorem fails_failAt (front : Front e.mode.inType cs t fresh rest) (cause : Cause) (offset : Nat) :
    Fails (At e cs) (failAt (α := α) cause offset) :=
  (gives_broken? front).bind_tries fun s _ => .inl ⟨_, s, rfl⟩

theorem fails_within (change : Mode → Mode) (stays : (change e.mode).inType = e.mode.inType)
    (hp : Fails (At (e.changed change) cs) p) : Fails (At e cs) (within change p) := by
  intro s hs
  obtain ⟨fault, s', hp⟩ | ⟨a, s', -, hs'⟩ := hp _ (hs.within stays)
  · refine .inl ⟨fault, { s' with mode := s.mode }, ?_⟩
    simp only [Parse.within, hs.mode, hp]
  · exact hs'.elim

theorem takes_currentSpan : Takes P currentSpan (fun _ => True) P :=
  fun s hs => ⟨_, s, rfl, trivial, hs⟩

theorem fails_fail (front : Front e.mode.inType cs t fresh rest) (cause : Cause) :
    Fails (At e cs) (fail (α := α) cause) :=
  takes_currentSpan.bind_tries fun _ _ => fails_failAt front cause _

theorem takes_currentShown (front : Front e.mode.inType cs t fresh rest) :
    Takes (At e cs) currentShown (fun _ => True) (Looked e cs) :=
  (gives_current front).bind fun s hs => ⟨_, s, rfl, trivial, hs⟩

theorem fails_unexpected (front : Front e.mode.inType cs t fresh rest) (due : String) :
    Fails (At e cs) (unexpected (α := α) due) :=
  (takes_currentShown front).bind_tries fun _ _ =>
    (fails_fail front _).weaken fun _ h => h.1

theorem fails_expectMark {text : String} (front : Front e.mode.inType cs t fresh rest)
    (other : t ≠ .mark text) : Fails (At e cs) (expectMark text) :=
  (gives_eat_other front other).look_tries
    ((takes_currentShown front).bind_tries fun _ _ => (fails_fail front _).weaken fun _ h => h.1)

theorem fails_expectWord {text : String} (front : Front e.mode.inType cs t fresh rest)
    (other : t ≠ .word text) : Fails (At e cs) (expectWord text) :=
  (gives_eat_other front other).look_tries
    ((takes_currentShown front).bind_tries fun _ _ => (fails_fail front _).weaken fun _ h => h.1)

/-- Where faults are forgotten a report does nothing. -/
theorem gives_report (quiet : e.mode.quiet = true) (cause : Cause) (offset : Nat) :
    Gives (At e cs) (report cause offset) () (At e cs) := by
  intro s hs
  refine ⟨(), s, ?_, rfl, hs⟩
  have hquiet : s.mode.quiet = true := hs.mode ▸ quiet
  simp only [report, reportFault, bind, EStateM.bind, run_get, hquiet, if_true]
  rfl

end Trying

section Loops

variable {α : Type} {e : Setting} {cs : List Char}

theorem At.short {s : State} (hs : At e cs s) : cs.length < s.budget := by
  obtain ⟨before, hsource, -, -⟩ := hs.place
  have := hs.ready.budget
  rw [hs.source, hsource, List.length_append] at this
  omega

/-- A loop whose steps each shorten the text until one stops. -/
theorem takes_iterate {step : α → Parse (α × Bool)} {Q : α → Prop} {R : State → Prop} {a : α}
    {I : List Char → α → Prop}
    (hstep : ∀ cs a, I cs a → Takes (At e cs) (step a) (fun r => r.2 = false ∧ Q r.1) R ∨
      ∃ cs', cs'.length < cs.length ∧
        Takes (At e cs) (step a) (fun r => r.2 = true ∧ I cs' r.1) (At e cs'))
    (ha : I cs a) : Takes (At e cs) (iterate step a) Q R := by
  have hfor : ∀ budget cs a, cs.length < budget → I cs a →
      Takes (At e cs) (iterateFor budget step a) Q R := by
    intro budget
    induction budget with
    | zero => exact fun cs a hlt => absurd hlt (Nat.not_lt_zero _)
    | succ budget ih =>
        intro cs a hlt ha
        obtain hstop | ⟨cs', hshort, hon⟩ := hstep cs a ha
        · refine hstop.bind ?_
          rintro ⟨a, _⟩ ⟨rfl, ha⟩
          exact takes_pure ha
        · refine hon.bind ?_
          rintro ⟨a', _⟩ ⟨rfl, ha'⟩
          exact ih cs' a' (by omega) ha'
  intro s hs
  exact hfor s.budget cs a hs.short ha s hs

/-- A loop whose first step fails. -/
theorem fails_iterate {step : α → Parse (α × Bool)} {a : α} (hstep : Fails (At e cs) (step a)) :
    Fails (At e cs) (iterate step a) := by
  intro s hs
  obtain ⟨budget, hbudget⟩ : ∃ budget, s.budget = budget + 1 :=
    Nat.exists_eq_add_one.mpr (Nat.zero_lt_of_lt hs.short)
  have hloop : Fails (At e cs) (iterateFor (budget + 1) step a) :=
    Tries.bind hstep fun _ _ hs => hs.elim
  have := hloop s hs
  rw [← hbudget] at this
  exact this

/-- A list whose members are read one after another until none is found. -/
theorem gives_gather {item : Parse (Option α)} {R : State → Prop} {as : List α}
    {I : List Char → List α → Prop}
    (hnil : ∀ cs, I cs [] → Gives (At e cs) item none R)
    (hcons : ∀ cs a as, I cs (a :: as) → ∃ cs', cs'.length < cs.length ∧
      Gives (At e cs) item (some a) (At e cs') ∧ I cs' as)
    (has : I cs as) : Gives (At e cs) (gather item) as R := by
  have hfor : ∀ budget cs as, cs.length < budget → I cs as →
      Gives (At e cs) (gatherFor budget item) as R := by
    intro budget
    induction budget with
    | zero => exact fun cs as hlt => absurd hlt (Nat.not_lt_zero _)
    | succ budget ih =>
        intro cs as hlt has
        cases as with
        | nil => exact (hnil cs has).bind (gives_pure _)
        | cons a as =>
            obtain ⟨cs', hshort, hitem, has'⟩ := hcons cs a as has
            exact hitem.bind ((ih cs' as (by omega) has').bind (gives_pure _))
  intro s hs
  exact hfor s.budget cs as hs.short has s hs

end Loops

end Parse

end SchemaGuards.Syntax
