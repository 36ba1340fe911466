import SchemaGuards.Proofs.Syntax.Types

/-!
# Aliases read back from their text

A module that holds one alias of a legible type is read as this alias. The name and the sign before
the type are read outside of types, where angle brackets may be operators; the two readings agree on
the sign that is looked at where the type begins and on the semicolon where it ends.
-/

namespace SchemaGuards.Syntax.Parse

section Alone

variable {e : Setting} {gap word cs rest : List Char} {t : Token} {fresh : Bool}

theorem takes_lexeme_alone (front : Front e.mode.inType cs t fresh rest) :
    Takes (Alone e cs) currentLexeme (∃ span, · = some ⟨t, span, fresh⟩) (Alone e cs) := by
  obtain ⟨gap, word, rfl, starts⟩ := front
  rintro s ⟨hs, halone⟩
  obtain ⟨before, s', -, hrun, hs', -, hahead⟩ := run_currentLexeme hs starts
  exact ⟨_, s', hrun, ⟨_, rfl⟩, hs', .inr (hahead halone)⟩

theorem gives_anyName_alone {text : String} (front : Front e.mode.inType cs t fresh rest)
    (named : t.wordText? = some text) : Gives (At e cs) anyName text (Alone e rest) := by
  refine (gives_required front).look ?_
  rw [named]
  exact (gives_take_alone front).bind (gives_pure _)

theorem gives_isMark_alone (front : Front e.mode.inType cs t fresh rest) (text : String) :
    Gives (Alone e cs) (isMark text) (t = .mark text) (Alone e cs) := by
  have hcurrent : Gives (Alone e cs) current (some t) (Alone e cs) := by
    refine (takes_lexeme_alone front).bind ?_
    rintro _ ⟨span, rfl⟩
    exact gives_pure _
  refine hcurrent.bind ?_
  exact takes_pure (by simp)

/-- A token that is read in two modes alike stays looked at when the mode changes. -/
theorem Alone.changed {s : State} (hs : Alone e (gap ++ (word ++ rest)) s) (change : Mode → Mode)
    (starts : ∀ typed, Starts typed gap word t fresh rest) :
    Alone (e.changed change) (gap ++ (word ++ rest)) { s with mode := change e.mode } := by
  obtain ⟨hs, halone⟩ := hs
  obtain ⟨before, hsource, hprevious, hcached⟩ := hs.place
  refine ⟨⟨⟨rfl, hs.ready.noRegex, hs.ready.noTemplate, hs.ready.started, hs.ready.budget⟩,
    hs.source, rfl, hs.budget, hs.unreported, before, hsource, hprevious, ?_⟩, halone⟩
  have hall {l : Lexeme}
      (h : ReadTo e.mode.inType [l] (gap ++ (word ++ rest)) before.length s.cursor) :
      ReadTo (change e.mode).inType [l] (gap ++ (word ++ rest)) before.length s.cursor := by
    obtain ⟨rfl, hlater⟩ := h.cons_inv hs.ready (starts _)
    rw [hlater.nil_inv]
    exact .cons (starts true).plain ((starts _).reads _) .nil
  cases hcurrent : s.current with
  | none =>
      cases hahead : s.ahead with
      | none =>
          rw [hcurrent, hahead] at hcached
          rw [hcached.nil_inv]
          exact .nil
      | some l =>
          rw [hcurrent, hahead] at hcached
          exact hall hcached
  | some l =>
      have hahead : s.ahead = none := halone.resolve_left fun h => by
        rw [hcurrent] at h
        cases h
      rw [hcurrent, hahead] at hcached
      rw [hahead]
      exact hall hcached

/-- No token is read at the end. -/
theorem run_readToken_end {typed : Bool} {s : State} (ready : Ready typed s) (offset : Nat) :
    readToken s ⟨[], offset, none⟩ = .ok none ⟨[], offset, none⟩ := by
  have hhead : s.brackets.head? ≠ some .template :=
    fun h => ready.noTemplate (List.mem_of_mem_head? h)
  obtain ⟨budget, hbudget⟩ := Nat.exists_eq_add_one_of_ne_zero (Nat.ne_zero_of_lt ready.budget)
  have hscan : (Scan.gap .blank).run ⟨[], offset, none⟩ = .ok (false, none) ⟨[], offset, none⟩ :=
    rfl
  have htoken (fresh : Bool) :
      (Scan.token s.mode.inType (budget + 1) fresh).run ⟨[], offset, none⟩ =
      .ok (none, fresh) ⟨[], offset, none⟩ := rfl
  change (readToken s).run _ = _
  unfold readToken
  simp only [ready.noRegex, Scan.run_bind, Scan.run_place, hhead, if_false, hscan,
    Scan.run_following, hbudget, htoken, Scan.run_pure, Option.map_none]

/-- Behind the last token of a text no other was looked at. -/
theorem At.alone {s : State} (hs : At e (gap ++ (word ++ [])) s)
    (starts : Starts e.mode.inType gap word t fresh []) : Alone e (gap ++ (word ++ [])) s := by
  refine ⟨hs, ?_⟩
  obtain ⟨before, hsource, hprevious, hcached⟩ := hs.place
  cases hcurrent : s.current with
  | none => exact .inl rfl
  | some l =>
      cases hahead : s.ahead with
      | none => exact .inr rfl
      | some l' =>
          rw [hcurrent, hahead] at hcached
          obtain ⟨-, hlater⟩ := hcached.cons_inv hs.ready starts
          cases hlater with
          | cons plain reads later =>
              have hread := (reads s hs.ready).symm.trans (run_readToken_end hs.ready _)
              cases hread

/-- What is read in a type up to the last token, behind a token that both modes read alike. -/
theorem takes_typeMode {α : Type} {p : Parse α} {Q : α → Prop} {gap' word' : List Char} {t' : Token}
    {fresh' : Bool} (starts : ∀ typed, Starts typed gap word t fresh rest)
    (ends : ∀ typed, Starts typed gap' word' t' fresh' [])
    (hp : Takes (At (e.changed ({ · with inType := true })) (gap ++ (word ++ rest))) p Q
      (At (e.changed ({ · with inType := true })) (gap' ++ (word' ++ [])))) :
    Takes (Alone e (gap ++ (word ++ rest))) (typeMode p) Q (At e (gap' ++ (word' ++ []))) := by
  intro s hs
  obtain ⟨a, s', hp, ha, hs'⟩ := hp _ (hs.changed ({ · with inType := true }) starts).1
  have hback := ((hs'.alone (ends _)).changed (fun _ => e.mode) ends).1
  refine ⟨a, { s' with mode := s.mode }, ?_, ha, hs.1.mode ▸ hback⟩
  simp only [typeMode, Parse.within, hs.1.mode, hp]

/-- At the end there is no token, which takes nothing. -/
theorem gives_lexeme_end : Gives (At e []) currentLexeme none (At e []) := by
  intro s hs
  obtain ⟨before, hsource, hprevious, hcached⟩ := hs.place
  have hnever {l : Lexeme} {ls : List Lexeme}
      (h : ReadTo e.mode.inType (l :: ls) [] before.length s.cursor) : False := by
    cases h with
    | cons plain reads later =>
        have hread := (reads s hs.ready).symm.trans (run_readToken_end hs.ready _)
        cases hread
  cases hcurrent : s.current with
  | some l =>
      rw [hcurrent] at hcached
      exact (hnever hcached).elim
  | none =>
      cases hahead : s.ahead with
      | some l =>
          rw [hcurrent, hahead] at hcached
          exact (hnever hcached).elim
      | none =>
          rw [hcurrent, hahead] at hcached
          have hread : readToken s s.cursor = .ok none ⟨[], before.length, none⟩ := by
            rw [hcached.nil_inv]
            exact run_readToken_end hs.ready before.length
          have hreported : (if s.mode.quiet = true then s.reported else s.reported <|> none) =
              s.reported := by
            cases s.reported <;> simp
          have hscan : scan (readToken s) s =
              .ok none { s with cursor := ⟨[], before.length, none⟩ } := by
            simp only [scan, hread, hreported]
          refine ⟨none,
            { s with cursor := ⟨[], before.length, none⟩, started := true, current := none },
            ?_, rfl, ?_⟩
          · simp only [currentLexeme, read, bind, EStateM.bind, run_get, hcurrent, hahead, hscan,
              run_modify, pure, EStateM.pure]
          · refine hs.kept ⟨⟨hs.ready.inType, hs.ready.noRegex, hs.ready.noTemplate, rfl,
              hs.ready.budget⟩, rfl, rfl, rfl, rfl, rfl⟩ hsource hprevious ?_
            rw [hahead]
            exact .nil

theorem gives_atEof_end : Gives (At e []) atEof true (At e []) := by
  have hcurrent : Gives (At e []) current none (At e []) := gives_lexeme_end.bind (gives_pure none)
  have hbroken : Gives (At e []) broken? none (At e []) := hcurrent.bind (gives_pure none)
  have hreadable : Gives (At e []) readable none (At e []) := hbroken.bind hcurrent
  exact hreadable.bind (gives_pure true)

end Alone

/-- A state whose current token was looked at, before the text behind this token. The token may
stand on a fresh line, as the first one of a module does. -/
def Begun (e : Setting) (t : Token) (cs : List Char) (s : State) : Prop :=
  ∃ span fresh, s.current = some ⟨t, span, fresh⟩ ∧
    At e cs { s with current := none, previous := span }

section Begun

variable {e : Setting} {cs rest : List Char} {t t' : Token} {fresh : Bool}

theorem takes_lexeme_begun :
    Takes (Begun e t cs) currentLexeme (∃ span fresh, · = some ⟨t, span, fresh⟩)
      (Begun e t cs) := by
  rintro s ⟨span, fresh, hcurrent, hs⟩
  refine ⟨some ⟨t, span, fresh⟩, s, ?_, ⟨span, fresh, rfl⟩, span, fresh, hcurrent, hs⟩
  simp only [currentLexeme, bind, EStateM.bind, run_get, hcurrent]
  rfl

theorem gives_current_begun : Gives (Begun e t cs) current (some t) (Begun e t cs) := by
  refine takes_lexeme_begun.bind ?_
  rintro _ ⟨span, fresh, rfl⟩
  exact gives_pure _

theorem gives_take_begun : Gives (Begun e t cs) advance () (Alone e cs) := by
  rintro s ⟨span, fresh, hcurrent, hs⟩
  refine ⟨(), { s with current := none, previous := span }, ?_, rfl, hs, .inl rfl⟩
  simp only [advance, currentLexeme, bind, EStateM.bind, run_get, hcurrent]
  rfl

theorem gives_readable_begun (plain : t.isPlain = true) :
    Gives (Begun e t cs) readable (some t) (Begun e t cs) := by
  have hbroken : Gives (Begun e t cs) broken? none (Begun e t cs) := by
    refine gives_current_begun.bind ?_
    cases t with
    | broken fault reached => cases plain
    | _ => exact gives_pure none
  exact hbroken.bind gives_current_begun

theorem gives_required_begun (plain : t.isPlain = true) :
    Gives (Begun e t cs) required t (Begun e t cs) :=
  (gives_readable_begun plain).bind (gives_pure t)

theorem takes_here_begun : Takes (Begun e t cs) here (fun _ => True) (Begun e t cs) := by
  refine takes_lexeme_begun.bind ?_
  rintro _ ⟨span, fresh, rfl⟩
  exact takes_pure trivial

/-- Looking at the token behind the current one. -/
theorem takes_next_begun (front : Front e.mode.inType cs t' fresh rest) :
    Takes (Begun e t cs) nextLexeme (∃ span, · = some ⟨t', span, fresh⟩) (Begun e t cs) := by
  obtain ⟨gap, word, rfl, starts⟩ := front
  rintro s ⟨span, fresh', hcurrent, hs⟩
  obtain ⟨before, hsource, hprevious, hcached⟩ := hs.place
  have hready : Ready e.mode.inType s :=
    ⟨hs.ready.inType, hs.ready.noRegex, hs.ready.noTemplate, hs.ready.started, hs.ready.budget⟩
  simp only [nextLexeme, bind, EStateM.bind, run_get]
  cases hahead : s.ahead with
  | some l =>
      rw [hahead] at hcached
      obtain ⟨rfl, -⟩ := hcached.cons_inv (l := l) hs.ready starts
      exact ⟨_, s, rfl, ⟨_, rfl⟩, span, fresh', hcurrent, hs⟩
  | none =>
      rw [hahead] at hcached
      obtain ⟨s', hread, kept, hcurrent', -, hcursor⟩ := run_read hready hcached.nil_inv starts
      simp only [EStateM.bind, hread, run_modify, pure, EStateM.pure]
      refine ⟨_, _, rfl, ⟨_, rfl⟩, span, fresh', hcurrent'.trans hcurrent, ?_⟩
      refine hs.kept ⟨⟨kept.ready.inType, kept.ready.noRegex, kept.ready.noTemplate,
        kept.ready.started, kept.ready.budget⟩, kept.source, kept.mode, kept.budget, kept.reported,
        rfl⟩ hsource hprevious ?_
      rw [hcursor]
      exact .cons starts.plain (starts.reads _) .nil

/-- A word that declares has its name behind it on the same line. -/
theorem gives_declaresNext (front : Front e.mode.inType cs t' false rest)
    (named : t'.isWord = true) : Gives (Begun e t cs) declaresNext true (Begun e t cs) := by
  have hnext : Gives (Begun e t cs) next (some t') (Begun e t cs) := by
    refine (takes_next_begun front).bind ?_
    rintro _ ⟨span, rfl⟩
    exact gives_pure _
  have hline : Gives (Begun e t cs) nextOnFreshLine false (Begun e t cs) := by
    refine (takes_next_begun front).bind ?_
    rintro _ ⟨span, rfl⟩
    exact gives_pure _
  refine hnext.bind ?_
  rw [Option.any_some, named]
  exact hline.bind (gives_pure true)

theorem takes_within_begun {α : Type} {p : Parse α} {Q : α → Prop} {cs' : List Char}
    (change : Mode → Mode) (stays : (change e.mode).inType = e.mode.inType)
    (hp : Takes (Begun (e.changed change) t cs) p Q (At (e.changed change) cs')) :
    Takes (Begun e t cs) (within change p) Q (At e cs') := by
  rintro s ⟨span, fresh, hcurrent, hs⟩
  have hmode : s.mode = e.mode := hs.mode
  obtain ⟨a, s', hp, ha, hs'⟩ := hp { s with mode := change e.mode }
    ⟨span, fresh, hcurrent, hs.within stays⟩
  have hback := At.without change stays hs' hs
  refine ⟨a, { s' with mode := s.mode }, ?_, ha, hback⟩
  simp only [Parse.within, hmode, hp]

end Begun

section Alias

variable {e : Setting} {g : Grammar} {name : String} {type : TypeExpr}

/-- The text of an alias behind its word. -/
def aliasChars (name : String) (type : TypeExpr) : List Char :=
  ' ' :: (name.toList ++ ' ' :: '=' :: ' ' :: (type.chars ++ [';']))

theorem front_aliasName {typed : Bool} (hname : isWordText name.toList = true) :
    Front typed (aliasChars name type) (.word name) false
      (' ' :: '=' :: ' ' :: (type.chars ++ [';'])) := by
  have hfront : Front typed ([' '] ++ (name.toList ++ ' ' :: '=' :: ' ' :: (type.chars ++ [';'])))
      (.word name) false (' ' :: '=' :: ' ' :: (type.chars ++ [';'])) := by
    refine front_word rfl hname ?_
    rintro d ⟨⟩
    decide
  exact hfront

theorem starts_equals (typed : Bool) (rest : List Char) :
    Starts typed [' '] ['='] (.mark "=") false (' ' :: rest) := by
  have halone : joins typed '=' ' ' = false := by cases typed <;> decide
  refine starts_mark rfl rfl (by decide) (.inr (by decide)) (fun h => absurd h (by decide)) ?_
  rintro d ⟨⟩
  exact halone

theorem starts_lastSemicolon (typed : Bool) : Starts typed [] [';'] (.mark ";") false [] :=
  starts_mark rfl rfl (by decide) (.inr (by decide)) (fun h => absurd h (by decide)) fun _ h => by
    cases h

/-- The tail of an alias is read when its type is. -/
theorem gives_aliasTail (hname : isWordText name.toList = true)
    (reads : ReadsType g.type closing type) :
    Gives (At e (aliasChars name type)) (aliasTail g) (.typeAlias name [] type) (At e []) := by
  have hequals (typed : Bool) : Front typed ([' '] ++ (['='] ++ ' ' :: (type.chars ++ [';'])))
      (.mark "=") false (' ' :: (type.chars ++ [';'])) :=
    ⟨[' '], ['='], rfl, starts_equals typed _⟩
  have hend : Front e.mode.inType ([] ++ ([';'] ++ [])) (.mark ";") false [] :=
    ⟨[], [';'], rfl, starts_lastSemicolon _⟩
  have hclose : Closes true closing [';'] :=
    closes_punctuation ";" rfl (.inl (by decide)) (by decide)
  have htype : Takes (Alone e ([' '] ++ (['='] ++ ' ' :: (type.chars ++ [';']))))
      (typeMode do
        if !(← eatMark "=") then
          let found ← currentShownAsOption
          fail (.unexpected found "=")
        g.type) (·.type = type) (At e ([] ++ ([';'] ++ []))) := by
    refine takes_typeMode (fun typed => starts_equals typed _) starts_lastSemicolon ?_
    have hread : Takes (At (e.changed ({ · with inType := true })) ([' '] ++ (type.chars ++ [';'])))
        g.type (·.type = type) (At (e.changed ({ · with inType := true })) [';']) :=
      reads rfl rfl hclose
    exact (gives_eatMark (hequals _)).bind hread
  have hparameters : Gives (Alone e ([' '] ++ (['='] ++ ' ' :: (type.chars ++ [';']))))
      (typeParameters? g true false) []
      (Alone e ([' '] ++ (['='] ++ ' ' :: (type.chars ++ [';'])))) :=
    (gives_isMark_alone (hequals _) "<").bind (gives_pure [])
  refine (gives_anyName_alone (front_aliasName hname) rfl).bind ?_
  refine hparameters.bind ?_
  refine htype.bind fun node hnode => ?_
  refine (gives_expectEnd hend).bind (takes_pure ?_)
  rw [hnode]

/-- An alias at the start of a module is read when its type is. -/
theorem gives_moduleItem (hname : isWordText name.toList = true)
    (reads : ReadsType g.type closing type) :
    Gives (Begun e (.word "type") (aliasChars name type)) (moduleItemRule g)
      (.declaration (.typeAlias name [] type)) (At e []) := by
  have hisWord (text : String) : Gives (Begun e (.word "type") (aliasChars name type)) (isWord text)
      (decide (Token.word "type" = .word text)) (Begun e (.word "type") (aliasChars name type)) :=
    gives_current_begun.bind (takes_pure (by simp))
  have halias {e : Setting} : Gives (Begun e (.word "type") (aliasChars name type))
      (do
        if ← declaresNext then
          advance
          let _ ← current
          return some (Item.declaration (← aliasTail g))
        else return none)
      (some (.declaration (.typeAlias name [] type))) (At e []) := by
    refine (gives_declaresNext (front_aliasName hname) rfl).bind ?_
    refine gives_take_begun.bind ?_
    refine Gives.look ((gives_current (front_aliasName hname)).weaken fun _ h => h.1) ?_
    exact (gives_aliasTail hname reads).bind (gives_pure _)
  have hinner : Gives (Begun e (.word "type") (aliasChars name type)) (innerStatement g true true)
      (.declaration (.typeAlias name [] type)) (At e []) := by
    refine takes_within_begun ({ · with colonDue := false }) rfl ?_
    generalize e.changed ({ · with colonDue := false }) = e'
    refine takes_here_begun.bind fun start _ => ?_
    refine (gives_required_begun rfl).bind ?_
    exact halias.bind (gives_pure _)
  refine (hisWord "import").bind ?_
  refine (hisWord "export").bind ?_
  exact hinner

end Alias

section Start

variable {name : String} {type : TypeExpr} {g : Grammar} {firstByte : Nat}

/-- The text of a module that holds an alias. -/
def moduleChars (name : String) (type : TypeExpr) : List Char :=
  "type".toList ++ aliasChars name type

/-- What stays the same while a source text is read as a module. -/
def moduleSetting (source : List Char) : Setting := ⟨source, {}, source.length + 2⟩

/-- A state in which nothing of a source text was read. -/
structure Untouched (cs : List Char) (s : State) : Prop where
  source : s.source = cs
  mode : s.mode = {}
  budget : s.budget = cs.length + 2
  cursor : s.cursor = ⟨cs, 0, none⟩
  noRegex : s.regexAt = none
  noBracket : s.brackets = []
  notStarted : s.started = false
  unreported : s.reported = none
  current : s.current = none
  ahead : s.ahead = none
  previous : s.previous = ⟨0, 0⟩

theorem untouched_initial (name : String) (type : TypeExpr) (firstByte : Nat) :
    Untouched (moduleChars name type) (State.initial (moduleChars name type) firstByte) :=
  ⟨rfl, rfl, rfl, rfl, rfl, rfl, rfl, rfl, rfl, rfl, rfl⟩

/-- The word of an alias is the first token of a module, on a fresh line. -/
theorem Untouched.readToken {s : State} (hs : Untouched (moduleChars name type) s) :
    readToken s s.cursor =
      .ok (some ⟨.word "type", ⟨0, 4⟩, true⟩) ⟨aliasChars name type, 4, none⟩ := by
  have ends : ∀ d ∈ (aliasChars name type).head?, Text.isNamePart d = false ∧ d ≠ '\\' := by
    rintro d ⟨⟩
    decide
  have hopens : ∃ c more, "type".toList = c :: more ∧ opensToken c = true :=
    ⟨'t', _, rfl, by decide⟩
  have hgap : skipGap .blank 0 false ([] ++ ("type".toList ++ aliasChars name type)) =
      ⟨"type".toList ++ aliasChars name type, 0 + ([] : List Char).length, false, none⟩ :=
    skipGap_opening (by decide) 0 false _
  have hstray : Scan.strayLine? s.mode.inType (false || !s.started)
      ("type".toList ++ aliasChars name type) = none := by
    rw [hs.mode, hs.notStarted]
    rfl
  have hword : isWordText "type".toList = true := by decide
  have hread := run_readToken rfl hs.noRegex (by rw [hs.noBracket]; exact List.not_mem_nil)
    (by rw [hs.budget]; exact Nat.succ_pos _) hopens hgap hstray fun offset =>
      run_plainToken_word hword ends offset
  rw [hs.notStarted] at hread
  rw [hs.cursor]
  exact hread

/-- Looking at the first token. -/
theorem takes_lexeme_untouched : Takes (Untouched (moduleChars name type)) currentLexeme
    (∃ span fresh, · = some ⟨.word "type", span, fresh⟩)
    (Begun (moduleSetting (moduleChars name type)) (.word "type") (aliasChars name type)) := by
  intro s hs
  have hreported : (if s.mode.quiet = true then s.reported else s.reported <|> none) =
      s.reported := by
    cases s.reported <;> simp
  have hscan : scan (Parse.readToken s) s = .ok (some ⟨.word "type", ⟨0, 4⟩, true⟩)
      { s with cursor := ⟨aliasChars name type, 4, none⟩ } := by
    simp only [scan, hs.readToken, hreported]
  simp only [currentLexeme, read, bind, EStateM.bind, run_get, hs.current, hs.ahead, hscan,
    run_modify, pure, EStateM.pure]
  refine ⟨_, _, rfl, ⟨_, _, rfl⟩, _, _, rfl, ?_⟩
  refine ⟨⟨?_, hs.noRegex, ?_, rfl, ?_⟩, hs.source, hs.mode, hs.budget, hs.unreported,
    "type".toList, rfl, rfl, ?_⟩
  · exact congrArg Mode.inType hs.mode
  · rw [hs.noBracket]
    exact List.not_mem_nil
  · rw [hs.source, hs.budget]
    omega
  · exact .nil

theorem gives_current_untouched : Gives (Untouched (moduleChars name type)) current
    (some (.word "type"))
    (Begun (moduleSetting (moduleChars name type)) (.word "type") (aliasChars name type)) := by
  refine takes_lexeme_untouched.bind ?_
  rintro _ ⟨span, fresh, rfl⟩
  exact gives_pure _

theorem gives_atEof_untouched : Gives (Untouched (moduleChars name type)) atEof false
    (Begun (moduleSetting (moduleChars name type)) (.word "type") (aliasChars name type)) := by
  have hbroken : Gives (Untouched (moduleChars name type)) broken? none
      (Begun (moduleSetting (moduleChars name type)) (.word "type") (aliasChars name type)) :=
    gives_current_untouched.bind (gives_pure none)
  have hreadable : Gives (Untouched (moduleChars name type)) readable (some (.word "type"))
      (Begun (moduleSetting (moduleChars name type)) (.word "type") (aliasChars name type)) :=
    hbroken.bind gives_current_begun
  exact hreadable.bind (gives_pure false)

/-- A module that holds an alias is read when the type of the alias is. -/
theorem gives_moduleItems (hname : isWordText name.toList = true) (depth : Nat)
    (reads : ReadsType (Grammar.upTo depth).type closing type) :
    Gives (Untouched (moduleChars name type)) (moduleItems (Grammar.upTo (depth + 1)))
      [.declaration (.typeAlias name [] type)] (At (moduleSetting (moduleChars name type)) []) := by
  have hitem : Gives (Begun (moduleSetting (moduleChars name type)) (.word "type")
      (aliasChars name type)) (Grammar.upTo (depth + 1)).moduleItem
      (.declaration (.typeAlias name [] type)) (At (moduleSetting (moduleChars name type)) []) :=
    gives_moduleItem hname reads
  have hfirst : Gives (Untouched (moduleChars name type))
      (do if ← atEof then return none else return some (← (Grammar.upTo (depth + 1)).moduleItem))
      (some (.declaration (.typeAlias name [] type)))
      (At (moduleSetting (moduleChars name type)) []) :=
    gives_atEof_untouched.bind (hitem.bind (gives_pure _))
  have hsecond : Gives (At (moduleSetting (moduleChars name type)) [])
      (do if ← atEof then return none else return some (← (Grammar.upTo (depth + 1)).moduleItem))
      none (At (moduleSetting (moduleChars name type)) []) :=
    gives_atEof_end.bind (gives_pure none)
  have hend (budget : Nat) : Gives (At (moduleSetting (moduleChars name type)) [])
      (gatherFor (budget + 1)
        (do if ← atEof then return none else return some (← (Grammar.upTo (depth + 1)).moduleItem)))
      [] (At (moduleSetting (moduleChars name type)) []) := by
    refine hsecond.bind ?_
    exact gives_pure []
  intro s hs
  have hall : Gives (Untouched (moduleChars name type)) (gatherFor s.budget
      (do if ← atEof then return none else return some (← (Grammar.upTo (depth + 1)).moduleItem)))
      [.declaration (.typeAlias name [] type)] (At (moduleSetting (moduleChars name type)) []) := by
    rw [hs.budget]
    refine hfirst.bind ?_
    exact (hend _).bind (gives_pure _)
  exact hall s hs

end Start

end SchemaGuards.Syntax.Parse

namespace SchemaGuards.Syntax

open Parse

/-- The statements that are read without a report are the declarations of a source text. -/
theorem parseModuleFrom_ok {firstByte : Nat} {source : String} {items : List Item} {s : State}
    (hrun : moduleItems (Grammar.upTo (depthFor (withoutMark source).length))
      (State.initial (withoutMark source) firstByte) = .ok items s)
      (hreported : s.reported = none) :
    parseModuleFrom firstByte source = .ok (items.map (·.located (withoutMark source))) := by
  unfold parseModuleFrom
  simp only [hrun, hreported]

theorem parseModule_of_reads {source name : String} {type : TypeExpr} {depth : Nat}
    (hsource : withoutMark source = moduleChars name type) (hname : isWordText name.toList = true)
    (hdepth : depthFor (moduleChars name type).length = depth + 1)
    (reads : ReadsType (Grammar.upTo depth).type closing type) :
    parseModule source = .ok [.typeAlias name [] type] := by
  have hitems := gives_moduleItems hname depth reads
  obtain ⟨items, s, hrun, rfl, hs⟩ := hitems _ (untouched_initial name type 1)
  rw [← hdepth, ← hsource] at hrun
  exact parseModuleFrom_ok hrun hs.unreported

/-- A legible type is read back from an alias of it, as it was written. -/
theorem parseModule_typeAlias {type : TypeExpr} (legible : type.Legible) :
    parseModule ("type X = " ++ type.text ++ ";") = .ok [.typeAlias "X" [] type] := by
  have hsource : withoutMark ("type X = " ++ type.text ++ ";") = moduleChars "X" type := by
    have hchars : ("type X = " ++ type.text ++ ";").toList = moduleChars "X" type := by
      simp [moduleChars, aliasChars, TypeExpr.text]
    rw [withoutMark, hchars]
    rfl
  have hlength : (moduleChars "X" type).length = type.chars.length + 10 := by
    simp [moduleChars, aliasChars]
  have hdepth : depthFor (moduleChars "X" type).length = 8 * type.chars.length + 111 + 1 := by
    rw [hlength, depthFor]
    omega
  exact parseModule_of_reads hsource (by decide) hdepth (readsType_of_legible _ legible (by omega))

end SchemaGuards.Syntax
