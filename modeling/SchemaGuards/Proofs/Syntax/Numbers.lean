import SchemaGuards.Proofs.Syntax.Tokens
import Mathlib.Tactic.SplitIfs

/-!
# Numbers at the front of a text

A text that is read as one number on its own is read as that number in every place, as long as
no more of a number or of a word stands behind it. The gap before it may hold comments and line
breaks.

## Implementation notes

The reading of a text is compared with that of the text with more behind it, action by action.
-/

namespace SchemaGuards.Syntax.Parse

variable {α β : Type} {rest cs : List Char} {p q : Scan α} {f g : α → Scan β}

/-- What one action gives on a text another one gives on the text with more behind it, and leaves
that too. -/
def RunsOn (rest cs : List Char) (p q : Scan α) : Prop :=
  ∀ offset noted a now, p.run ⟨cs, offset, noted⟩ = .ok a now →
    q.run ⟨cs ++ rest, offset, noted⟩ = .ok a { now with rest := now.rest ++ rest }

theorem RunsOn.bind (hp : RunsOn rest cs p q) (hf : ∀ a cs, RunsOn rest cs (f a) (g a)) :
    RunsOn rest cs (p >>= f) (q >>= g) := by
  intro offset noted b now h
  rw [Scan.run_bind] at h ⊢
  cases hrun : p.run ⟨cs, offset, noted⟩ with
  | ok a now' =>
      rw [hrun] at h
      rw [hp _ _ _ _ hrun]
      exact hf a now'.rest _ _ _ _ h
  | error fault now' =>
      rw [hrun] at h
      cases h

theorem runsOn_pure (a : α) : RunsOn rest cs (pure a) (pure a) := by
  rintro offset noted _ _ ⟨⟩
  rfl

theorem runsOn_stop (cause : Cause) (offset : Nat) : RunsOn rest cs (Scan.stop cause offset) q := by
  rintro _ _ _ _ ⟨⟩

theorem runsOn_note (cause : Cause) (offset : Nat) {f g : Unit → Scan β}
    (h : RunsOn rest cs (f ()) (g ())) :
    RunsOn rest cs (Scan.note cause offset >>= f) (Scan.note cause offset >>= g) :=
  fun _ _ b now hrun => h _ _ b now hrun

theorem runsOn_place : RunsOn rest cs Scan.place Scan.place := by
  rintro _ _ _ _ ⟨⟩
  rfl

theorem runsOn_since (before : List Char) :
    RunsOn rest cs (Scan.since before) (Scan.since (before ++ rest)) := by
  rintro offset noted _ _ ⟨⟩
  have htake : (before ++ rest).take ((before ++ rest).length - (cs ++ rest).length) =
      before.take (before.length - cs.length) := by
    rw [List.length_append, List.length_append, Nat.add_sub_add_right,
      List.take_append_of_le_length (Nat.sub_le _ _)]
  change EStateM.Result.ok (String.ofList (List.take _ _)) _ = _
  rw [htake]

theorem runsOn_skip {count : Nat} (h : count ≤ cs.length) :
    RunsOn rest cs (Scan.skip count) (Scan.skip count) := by
  rintro offset noted _ _ ⟨⟩
  rw [Scan.run_skip, List.drop_append_of_le_length h]

theorem runsOn_following {f g : List Char → Scan β} (h : RunsOn rest cs (f cs) (g (cs ++ rest))) :
    RunsOn rest cs (Scan.following >>= f) (Scan.following >>= g) := by
  intro offset noted b now hrun
  rw [Scan.run_bind, Scan.run_following] at hrun ⊢
  exact h _ _ _ _ hrun

/-- No more of a number or of a word stands at the front of a text. -/
def EndsNumber (rest : List Char) : Prop :=
  ∀ d ∈ rest.head?, Text.isNamePart d = false ∧ d ≠ '.'

/-- The next character is another one only at the end of the text. -/
theorem runsOn_peek (ends : EndsNumber rest) {f g : Option Char → Scan β}
    (hsome : ∀ c more, cs = c :: more → RunsOn rest cs (f (some c)) (g (some c)))
    (hnone : cs = [] → ∀ d, (∀ c, d = some c → Text.isNamePart c = false ∧ c ≠ '.') →
      RunsOn rest [] (f none) (g d)) :
    RunsOn rest cs (Scan.peek >>= f) (Scan.peek >>= g) := by
  intro offset noted b now h
  rw [Scan.run_bind, Scan.run_peek] at h ⊢
  cases cs with
  | nil => exact hnone rfl rest.head? (fun c hc => ends c hc) _ _ _ _ h
  | cons c more => exact hsome c more rfl _ _ _ _ h

theorem isNamePart_of_isDigitOf {base : Nat} {c : Char} (hc : Decimal.isDigitOf base c = true) :
    Text.isNamePart c = true := by
  have hascii : ∀ n < 0x80, (Decimal.digitValue? (Char.ofNat n)).isSome = true →
      Text.isNamePart (Char.ofNat n) = true := by
    decide +kernel
  have hsome : (Decimal.digitValue? c).isSome = true := by
    unfold Decimal.isDigitOf at hc
    cases h : Decimal.digitValue? c with
    | none =>
        rw [h] at hc
        cases hc
    | some d => rfl
  have hsmall : c.toNat < 0x80 := by
    unfold Decimal.digitValue? at hsome
    split_ifs at hsome with hdigit hlower hupper
    all_goals
      simp only [Bool.and_eq_true, decide_eq_true_eq, Char.le_def, UInt32.le_iff_toNat_le] at *
    · exact Nat.lt_of_le_of_lt hdigit.2 (by decide)
    · exact Nat.lt_of_le_of_lt hlower.2 (by decide)
    · exact Nat.lt_of_le_of_lt hupper.2 (by decide)
    · cases hsome
  have := hascii c.toNat hsmall
  rw [Char.ofNat_toNat] at this
  exact this hsome

/-- The digits of base ten are the decimal ones. -/
theorem decimal_of_isDigitOf {c : Char} (hc : Decimal.isDigitOf 10 c = true) :
    ('0' ≤ c && c ≤ '9') = true := by
  unfold Decimal.isDigitOf Decimal.digitValue? at hc
  split_ifs at hc with hdigit
  · exact hdigit
  · simp only [decide_eq_true_eq] at hc
    omega
  · simp only [decide_eq_true_eq] at hc
    omega

theorem EndsNumber.isDigitOf (ends : EndsNumber rest) (base : Nat) :
    rest.head?.any (Decimal.isDigitOf base) = false := by
  cases rest with
  | nil => rfl
  | cons d rest =>
      refine Bool.eq_false_iff.mpr fun hd => ?_
      have := isNamePart_of_isDigitOf hd
      rw [(ends d rfl).1] at this
      cases this

/-- A run of digits ends where the text does. -/
theorem digitRun_append (ends : EndsNumber rest) (base : Nat) (started : Bool) (cs : List Char) :
    Scan.digitRun base started (cs ++ rest) = Scan.digitRun base started cs ∧
      (Scan.digitRun base started cs).1 ≤ cs.length := by
  induction cs generalizing started with
  | nil =>
      refine ⟨?_, Nat.le_refl 0⟩
      cases rest with
      | nil => rfl
      | cons d rest =>
          have hline : ¬ d = '_' := by
            rintro rfl
            exact absurd (ends '_' rfl).1 (by decide)
          have hdigit : Decimal.isDigitOf base d = false := ends.isDigitOf base
          simp [Scan.digitRun, hline, hdigit]
  | cons c cs ih =>
      have hhead : (cs ++ rest).head?.any (Decimal.isDigitOf base) =
          cs.head?.any (Decimal.isDigitOf base) := by
        cases cs with
        | nil => exact ends.isDigitOf base
        | cons d cs => rfl
      obtain ⟨heq, hle⟩ := ih started
      obtain ⟨heq', hle'⟩ := ih true
      simp only [List.cons_append, Scan.digitRun, heq, heq', hhead, List.length_cons, true_and]
      split_ifs
      · exact Nat.succ_le_succ hle
      · exact Nat.succ_le_succ hle'
      · exact Nat.zero_le _

theorem runsOn_digits (ends : EndsNumber rest) (base : Nat) :
    RunsOn rest cs (Scan.digits base) (Scan.digits base) := by
  refine runsOn_place.bind fun start cs => runsOn_following ?_
  obtain ⟨heq, hle⟩ := digitRun_append ends base false cs
  have htake : RunsOn rest cs
      (do let text ← Scan.following
          Scan.skip (Scan.digitRun base false cs).1
          return text.take (Scan.digitRun base false cs).1)
      (do let text ← Scan.following
          Scan.skip (Scan.digitRun base false cs).1
          return text.take (Scan.digitRun base false cs).1) := by
    refine runsOn_following ((runsOn_skip hle).bind fun _ _ => ?_)
    rw [List.take_append_of_le_length hle]
    exact runsOn_pure _
  rw [heq]
  generalize Scan.digitRun base false cs = run at hle htake
  obtain ⟨length, misplaced⟩ := run
  cases misplaced with
  | true => exact runsOn_note _ _ htake
  | false => exact htake

theorem runsOn_someDigits (ends : EndsNumber rest) (base : Nat) :
    RunsOn rest cs (Scan.someDigits base) (Scan.someDigits base) := by
  refine runsOn_place.bind fun start cs => (runsOn_digits ends base).bind fun digits cs => ?_
  split
  · exact runsOn_stop _ _
  · exact runsOn_pure digits

theorem runsOn_eat (ends : EndsNumber rest) {c : Char}
    (hc : Text.isNamePart c = true ∨ c = '.') : RunsOn rest cs (Scan.eat c) (Scan.eat c) := by
  refine runsOn_peek ends (fun d more hcs => ?_) fun hcs d hd => ?_
  · subst hcs
    split
    · exact (runsOn_skip (Nat.succ_le_succ (Nat.zero_le _))).bind fun _ _ => runsOn_pure true
    · exact runsOn_pure false
  · have hother : ¬ d = some c := by
      intro h
      obtain ⟨hname, hpoint⟩ := hd c h
      obtain hc | rfl := hc
      · rw [hname] at hc
        cases hc
      · exact hpoint rfl
    rw [if_neg (by simp), if_neg hother]
    exact runsOn_pure false

theorem runsOn_endOfNumber (ends : EndsNumber rest) :
    RunsOn rest cs Scan.endOfNumber Scan.endOfNumber := by
  refine runsOn_peek ends (fun c more hcs => ?_) fun hcs d hd => ?_
  · by_cases hc : Text.isNameStart c = true
    · simp only [hc, if_true]
      exact runsOn_place.bind fun offset _ => runsOn_stop _ offset
    · simp only [hc]
      exact runsOn_pure ()
  · cases d with
    | none => exact runsOn_pure ()
    | some d =>
        have hstart : Text.isNameStart d = false := Bool.eq_false_iff.mpr fun h => by
          have := Text.isNamePart_of_isNameStart h
          rw [(hd d rfl).1] at this
          cases this
        simp only [hstart]
        exact runsOn_pure ()

/-- The end of a decimal literal. -/
def numberEnd (before : List Char) : Scan Token := do
  Scan.endOfNumber
  return .number (← Scan.since before)

/-- The digits of an exponent and the end of its literal. -/
def exponentEnd (before : List Char) : Scan Token := do
  let _ ← Scan.someDigits 10
  numberEnd before

/-- A decimal literal from after the mark of its exponent. -/
def signedExponentEnd (before : List Char) : Scan Token := do
  match ← Scan.peek with
  | none => Scan.stop .exponentExpected (← Scan.place)
  | some c => if c = '+' || c = '-' then Scan.skip 1
  exponentEnd before

/-- A decimal literal from after its fraction. -/
def fractionEnd (before : List Char) : Scan Token := do
  let mark ← Scan.peek
  if mark = some 'e' || mark = some 'E' then
    Scan.skip 1
    signedExponentEnd before
  else numberEnd before

theorem runsOn_numberEnd (ends : EndsNumber rest) (before : List Char) :
    RunsOn rest cs (numberEnd before) (numberEnd (before ++ rest)) :=
  (runsOn_endOfNumber ends).bind fun _ _ =>
    (runsOn_since before).bind fun text _ => runsOn_pure (Token.number text)

theorem runsOn_exponentEnd (ends : EndsNumber rest) (before : List Char) :
    RunsOn rest cs (exponentEnd before) (exponentEnd (before ++ rest)) :=
  (runsOn_someDigits ends 10).bind fun _ _ => runsOn_numberEnd ends before

theorem runsOn_signedExponentEnd (ends : EndsNumber rest) (before : List Char) :
    RunsOn rest cs (signedExponentEnd before) (signedExponentEnd (before ++ rest)) := by
  refine runsOn_peek ends (fun c more hcs => ?_) fun hcs d hd => ?_
  · subst hcs
    dsimp only
    split
    · exact (runsOn_skip (Nat.succ_le_succ (Nat.zero_le _))).bind fun _ _ =>
        runsOn_exponentEnd ends before
    · exact runsOn_exponentEnd ends before
  · -- An exponent without digits is a fault, so the text cannot end here.
    intro offset noted a now h
    cases h

theorem runsOn_fractionEnd (ends : EndsNumber rest) (before : List Char) :
    RunsOn rest cs (fractionEnd before) (fractionEnd (before ++ rest)) := by
  refine runsOn_peek ends (fun c more hcs => ?_) fun hcs d hd => ?_
  · subst hcs
    split
    · exact (runsOn_skip (Nat.succ_le_succ (Nat.zero_le _))).bind fun _ _ =>
        runsOn_signedExponentEnd ends before
    · exact runsOn_numberEnd ends before
  · have hother : ∀ c, Text.isNamePart c = true → ¬ d = some c := by
      intro c hc h
      rw [(hd c h).1] at hc
      cases hc
    have hnone : ¬ ((none : Option Char) = some 'e' || (none : Option Char) = some 'E') = true := by
      decide
    have hsome : ¬ (d = some 'e' || d = some 'E') = true := by
      simp [hother 'e' (by decide), hother 'E' (by decide)]
    rw [if_neg hnone, if_neg hsome]
    exact runsOn_numberEnd ends before

theorem runsOn_fractionAndExponent (ends : EndsNumber rest) (before : List Char) :
    RunsOn rest cs (Scan.fractionAndExponent before)
      (Scan.fractionAndExponent (before ++ rest)) := by
  refine (runsOn_eat ends (.inr rfl)).bind fun point cs => ?_
  cases point with
  | true => exact (runsOn_digits ends 10).bind fun _ cs => runsOn_fractionEnd ends before
  | false => exact runsOn_fractionEnd ends before

theorem runsOn_legacyOctal (ends : EndsNumber rest) (start : Nat) (before : List Char) :
    RunsOn rest cs (Scan.legacyOctal start before) (Scan.legacyOctal start (before ++ rest)) :=
  (runsOn_endOfNumber ends).bind fun _ _ => runsOn_note _ _
    ((runsOn_since before).bind fun text _ => runsOn_pure (Token.number text))

theorem runsOn_radixNumber (ends : EndsNumber rest) (base : Nat) (before : List Char)
    (h : 2 ≤ cs.length) :
    RunsOn rest cs (Scan.radixNumber base before) (Scan.radixNumber base (before ++ rest)) := by
  refine (runsOn_skip h).bind fun _ _ => (runsOn_someDigits ends base).bind fun _ _ => ?_
  refine (runsOn_eat ends (.inl (by decide))).bind fun isBig _ => ?_
  cases isBig with
  | true => exact (runsOn_since before).bind fun text _ => runsOn_pure (Token.bigint text)
  | false =>
      exact (runsOn_endOfNumber ends).bind fun _ _ =>
        (runsOn_since before).bind fun text _ => runsOn_pure (Token.number text)

theorem runsOn_wholeNumber (ends : EndsNumber rest) :
    RunsOn rest cs Scan.wholeNumber Scan.wholeNumber := by
  refine runsOn_place.bind fun start cs => runsOn_following ?_
  refine (runsOn_someDigits ends 10).bind fun whole _ => ?_
  refine (runsOn_eat ends (.inl (by decide))).bind fun isBig _ => ?_
  cases isBig with
  | true => exact (runsOn_since cs).bind fun text _ => runsOn_pure (Token.bigint text)
  | false =>
      simp only [Bool.false_eq_true, if_false]
      split_ifs with hlong hzeros height
      · exact runsOn_legacyOctal ends start cs
      · exact runsOn_note _ _ (runsOn_fractionAndExponent ends cs)
      · exact runsOn_legacyOctal ends start cs
      · exact runsOn_fractionAndExponent ends cs

/-- A number is read wherever no more of one stands behind it. -/
theorem runsOn_number (ends : EndsNumber rest) (hcs : cs ≠ []) :
    RunsOn rest cs Scan.number Scan.number := by
  refine runsOn_following ?_
  obtain ⟨c, more, rfl⟩ := List.exists_cons_of_ne_nil hcs
  by_cases hpoint : c = '.'
  · subst hpoint
    exact runsOn_fractionAndExponent ends _
  by_cases hzero : c = '0'
  · subst hzero
    cases more with
    | nil =>
        cases rest with
        | nil => exact runsOn_wholeNumber ends
        | cons d rest =>
            have hother : ∀ c, Text.isNamePart c = true → ¬ d = c := by
              rintro c hc rfl
              rw [(ends d rfl).1] at hc
              cases hc
            simp only [List.cons_append, List.nil_append, hother 'x' (by decide),
              hother 'X' (by decide), hother 'o' (by decide), hother 'O' (by decide),
              hother 'b' (by decide), hother 'B' (by decide), decide_false, Bool.or_self,
              Bool.false_eq_true, if_false]
            exact runsOn_wholeNumber ends
    | cons radix more =>
        have hlength : 2 ≤ ('0' :: radix :: more).length :=
          Nat.succ_le_succ (Nat.succ_le_succ (Nat.zero_le _))
        simp only [List.cons_append]
        split_ifs
        · exact runsOn_radixNumber ends 16 ('0' :: radix :: more) hlength
        · exact runsOn_radixNumber ends 8 ('0' :: radix :: more) hlength
        · exact runsOn_radixNumber ends 2 ('0' :: radix :: more) hlength
        · exact runsOn_wholeNumber ends
  · have hwhole : RunsOn rest (c :: more) Scan.wholeNumber Scan.wholeNumber :=
      runsOn_wholeNumber ends
    split
    · next h => exact absurd (List.cons.inj h).1 hpoint
    · next h => exact absurd (List.cons.inj h).1 hzero
    · split
      · next h => exact absurd (List.cons.inj h).1 hpoint
      · next h => exact absurd (List.cons.inj h).1 hzero
      · exact hwhole

/-- A text that is read as one number, wherever it stands. -/
structure IsNumber (cs : List Char) : Prop where
  opens : ∃ c more, cs = c :: more ∧
    (('0' ≤ c && c ≤ '9') || c = '.' && more.head?.any (Decimal.isDigitOf 10)) = true
  reads : ∀ offset, Scan.number.run ⟨cs, offset, none⟩ =
    .ok (.number (String.ofList cs)) ⟨[], offset + cs.length, none⟩

/-- A gap before a text, with a line break in it or not. -/
def IsGap (fresh : Bool) (gap cs : List Char) : Prop :=
  ∀ offset, skipGap .blank offset false (gap ++ cs) = ⟨cs, offset + gap.length, fresh, none⟩

/-- A gap before a token is not changed by what stands behind the token. -/
theorem skipGap_append (part : Gap) (offset : Nat) (fresh : Bool) (text : List Char) {c : Char}
    {more : List Char} {offset' : Nat} {fresh' : Bool} (hc : c ≠ '/')
    (h : skipGap part offset fresh text = ⟨c :: more, offset', fresh', none⟩) (rest : List Char) :
    skipGap part offset fresh (text ++ rest) = ⟨c :: (more ++ rest), offset', fresh', none⟩ := by
  fun_induction skipGap part offset fresh text with
  | case1 offset fresh text ih => exact ih h
  | case2 offset fresh text ih => exact ih h
  | case3 offset fresh d text hline hblock hbreak ih =>
      have hslash : d ≠ '/' := by
        rintro rfl
        exact absurd hbreak (by decide)
      rw [List.cons_append, skipGap.eq_3 _ _ _ _ (fun _ h => absurd h hslash)
        (fun _ h => absurd h hslash), if_pos hbreak]
      exact ih h
  | case4 offset fresh d text hline hblock hbreak hspace ih =>
      have hslash : d ≠ '/' := by
        rintro rfl
        exact absurd hspace (by decide)
      rw [List.cons_append, skipGap.eq_3 _ _ _ _ (fun _ h => absurd h hslash)
        (fun _ h => absurd h hslash), if_neg hbreak, if_pos hspace]
      exact ih h
  | case5 offset fresh d text hline hblock hbreak hspace =>
      simp only [AfterGap.mk.injEq, List.cons.injEq] at h
      obtain ⟨⟨rfl, rfl⟩, rfl, rfl, -⟩ := h
      rw [List.cons_append, skipGap.eq_3 _ _ _ _ (fun _ h => absurd h hc)
        (fun _ h => absurd h hc), if_neg hbreak, if_neg hspace]
  | case6 offset fresh d text hbreak ih =>
      rw [List.cons_append, skipGap, if_pos hbreak]
      exact ih h
  | case7 offset fresh d text hbreak ih =>
      rw [List.cons_append, skipGap, if_neg hbreak]
      exact ih h
  | case8 start offset fresh text ih => exact ih h
  | case9 start offset fresh d text hstar ih =>
      have hstar' : ∀ more, d = '*' → text ++ rest = '/' :: more → False := by
        intro more hd htext
        cases text with
        | nil => cases h
        | cons d' text => exact hstar text hd (by rw [(List.cons.inj htext).1])
      rw [List.cons_append, skipGap.eq_6 _ _ _ _ _ hstar']
      exact ih h
  | case10 start offset fresh => cases h
  | case11 part offset fresh hpart => cases h

/-- A character that opens a number opens no other token. -/
theorem opensToken_of_number {c : Char} (hc : (('0' ≤ c && c ≤ '9') || c = '.') = true) :
    opensToken c = true ∧ Text.isNameStart c = false ∧
      c ∉ ['\\', '"', '\'', '<', '>', '-', '=', '|'] := by
  have hascii : ∀ n < 0x80,
      (('0' ≤ Char.ofNat n && Char.ofNat n ≤ '9') || Char.ofNat n = '.') = true →
      opensToken (Char.ofNat n) = true ∧ Text.isNameStart (Char.ofNat n) = false ∧
        Char.ofNat n ∉ ['\\', '"', '\'', '<', '>', '-', '=', '|'] := by
    decide +kernel
  have hsmall : c.toNat < 0x80 := by
    simp only [Bool.or_eq_true, Bool.and_eq_true, decide_eq_true_eq] at hc
    obtain ⟨-, hnine⟩ | rfl := hc
    · rw [Char.le_def, UInt32.le_iff_toNat_le] at hnine
      exact Nat.lt_of_le_of_lt hnine (by decide)
    · decide
  have := hascii c.toNat hsmall
  rw [Char.ofNat_toNat] at this
  exact this hc

theorem IsNumber.exists_head (h : IsNumber cs) : ∃ c more, cs = c :: more ∧ opensToken c = true ∧
    Text.isNameStart c = false ∧ c ∉ ['\\', '"', '\'', '<', '>', '-', '=', '|'] := by
  obtain ⟨c, more, rfl, hc⟩ := h.opens
  refine ⟨c, more, rfl, opensToken_of_number ?_⟩
  simp only [Bool.or_eq_true, Bool.and_eq_true, decide_eq_true_eq] at hc ⊢
  exact hc.imp_right And.left

/-- A number starts a text behind a gap of any kind. -/
theorem starts_number {typed fresh : Bool} {gap : List Char} (hcs : IsNumber cs)
    (hgap : IsGap fresh gap cs) (ends : EndsNumber rest) :
    Starts typed gap cs (.number (String.ofList cs)) fresh rest := by
  obtain ⟨c, more, rfl, hopens, hname, hother⟩ := hcs.exists_head
  have hc : (('0' ≤ c && c ≤ '9') || c = '.' && more.head?.any (Decimal.isDigitOf 10)) = true := by
    obtain ⟨_, _, heq, hc⟩ := hcs.opens
    obtain ⟨rfl, rfl⟩ := List.cons.inj heq
    exact hc
  have hne : ∀ d ∈ ['\\', '"', '\'', '<', '>', '-', '=', '|'], ¬ c = d := by
    rintro d hd rfl
    exact hother hd
  refine starts_of_plainToken rfl ⟨c, more, rfl, hopens⟩ (fun offset => ?_) ?_ (fun offset => ?_)
  · have hslash : c ≠ '/' := by
      rintro rfl
      exact absurd hopens (by decide)
    rw [← List.append_assoc]
    exact skipGap_append .blank offset false _ hslash (hgap offset) rest
  · have hbeq : ∀ d ∈ ['<', '>', '-', '=', '|'], (d == c) = false := by
      intro d hd
      apply beq_false_of_ne
      exact Ne.symm (hne d (List.mem_append_right ['\\', '"', '\''] hd))
    simp [Scan.strayLine?, List.isPrefixOf_cons_cons, hbeq]
  · have hnumber : Scan.plainToken typed (c :: (more ++ rest)) = Scan.number := by
      have hword : ¬ (Text.isNameStart c || decide (c = '\\')) = true := by
        simp [hname, hne '\\' (by decide)]
      have hquote : ¬ (decide (c = '"') || decide (c = '\'')) = true := by
        simp [hne '"' (by decide), hne '\'' (by decide)]
      have hpoint : (more ++ rest).head?.any (Decimal.isDigitOf 10) =
          more.head?.any (Decimal.isDigitOf 10) := by
        cases more with
        | nil => exact ends.isDigitOf 10
        | cons d more => rfl
      rw [Scan.plainToken, if_neg hword, if_neg hquote, hpoint]
      by_cases hdigit : ('0' ≤ c && c ≤ '9') = true
      · rw [if_pos hdigit]
      · rw [if_neg hdigit, if_pos ((Bool.or_eq_true _ _ ▸ hc).resolve_left hdigit)]
    have hreads := runsOn_number ends (List.cons_ne_nil c more) offset none _ _ (hcs.reads offset)
    rw [List.cons_append] at hreads ⊢
    rw [hnumber, hreads]
    rfl

end SchemaGuards.Syntax.Parse
