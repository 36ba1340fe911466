import SchemaGuards.Proofs.Syntax.Stream
import Mathlib.Data.List.Basic

/-!
# Tokens at the front of a text

Words and marks are read off the front of a text as they are written, with the gap before them,
when what stands behind them does not run on.
-/

namespace SchemaGuards.Syntax

namespace Scan

variable {α β : Type}

theorem run_bind (x : Scan α) (f : α → Scan β) (c : Cursor) :
    (x >>= f).run c = match x.run c with
      | .ok a c => (f a).run c
      | .error fault c => .error fault c := by
  change EStateM.bind x f c = _
  rw [EStateM.bind, EStateM.run]
  cases x c <;> rfl

theorem run_pure (a : α) (c : Cursor) : (pure a : Scan α).run c = .ok a c := rfl

theorem run_place (c : Cursor) : place.run c = .ok c.offset c := rfl

theorem run_following (c : Cursor) : following.run c = .ok c.rest c := rfl

theorem run_peek (c : Cursor) : peek.run c = .ok c.rest.head? c := rfl

theorem run_skip (count : Nat) (c : Cursor) : (skip count).run c =
    .ok () { c with rest := c.rest.drop count, offset := c.offset + count } := rfl

/-- What was read since an earlier place stands before what is left. -/
theorem run_since (word rest : List Char) (offset : Nat) (noted : Option Fault) :
    (since (word ++ rest)).run ⟨rest, offset, noted⟩ =
      .ok (String.ofList word) ⟨rest, offset, noted⟩ := by
  change EStateM.Result.ok (String.ofList ((word ++ rest).take _)) _ = _
  rw [List.length_append, Nat.add_sub_cancel, List.take_left]

theorem run_settled {action : Scan Token} {c c' : Cursor} {t : Token}
    (h : action.run c = .ok t c') : (settled action).run c = .ok t c' := by
  change action c = _ at h
  change EStateM.tryCatch action brokenAt c = _
  rw [EStateM.tryCatch, h]

end Scan

/-! ## Gaps -/

/-- A character that is no blank and opens no comment, so that a token starts with it. -/
def opensToken (c : Char) : Bool := !isLineBreak c && !isSpace c && c != '/' && c != '\x00'

/-- Blanks on one line, as they are written between tokens. -/
def isPad (gap : List Char) : Bool := gap.all (· = ' ')

theorem skipGap_opening {c : Char} (hc : opensToken c = true) (offset : Nat) (fresh : Bool)
    (rest : List Char) :
    skipGap .blank offset fresh (c :: rest) = ⟨c :: rest, offset, fresh, none⟩ := by
  simp only [opensToken, Bool.and_eq_true, Bool.not_eq_true', bne_iff_ne] at hc
  obtain ⟨⟨⟨hbreak, hspace⟩, hslash⟩, -⟩ := hc
  rw [skipGap.eq_3 _ _ _ _ (by grind) (by grind), hbreak, hspace]
  rfl

theorem skipGap_pad {gap : List Char} (hgap : isPad gap = true) {c : Char}
    (hc : opensToken c = true) (offset : Nat) (rest : List Char) :
    skipGap .blank offset false (gap ++ c :: rest) =
      ⟨c :: rest, offset + gap.length, false, none⟩ := by
  induction gap generalizing offset with
  | nil => exact skipGap_opening hc offset false rest
  | cons d gap ih =>
      obtain ⟨hd, hgap⟩ : d = ' ' ∧ isPad gap = true := by simpa [isPad] using hgap
      subst hd
      have hstep : skipGap .blank offset false (' ' :: (gap ++ c :: rest)) =
          skipGap .blank (offset + 1) false (gap ++ c :: rest) := rfl
      rw [List.cons_append, hstep, ih hgap, List.length_cons, Nat.add_assoc, Nat.add_comm 1]

namespace Parse

variable {typed fresh : Bool} {gap rest : List Char} {c : Char} {t : Token}

/-- A token is read behind a gap. The first token of all stands on a fresh line. -/
theorem run_readToken {s : State} {word : List Char} {offset : Nat}
    (typed_eq : s.mode.inType = typed)
    (noRegex : s.regexAt = none) (noTemplate : .template ∉ s.brackets) (budget : 0 < s.budget)
    (opens : ∃ c more, word = c :: more ∧ opensToken c = true)
    (hgap : skipGap .blank offset false (gap ++ (word ++ rest)) =
      ⟨word ++ rest, offset + gap.length, fresh, none⟩)
    (hstray : Scan.strayLine? typed (fresh || !s.started) (word ++ rest) = none)
    (htoken : ∀ offset, (Scan.plainToken typed (word ++ rest)).run ⟨word ++ rest, offset, none⟩ =
      .ok t ⟨rest, offset + word.length, none⟩) :
    readToken s ⟨gap ++ (word ++ rest), offset, none⟩ =
      .ok (some ⟨t, ⟨offset + gap.length, offset + gap.length + word.length⟩, fresh || !s.started⟩)
        ⟨rest, offset + gap.length + word.length, none⟩ := by
  obtain ⟨c, more, rfl, hc⟩ := opens
  rw [List.cons_append] at hstray htoken hgap ⊢
  have hhead : s.brackets.head? ≠ some .template :=
    fun h => noTemplate (List.mem_of_mem_head? h)
  have hnull : c ≠ '\x00' := by
    rintro rfl
    cases hc
  obtain ⟨budget, hbudget⟩ := Nat.exists_eq_add_one_of_ne_zero (Nat.ne_zero_of_lt budget)
  have hscan : (Scan.gap .blank).run ⟨gap ++ c :: (more ++ rest), offset, none⟩ =
      .ok (fresh, none) ⟨c :: (more ++ rest), offset + gap.length, none⟩ := by
    change EStateM.Result.ok
      ((skipGap .blank offset false (gap ++ c :: (more ++ rest))).fresh, _) _ = _
    rw [hgap]
    rfl
  have hread : (Scan.token typed (budget + 1) (fresh || !s.started)).run
      ⟨c :: (more ++ rest), offset + gap.length, none⟩ =
      .ok (some t, fresh || !s.started) ⟨rest, offset + gap.length + (c :: more).length, none⟩ := by
    rw [Scan.token, Scan.run_bind, Scan.run_following]
    simp only [List.isEmpty_cons, Bool.false_eq_true, if_false, hstray, Scan.run_bind,
      Scan.run_settled (htoken _), Scan.run_pure]
  change (readToken s).run _ = _
  unfold readToken
  simp only [noRegex, Scan.run_bind, Scan.run_place, hhead, if_false, hscan, Scan.run_following,
    typed_eq, hbudget]
  split
  · contradiction
  · rename_i heq
    exact absurd (List.cons.inj heq).1 hnull
  · simp only [Scan.run_bind, hread, Scan.run_place, Scan.run_pure, Option.map_some]

/-- A token that is read behind a gap starts a text. -/
theorem starts_of_plainToken {word : List Char} (plain : t.isPlain = true)
    (opens : ∃ c more, word = c :: more ∧ opensToken c = true)
    (hgap : ∀ offset, skipGap .blank offset false (gap ++ (word ++ rest)) =
      ⟨word ++ rest, offset + gap.length, fresh, none⟩)
    (hstray : Scan.strayLine? typed fresh (word ++ rest) = none)
    (htoken : ∀ offset, (Scan.plainToken typed (word ++ rest)).run ⟨word ++ rest, offset, none⟩ =
      .ok t ⟨rest, offset + word.length, none⟩) :
    Starts typed gap word t fresh rest := by
  refine ⟨plain, fun offset s ready => ?_⟩
  have hfresh : (fresh || !s.started) = fresh := by rw [ready.started, Bool.not_true, Bool.or_false]
  have hread := run_readToken (s := s) ready.inType ready.noRegex ready.noTemplate
    (Nat.zero_lt_of_lt ready.budget) opens (hgap offset) (hfresh.symm ▸ hstray) htoken
  rwa [hfresh] at hread

/-! ## Marks -/

/-- A mark of one character that no other kind of token starts with. -/
def isSingleMark (c : Char) : Bool :=
  Scan.shortMarks.contains c && opensToken c && !Text.isNameStart c && !('0' ≤ c && c ≤ '9')

/-- A mark of more characters starts with the two given ones. -/
def joins (typed : Bool) (c d : Char) : Bool :=
  (if typed then Scan.longMarks else Scan.angleMarks ++ Scan.longMarks).any
    fun mark => mark.toList.take 2 = [c, d]

theorem mem_marks {mark : String}
    (h : mark ∈ if typed then Scan.longMarks else Scan.angleMarks ++ Scan.longMarks) :
    mark ∈ Scan.angleMarks ++ Scan.longMarks := by
  cases typed with
  | true => exact List.mem_append_right _ h
  | false => exact h

/-- A character joins only with the second characters of the marks that it starts. -/
theorem joins_eq_false {d : Char} {seconds : List Char}
    (h : ∀ mark ∈ Scan.angleMarks ++ Scan.longMarks, mark.toList.head? = some c →
      mark.toList.take 2 ∈ seconds.map fun d => [c, d])
    (hd : d ∉ seconds) : joins typed c d = false := by
  refine List.any_eq_false.mpr fun mark hmark htake => hd ?_
  have htake : mark.toList.take 2 = [c, d] := of_decide_eq_true htake
  have hhead : mark.toList.head? = some c := by
    have := congrArg List.head? htake
    rwa [List.head?_take, if_neg (by decide)] at this
  have hmem := h mark (mem_marks hmark) hhead
  rw [htake] at hmem
  obtain ⟨d', hd', heq⟩ := List.mem_map.mp hmem
  obtain rfl : d' = d := (List.cons.inj (List.cons.inj heq).2).1
  exact hd'

theorem markOf?_single (hc : isSingleMark c = true)
    (alone : ∀ d ∈ rest.head?, joins typed c d = false) :
    Scan.markOf? typed (c :: rest) = some (String.singleton c) := by
  have hshort : Scan.shortMarks.contains c = true := by
    simp only [isSingleMark, Bool.and_eq_true] at hc
    exact hc.1.1.1
  have hlong : ∀ mark ∈ Scan.angleMarks ++ Scan.longMarks, 2 ≤ mark.toList.length := by decide
  have hnone : Scan.markAt? (if typed then Scan.longMarks else Scan.angleMarks ++ Scan.longMarks)
      (c :: rest) = none := by
    refine List.find?_eq_none.mpr fun mark hmark hprefix => ?_
    have hlength := hlong mark (mem_marks hmark)
    obtain ⟨after, hafter⟩ := List.isPrefixOf_iff_prefix.mp hprefix
    cases rest with
    | nil =>
        have := congrArg List.length hafter
        simp only [List.length_append, List.length_cons, List.length_nil] at this
        omega
    | cons d rest =>
        have htake : mark.toList.take 2 = [c, d] := by
          have := congrArg (List.take 2) hafter
          rwa [List.take_append_of_le_length hlength] at this
        have hjoins : joins typed c d = true :=
          List.any_eq_true.mpr ⟨mark, hmark, decide_eq_true htake⟩
        rw [alone d rfl] at hjoins
        cases hjoins
  simp only [Scan.markOf?, hnone, hshort, if_true]

/-- A mark of one character starts a text in which no longer mark stands there. -/
theorem starts_mark {text : String} (htext : text.toList = [c]) (hgap : isPad gap = true)
    (hc : isSingleMark c = true) (hangle : typed = true ∨ c ≠ '<')
    (hpoint : c = '.' → rest.head?.any (Decimal.isDigitOf 10) = false)
    (alone : ∀ d ∈ rest.head?, joins typed c d = false) :
    Starts typed gap [c] (.mark text) false rest := by
  obtain rfl : String.singleton c = text :=
    String.toList_inj.mp (by rw [htext, String.toList_singleton])
  have hmark := markOf?_single hc alone
  simp only [isSingleMark, Bool.and_eq_true, Bool.not_eq_true'] at hc
  obtain ⟨⟨⟨hshort, hopens⟩, hname⟩, hdigit⟩ := hc
  have hother : ∀ d, Scan.shortMarks.contains d = false → c ≠ d := by
    rintro d hd rfl
    rw [hshort] at hd
    cases hd
  refine starts_of_plainToken ?_ ⟨c, [], rfl, hopens⟩ (fun offset => ?_) ?_ (fun offset => ?_)
  · have htick := hother '`' rfl
    simpa [Token.isPlain, ← String.toList_inj] using htick
  · exact skipGap_pad hgap hopens offset rest
  · have hmarkup : (!typed && "<!--".toList.isPrefixOf (c :: rest)) = false := by
      obtain rfl | hc := hangle
      · rfl
      · have : ('<' == c) = false := beq_false_of_ne hc.symm
        simp [List.isPrefixOf_cons_cons, this]
    have : Scan.strayLine? typed false (c :: rest) =
        if !typed && "<!--".toList.isPrefixOf (c :: rest)
        then some ⟨.markupComment, false⟩ else none := rfl
    rw [List.singleton_append, this, hmarkup]
    rfl
  · change (Scan.plainToken typed (c :: rest)).run ⟨c :: rest, offset, none⟩ = _
    unfold Scan.plainToken
    have hpoint : (decide (c = '.') && rest.head?.any (Decimal.isDigitOf 10)) = false := by
      simpa using hpoint
    simp only [hname, hother '\\' rfl, hother '"' rfl, hother '\'' rfl, hother '`' rfl, hdigit,
      hpoint, hmark, decide_false, Bool.or_self, Bool.false_eq_true, if_false]
    rw [Scan.run_bind, Scan.run_skip, String.length_singleton]
    rfl

theorem front_mark {text : String} (htext : text.toList = [c]) (hgap : isPad gap = true)
    (hc : isSingleMark c = true) (hangle : typed = true ∨ c ≠ '<')
    (hpoint : c = '.' → rest.head?.any (Decimal.isDigitOf 10) = false)
    (alone : ∀ d ∈ rest.head?, joins typed c d = false) :
    Front typed (gap ++ c :: rest) (.mark text) false rest :=
  ⟨gap, [c], rfl, starts_mark htext hgap hc hangle hpoint alone⟩

/-- A bracket or a separator starts a text, whatever stands behind it. In a type an angle
bracket does so too. -/
theorem front_punctuation {text : String} (htext : text.toList = [c]) (hgap : isPad gap = true)
    (hc : c ∈ ['\x7b', '\x7d', '(', ')', '[', ']', ';', ',', ':'] ∨ typed = true ∧ c ∈ ['<', '>']) :
    Front typed (gap ++ c :: rest) (.mark text) false rest := by
  have hsingle : ∀ c ∈ ['\x7b', '\x7d', '(', ')', '[', ']', ';', ',', ':'] ++ ['<', '>'],
      isSingleMark c = true ∧ c ≠ '.' := List.forall_iff_forall_mem.mp (by decide)
  have hheads : ∀ c ∈ ['\x7b', '\x7d', '(', ')', '[', ']', ';', ',', ':'],
      c ≠ '<' ∧ ∀ mark ∈ Scan.angleMarks ++ Scan.longMarks, mark.toList.head? ≠ some c :=
    List.forall_iff_forall_mem.mp (by decide)
  have hangles : ∀ c ∈ ['<', '>'], ∀ mark ∈ Scan.longMarks, mark.toList.head? ≠ some c :=
    List.forall_iff_forall_mem.mp (by decide)
  have hjoins : ∀ d, joins typed c d = false := by
    intro d
    obtain hc | ⟨rfl, hc⟩ := hc
    · have hnever : ∀ mark ∈ Scan.angleMarks ++ Scan.longMarks, mark.toList.head? = some c →
          mark.toList.take 2 ∈ ([] : List Char).map fun d => [c, d] :=
        fun mark hmark hhead => absurd hhead ((hheads c hc).2 mark hmark)
      exact joins_eq_false hnever (List.not_mem_nil)
    · refine List.any_eq_false.mpr fun mark hmark htake => hangles c hc mark hmark ?_
      have := congrArg List.head? (of_decide_eq_true htake)
      rwa [List.head?_take, if_neg (by decide)] at this
  have hmem : c ∈ ['\x7b', '\x7d', '(', ')', '[', ']', ';', ',', ':'] ++ ['<', '>'] := by
    obtain hc | ⟨-, hc⟩ := hc
    · exact List.mem_append_left _ hc
    · exact List.mem_append_right _ hc
  refine front_mark htext hgap (hsingle c hmem).1 ?_ (fun h => absurd h (hsingle c hmem).2)
    fun d _ => hjoins d
  obtain hc | ⟨htyped, -⟩ := hc
  · exact .inr (hheads c hc).1
  · exact .inl htyped

/-! ## Words -/

/-- A text that is read as one word. -/
def isWordText : List Char → Bool
  | [] => false
  | c :: more => Text.isNameStart c && more.all Text.isNamePart

/-- No blank opens an identifier. -/
theorem isBlank_of_isNameStart (hc : Text.isNameStart c = true) : Text.isBlank c = false := by
  have hdisjoint : ∀ r ∈ Text.idStartRanges, ∀ r' ∈ Text.blankRanges, r.2 < r'.1 ∨ r'.2 < r.1 := by
    decide +kernel
  have hascii : ∀ n < 0x80, Text.isBlank (Char.ofNat n) = true →
      Text.isNameStart (Char.ofNat n) = false := by
    decide +kernel
  by_cases hsmall : c.toNat < 0x80
  · refine Bool.eq_false_iff.mpr fun hblank => ?_
    have := hascii c.toNat hsmall
    rw [Char.ofNat_toNat, hc] at this
    cases this hblank
  · rw [Text.isNameStart, if_neg hsmall] at hc
    exact Text.CodeRanges.holds_eq_false_of_apart hdisjoint hc

/-- Characters that open a word open a token. -/
theorem opensToken_of_isNameStart (hc : Text.isNameStart c = true) : opensToken c = true := by
  have hother : ∀ d, Text.isNameStart d = false → c ≠ d := by
    rintro d hd rfl
    rw [hc] at hd
    cases hd
  have hline : isLineBreak c = false := by
    simp [isLineBreak, hother '\n' (by decide +kernel), hother '\r' (by decide +kernel),
      hother '\u2028' (by decide +kernel), hother '\u2029' (by decide +kernel)]
  have hspace : isSpace c = false := by
    simp [isSpace, isBlank_of_isNameStart hc, hother '\uFEFF' (by decide +kernel)]
  simp [opensToken, hline, hspace, hother '/' (by decide +kernel),
    hother '\x00' (by decide +kernel)]

/-- The characters of a word are taken up to where it ends. -/
theorem run_wordText {word : List Char} (hword : word.all Text.isNamePart = true)
    (ends : ∀ d ∈ rest.head?, Text.isNamePart d = false ∧ d ≠ '\\') (offset : Nat) :
    Scan.wordText.run ⟨word ++ rest, offset, none⟩ =
      .ok (String.ofList word, false) ⟨rest, offset + word.length, none⟩ := by
  have htake : (word ++ rest).takeWhile Text.isNamePart = word := by
    rw [List.takeWhile_append_of_pos (List.all_eq_true.mp hword)]
    cases rest with
    | nil => exact List.append_nil word
    | cons d rest =>
        rw [List.takeWhile_cons_of_neg (by simp [(ends d rfl).1]), List.append_nil]
  have hslash : ¬ rest.head? = some '\\' := fun h => (ends _ h).2 rfl
  have hwhile : (Scan.takeWhile Text.isNamePart).run ⟨word ++ rest, offset, none⟩ =
      .ok word ⟨rest, offset + word.length, none⟩ := by
    rw [Scan.takeWhile, Scan.run_bind, Scan.run_following]
    simp only [htake, Scan.run_bind, Scan.run_skip, Scan.run_pure, List.drop_left]
  have htail :
      (Scan.wordTail ((word ++ rest).length + 1) [] false).run ⟨word ++ rest, offset, none⟩ =
      .ok (word.reverse, false) ⟨rest, offset + word.length, none⟩ := by
    simp only [Scan.wordTail, Scan.run_bind, hwhile, Scan.run_peek, List.append_nil, hslash,
      if_false, Scan.run_pure]
  simp only [Scan.wordText, Scan.run_bind, Scan.run_following, htail, Scan.run_pure,
    List.reverse_reverse]

/-- A word is the token of a text in which no more of a word stands behind it. -/
theorem run_plainToken_word {text : String} (hword : isWordText text.toList = true)
    (ends : ∀ d ∈ rest.head?, Text.isNamePart d = false ∧ d ≠ '\\') (offset : Nat) :
    (Scan.plainToken typed (text.toList ++ rest)).run ⟨text.toList ++ rest, offset, none⟩ =
      .ok (.word text) ⟨rest, offset + text.toList.length, none⟩ := by
  obtain ⟨word, rfl⟩ : ∃ word, text = String.ofList word := ⟨text.toList, by simp⟩
  rw [String.toList_ofList] at hword ⊢
  cases word with
  | nil => cases hword
  | cons c more =>
      obtain ⟨hc, hmore⟩ : Text.isNameStart c = true ∧ more.all Text.isNamePart = true := by
        simpa only [isWordText, Bool.and_eq_true] using hword
      have hall : (c :: more).all Text.isNamePart = true := by
        rw [List.all_cons, Text.isNamePart_of_isNameStart hc, hmore]
        rfl
      have hslash : ¬ c = '\\' := by
        rintro rfl
        exact absurd hc (by decide +kernel)
      have htext := run_wordText hall ends offset
      rw [List.cons_append] at htext ⊢
      simp only [Scan.plainToken, hc, Bool.true_or, if_true, Scan.word, Scan.run_bind,
        Scan.run_place, Scan.run_peek, htext, List.head?_cons, Option.some.injEq, hslash, if_false,
        Bool.false_and, Bool.false_eq_true, Scan.run_pure]

/-- A word opens a token. -/
theorem opens_of_isWordText {word : List Char} (hword : isWordText word = true) :
    ∃ c more, word = c :: more ∧ opensToken c = true ∧ Text.isNameStart c = true := by
  cases word with
  | nil => cases hword
  | cons c more =>
      simp only [isWordText, Bool.and_eq_true] at hword
      exact ⟨c, more, rfl, opensToken_of_isNameStart hword.1, hword.1⟩

/-- A word starts a text in which no more of a word stands behind it. -/
theorem front_word {text : String} (hgap : isPad gap = true) (hword : isWordText text.toList = true)
    (ends : ∀ d ∈ rest.head?, Text.isNamePart d = false ∧ d ≠ '\\') :
    Front typed (gap ++ (text.toList ++ rest)) (.word text) false rest := by
  obtain ⟨c, more, htext, hopens, hstart⟩ := opens_of_isWordText hword
  refine ⟨gap, text.toList, rfl, starts_of_plainToken rfl ⟨c, more, htext, hopens⟩
    (fun offset => ?_)
    ?_ fun offset => run_plainToken_word hword ends offset⟩
  · rw [htext]
    exact skipGap_pad hgap hopens offset (more ++ rest)
  · have hangle : ('<' == c) = false := beq_false_of_ne fun h => by
      rw [← h] at hstart
      exact absurd hstart (by decide +kernel)
    simp [htext, Scan.strayLine?, List.isPrefixOf_cons_cons, hangle]

end Parse

end SchemaGuards.Syntax
