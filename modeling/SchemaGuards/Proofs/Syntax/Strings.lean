import SchemaGuards.Declaration.Printer
import SchemaGuards.Proofs.Json.Quoted
import SchemaGuards.Proofs.Syntax.Tokens

/-!
# Strings at the front of a text

A string that is written in visible characters is read back as it was, except where a null
character stands before an octal digit: its escape would then be read with that digit.
-/

namespace SchemaGuards.Syntax

namespace Parse

variable {typed : Bool} {gap rest : List Char} {c : Char}

/-- The digits of a number in a base write that number. -/
theorem ofDigits_toDigits {base : Nat} (two : 1 < base) (sixteen : base ≤ 16) (n : Nat) :
    (Nat.toDigits base n).all (Decimal.isDigitOf base) = true ∧
      Decimal.ofDigits base (Nat.toDigits base n) = n := by
  have hdigit : ∀ d < 16, Decimal.digitValue? (Nat.digitChar d) = some d := by decide
  induction n using Nat.strongRecOn with
  | ind n ih =>
      rw [Nat.toDigits_eq_if two]
      split
      · next hlt =>
          have := hdigit n (by omega)
          simp [Decimal.isDigitOf, Decimal.ofDigits, this, hlt]
      · next hge =>
          have hmod : n % base < base := Nat.mod_lt _ (by omega)
          have := hdigit (n % base) (by omega)
          obtain ⟨hall, hvalue⟩ := ih (n / base) (Nat.div_lt_self (by omega) two)
          constructor
          · simp [hall, Decimal.isDigitOf, this, hmod]
          · rw [Decimal.ofDigits] at hvalue
            rw [Decimal.ofDigits, List.foldl_append, hvalue]
            simp only [List.foldl_cons, List.foldl_nil, this, Option.getD_some]
            exact Nat.div_add_mod' n base

/-- The number read so far does not shrink with more digits. -/
theorem le_foldl_digits (base : Nat) (hbase : 0 < base) (digits : List Char) (value : Nat) :
    value ≤ digits.foldl (fun n c => n * base + (Decimal.digitValue? c).getD 0) value := by
  induction digits generalizing value with
  | nil => exact Nat.le_refl value
  | cons c digits ih =>
      refine Nat.le_trans ?_ (ih _)
      exact Nat.le_trans (Nat.le_mul_of_pos_right value hbase) (Nat.le_add_right _ _)

/-- All digits of an escape in braces are taken when their number is in bounds. -/
theorem hexRun_digits {digits : List Char} (hall : digits.all (Decimal.isDigitOf 16) = true)
    (length count value : Nat)
    (bound : digits.foldl (fun n c => n * 16 + (Decimal.digitValue? c).getD 0) value <
      Scan.hexBound) (tail : List Char) :
    Scan.hexRun 0 ⟨length, count, value, false⟩ (digits ++ '\x7d' :: tail) =
      ⟨length + digits.length, count + digits.length,
        digits.foldl (fun n c => n * 16 + (Decimal.digitValue? c).getD 0) value, false⟩ := by
  induction digits generalizing length count value with
  | nil =>
      have hbrace : Decimal.isDigitOf 16 '\x7d' = false := by decide
      simp [Scan.hexRun, hbrace]
  | cons c digits ih =>
      obtain ⟨hc, hdigits⟩ : Decimal.isDigitOf 16 c = true ∧
          digits.all (Decimal.isDigitOf 16) = true := by
        simpa only [List.all_cons, Bool.and_eq_true] using hall
      have hline : ¬ c = '_' := by
        rintro rfl
        exact absurd hc (by decide)
      have hvalue : value * 16 + Decimal.ofDigits 16 [c] =
          value * 16 + (Decimal.digitValue? c).getD 0 := by
        simp [Decimal.ofDigits]
      have hbound : ¬ value * 16 + (Decimal.digitValue? c).getD 0 ≥ Scan.hexBound := by
        have := le_foldl_digits 16 (by decide) digits (value * 16 + (Decimal.digitValue? c).getD 0)
        rw [List.foldl_cons] at bound
        omega
      rw [List.cons_append, Scan.hexRun]
      simp only [hline, if_false, hc, if_true, hvalue, hbound, Nat.add_one_ne_zero, decide_false,
        Bool.or_self, Bool.false_eq_true]
      rw [ih hdigits _ _ _ bound]
      simp only [List.length_cons, List.foldl_cons, Nat.add_assoc, Nat.add_comm 1]

theorem run_eat_self (tail : List Char) (offset : Nat) (noted : Option Fault) :
    (Scan.eat c).run ⟨c :: tail, offset, noted⟩ = .ok true ⟨tail, offset + 1, noted⟩ := by
  simp only [Scan.eat, Scan.run_bind, Scan.run_peek, List.head?_cons, if_true, Scan.run_skip,
    Scan.run_pure, List.drop_succ_cons, List.drop_zero]

/-- The digits of a code point in braces are taken up to the brace. -/
theorem run_hexValue? (c : Char) (tail : List Char) (offset : Nat) :
    (Scan.hexValue? 0).run ⟨Text.hexDigits c.toNat ++ '\x7d' :: tail, offset, none⟩ =
      .ok (some c.toNat) ⟨'\x7d' :: tail, offset + (Text.hexDigits c.toNat).length, none⟩ := by
  obtain ⟨hall, hvalue⟩ := ofDigits_toDigits (by decide) (Nat.le_refl 16) c.toNat
  have hbound : c.toNat < 0x110000 := by
    have := c.valid
    change c.toNat < 0xd800 ∨ 0xdfff < c.toNat ∧ c.toNat < 0x110000 at this
    omega
  have hhex : Scan.hexBound = 4294967296 := by decide
  have hlength : 0 < (Text.hexDigits c.toNat).length := Nat.length_toDigits_pos
  have hrun : Scan.hexRun 0 {} (Text.hexDigits c.toNat ++ '\x7d' :: tail) =
      ⟨(Text.hexDigits c.toNat).length, (Text.hexDigits c.toNat).length, c.toNat, false⟩ := by
    rw [Decimal.ofDigits] at hvalue
    have := hexRun_digits hall 0 0 0 (by omega) tail
    rwa [hvalue, Nat.zero_add] at this
  have hcount : (decide ((Text.hexDigits c.toNat).length = 0) ||
      decide ((Text.hexDigits c.toNat).length < 0) ||
      decide (c.toNat ≥ Scan.hexBound)) = false := by
    simp only [Bool.or_eq_false_iff, decide_eq_false_iff_not]
    omega
  simp only [Scan.hexValue?, Scan.run_bind, Scan.run_place, Scan.run_following, hrun,
    Bool.false_eq_true, if_false, Scan.run_pure, Scan.run_skip, hcount, List.drop_left]

/-- An escape by a code point in braces is read as its character. -/
theorem run_unicodeEscape (c : Char) (tail : List Char) (offset : Nat) :
    Scan.unicodeEscape.run ⟨'\x7b' :: (Text.hexDigits c.toNat ++ '\x7d' :: tail), offset, none⟩ =
      .ok [c] ⟨tail, offset + 1 + (Text.hexDigits c.toNat).length + 1, none⟩ := by
  have hget (now : Cursor) : (get : Scan Cursor).run now = .ok now now := rfl
  have hcharacter : Scan.characterOf? c.toNat = some c := by
    have hvalid : c.toNat.isValidChar := c.valid
    rw [Scan.characterOf?, if_pos hvalid, Char.ofNat_toNat]
  have hrange : ¬ c.toNat > 0x10FFFF := by
    have := c.valid
    change c.toNat < 0xd800 ∨ 0xdfff < c.toNat ∧ c.toNat < 0x110000 at this
    omega
  simp only [Scan.unicodeEscape, Scan.run_bind, run_eat_self, hget, if_true, run_hexValue?, hrange,
    if_false, Scan.run_pure, hcharacter, Bool.true_and, Bool.not_true, Bool.false_eq_true]

/-- The escape of a null character is read as one before no octal digit. -/
theorem run_escape_null {tail : List Char}
    (ends : tail.head?.any (Decimal.isDigitOf 8) = false) (offset : Nat) :
    (Scan.escape false).run ⟨'\\' :: '0' :: tail, offset, none⟩ =
      .ok ['\x00'] ⟨tail, offset + 2, none⟩ := by
  have hdigits : (('0' :: tail).take 3).takeWhile (Decimal.isDigitOf 8) = ['0'] := by
    cases tail with
    | nil => rfl
    | cons d tail =>
        have hd : Decimal.isDigitOf 8 d = false := ends
        have hzero : Decimal.isDigitOf 8 '0' = true := by decide
        simp [hzero, hd]
  have hvalue : ¬ Decimal.ofDigits 8 ['0'] > 255 := by decide
  change (Scan.octalEscape false offset).run ⟨'0' :: tail, offset + 1, none⟩ = _
  simp only [Scan.octalEscape, Scan.run_bind, Scan.run_following, hdigits, hvalue, if_false,
    if_true, Scan.run_skip, Scan.run_pure, List.drop_succ_cons, List.drop_zero]

/-- The escape of a character by its code point is read as the character. -/
theorem run_escape_code (c : Char) (tail : List Char) (offset : Nat) :
    (Scan.escape false).run
        ⟨'\\' :: 'u' :: '\x7b' :: (Text.hexDigits c.toNat ++ '\x7d' :: tail), offset, none⟩ =
      .ok [c] ⟨tail, offset + 2 + (1 + (Text.hexDigits c.toNat).length + 1), none⟩ := by
  have hcode := run_unicodeEscape c tail (offset + 2)
  rw [EStateM.run] at hcode
  change EStateM.tryCatch Scan.unicodeEscape _
    ⟨'\x7b' :: (Text.hexDigits c.toNat ++ '\x7d' :: tail), offset + 2, none⟩ = _
  rw [EStateM.tryCatch, hcode]
  simp only [Nat.add_assoc]

theorem run_stringTail_escape {more tail : List Char} {offset stop : Nat}
    (h : (Scan.escape false).run ⟨'\\' :: more, offset, none⟩ = .ok [c] ⟨tail, stop, none⟩)
    (start budget : Nat) (value : List Char) :
    (Scan.stringTail '"' start (budget + 1) value).run ⟨'\\' :: more, offset, none⟩ =
      (Scan.stringTail '"' start budget (c :: value)).run ⟨tail, stop, none⟩ := by
  have hslash : ¬ '\\' = '"' ∧ ¬ ('\\' = '\n' ∨ '\\' = '\r') := by decide
  simp only [Scan.stringTail, Scan.run_bind, Scan.run_peek, List.head?_cons, hslash, if_false,
    Bool.or_eq_true, decide_eq_true_eq, if_true, h, List.reverse_singleton, List.singleton_append]

/-- The written form of a character is read as the character. A null character must not stand
before an octal digit. -/
theorem run_stringTail_char (start budget : Nat) (value : List Char) (c : Char) (tail : List Char)
    (hnull : c = '\x00' → tail.head?.any (Decimal.isDigitOf 8) = false) (offset : Nat) :
    (Scan.stringTail '"' start (budget + 1) value).run
        ⟨Text.escapedChar '"' c ++ tail, offset, none⟩ =
      (Scan.stringTail '"' start budget (c :: value)).run
        ⟨tail, offset + (Text.escapedChar '"' c).length, none⟩ := by
  unfold Text.escapedChar
  split_ifs with hzero ht hr hn hslash hvisible
  · subst hzero
    exact run_stringTail_escape (run_escape_null (hnull rfl) offset) start budget value
  · subst ht
    rfl
  · subst hr
    rfl
  · subst hn
    rfl
  · obtain rfl | rfl : c = '\\' ∨ c = '"' := by simpa using hslash
    · rfl
    · rfl
  · have hquote : ¬ c = '"' := fun h => hslash (by simp [h])
    have hback : ¬ c = '\\' := fun h => hslash (by simp [h])
    simp only [Scan.stringTail, Scan.run_bind, Scan.run_peek, List.cons_append, List.nil_append,
      List.head?_cons, hquote, hback, hn, hr, if_false, decide_false, Bool.or_self,
      Bool.false_eq_true, Scan.run_skip, List.drop_succ_cons, List.drop_zero]
    rfl
  · have hcode := run_stringTail_escape (run_escape_code c tail offset) start budget value
    simp only [List.append_assoc, List.cons_append, List.nil_append, List.length_cons,
      List.length_append, List.length_nil]
    rw [hcode]
    congr 2
    omega

/-- No null character stands before an octal digit, with which its escape would be read. -/
def nullsStandAlone : List Char → Bool
  | [] => true
  | c :: rest => (c != '\x00' || !rest.head?.any (Decimal.isDigitOf 8)) && nullsStandAlone rest

/-- What is written for a character starts as an octal digit only for that digit. -/
theorem octal_of_escapedChar {d : Char} (hd : Decimal.isDigitOf 8 d = false) (tail : List Char) :
    (Text.escapedChar '"' d ++ tail).head?.any (Decimal.isDigitOf 8) = false := by
  have hslash : Decimal.isDigitOf 8 '\\' = false := by decide
  unfold Text.escapedChar
  split_ifs <;> simp [hslash, hd]

theorem run_stringTail (start : Nat) {cs : List Char} (hcs : nullsStandAlone cs = true)
    (budget : Nat) (value tail : List Char) (offset : Nat)
    (enough : cs.length < budget) :
    (Scan.stringTail '"' start budget value).run
        ⟨cs.flatMap (Text.escapedChar '"') ++ '"' :: tail, offset, none⟩ =
      .ok (value.reverse ++ cs)
        ⟨tail, offset + (cs.flatMap (Text.escapedChar '"')).length + 1, none⟩ := by
  obtain ⟨budget, rfl⟩ := Nat.exists_eq_add_one_of_ne_zero (Nat.ne_zero_of_lt enough)
  induction cs generalizing budget value offset with
  | nil =>
      simp only [Scan.stringTail, Scan.run_bind, Scan.run_peek, List.flatMap_nil, List.nil_append,
        List.head?_cons, if_true, Scan.run_skip, Scan.run_pure, List.drop_succ_cons, List.drop_zero,
        List.append_nil, List.length_nil, Nat.add_zero]
  | cons c cs ih =>
      obtain ⟨budget, rfl⟩ := Nat.exists_eq_add_one_of_ne_zero
        (Nat.ne_zero_of_lt (Nat.lt_of_succ_lt_succ enough))
      obtain ⟨hnull, hcs⟩ : (c = '\x00' → cs.head?.any (Decimal.isDigitOf 8) = false) ∧
          nullsStandAlone cs = true := by
        simpa [nullsStandAlone, ← Decidable.imp_iff_not_or] using hcs
      have hc : c = '\x00' → (cs.flatMap (Text.escapedChar '"') ++ '"' :: tail).head?.any
          (Decimal.isDigitOf 8) = false := by
        intro h
        cases cs with
        | nil => rfl
        | cons d cs =>
            rw [List.flatMap_cons, List.append_assoc]
            exact octal_of_escapedChar (hnull h) _
      rw [List.flatMap_cons, List.append_assoc, run_stringTail_char start (budget + 1) value c _ hc,
        ih hcs _ _ _ (Nat.lt_of_succ_lt_succ enough), List.reverse_cons, List.append_assoc,
        List.singleton_append, List.length_append, Nat.add_assoc offset]

/-- A written string starts a text, whatever stands behind it. -/
theorem front_string {value : String} (hgap : isPad gap = true)
    (hvalue : nullsStandAlone value.toList = true) :
    Front typed (gap ++ (Text.escapedChars value.toList ++ rest))
      (.string value (Text.escaped value)) false rest := by
  obtain ⟨cs, rfl⟩ : ∃ cs, value = String.ofList cs := ⟨value.toList, by simp⟩
  rw [Text.escaped, String.toList_ofList]
  rw [String.toList_ofList] at hvalue
  have hopens : opensToken '"' = true := by decide
  have hwhole : Text.escapedChars cs ++ rest =
      '"' :: (cs.flatMap (Text.escapedChar '"') ++ '"' :: rest) := by
    simp [Text.escapedChars]
  refine ⟨gap, Text.escapedChars cs, rfl, starts_of_plainToken rfl ⟨'"', _, rfl, hopens⟩
    (fun offset => ?_) ?_ (fun offset => ?_)⟩
  · rw [hwhole]
    exact skipGap_pad hgap hopens offset _
  · simp [hwhole, Scan.strayLine?, List.isPrefixOf_cons_cons]
  · have henough : cs.length < (Text.escapedChars cs ++ rest).length := by
      have hwritten : ∀ c, Text.escapedChar '"' c ≠ [] := by
        intro c
        unfold Text.escapedChar
        split_ifs <;> exact List.cons_ne_nil _ _
      have := length_le_length_flatMap hwritten cs
      rw [hwhole, List.length_cons, List.length_append]
      omega
    have htail := run_stringTail offset hvalue (Text.escapedChars cs ++ rest).length [] rest
      (offset + 1) henough
    have hlength : offset + 1 + (cs.flatMap (Text.escapedChar '"')).length + 1 =
        offset + (Text.escapedChars cs).length := by
      simp only [Text.escapedChars, List.length_cons, List.length_append, List.length_nil]
      omega
    have hplain : Scan.plainToken typed (Text.escapedChars cs ++ rest) = Scan.string '"' := by
      rw [hwhole]
      rfl
    have hdrop : (Text.escapedChars cs ++ rest).drop 1 =
        cs.flatMap (Text.escapedChar '"') ++ '"' :: rest := by
      rw [hwhole]
      rfl
    rw [hlength] at htail
    simp only [hplain, Scan.string, Scan.run_bind, Scan.run_place, Scan.run_following,
      Scan.run_skip, hdrop, htail, Scan.run_since, Scan.run_pure, List.reverse_nil, List.nil_append]

end Parse

end SchemaGuards.Syntax
