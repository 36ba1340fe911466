import SchemaGuards.Decimal.Literal
import SchemaGuards.Proofs.Decimal.Shortest
import SchemaGuards.Proofs.Syntax.Strings

/-!
# The text of a floating point number

The positional text of a finite number is read as the same number.
-/

namespace SchemaGuards.Decimal

open Binary64

/-! ## Decimal numbers in an interval -/

theorem length_toDigits_bounds {n : Nat} (hn : 0 < n) :
    10 ^ ((Nat.toDigits 10 n).length - 1) ≤ n ∧ n < 10 ^ (Nat.toDigits 10 n).length := by
  have hlength : 0 < (Nat.toDigits 10 n).length := Nat.length_toDigits_pos
  refine ⟨?_, (Nat.length_toDigits_le_iff (by decide) hlength).mp (Nat.le_refl _)⟩
  by_contra hless
  rcases Nat.eq_zero_or_pos ((Nat.toDigits 10 n).length - 1) with hone | hmore
  · rw [hone, Nat.pow_zero] at hless
    omega
  · have := (Nat.length_toDigits_le_iff (by decide) hmore).mpr (not_le.mp hless)
    omega

/-- The range of the decimal numbers that are rounded to a finite number. -/
theorem Binary64.Near.bounds {m : Nat} {e : Int} {x : ℚ} (h : Near m e x) (canonical : IsCanonical m e)
    (hm : 0 < m) : (10 : ℚ) ^ (-330 : Int) < x ∧ x < 10 ^ (309 : Int) := by
  have hpos := twoTo_zpow_pos e
  have hreach := reach_le m e
  have hm' : (1 : ℚ) ≤ m := by exact_mod_cast hm
  have hsmall : (m : ℚ) + 1 ≤ 2 ^ 53 := by exact_mod_cast canonical.small
  have hlow := (le_div_iff₀ hpos).mp h.low
  have hhigh := (div_le_iff₀ hpos).mp h.high
  have hleast : (2 : ℚ) ^ 1075 < 10 ^ 330 := by
    have : 2 ^ 1075 < 10 ^ 330 := by decide +kernel
    exact_mod_cast this
  have hgreatest : (2 : ℚ) ^ 1024 < 10 ^ 309 := by
    have : 2 ^ 1024 < 10 ^ 309 := by decide +kernel
    exact_mod_cast this
  constructor
  · calc (10 : ℚ) ^ (-330 : Int) < 2 ^ (-1075 : Int) :=
          inv_strictAnti₀ (pow_pos (by norm_num) 1075) hleast
      _ ≤ 2 ^ (e - 1) := zpow_le_zpow_right₀ (by norm_num) (by have := canonical.least; omega)
      _ = 1 / 2 * 2 ^ e := by rw [zpow_sub_one₀ (by norm_num)]; ring
      _ ≤ (m - reach m e) * 2 ^ e := by gcongr; linarith
      _ ≤ x := hlow
  · calc x ≤ (m + 1 / 2) * 2 ^ e := hhigh
      _ ≤ 2 ^ 53 * 2 ^ e := by gcongr; linarith
      _ = 2 ^ (53 + e) := by rw [zpow_add₀ (by norm_num)]; rfl
      _ ≤ 2 ^ (1024 : Int) :=
        zpow_le_zpow_right₀ (by norm_num) (by have := canonical.greatest; omega)
      _ < 10 ^ (309 : Int) := hgreatest

/-- A decimal number is rounded to the floating point number whose interval it lies in. -/
theorem ofScientific_eq {m digits : Nat} {e exponent : Int} (canonical : IsCanonical m e)
    (hm : 0 < m) (near : Near m e (digits * 10 ^ exponent)) :
    ofScientific digits exponent = finite m e := by
  have hdigits : 0 < digits := by
    rcases Nat.eq_zero_or_pos digits with rfl | h
    · exact absurd (near.pos hm) (by simp)
    · exact h
  obtain ⟨hlow, hhigh⟩ := length_toDigits_bounds hdigits
  have hlength : 0 < (Nat.toDigits 10 digits).length := Nat.length_toDigits_pos
  obtain ⟨hover, hunder⟩ := near.bounds canonical hm
  have hten : (0 : ℚ) < 10 ^ exponent := zpow_pos (by norm_num) exponent
  -- The exponent and the number of digits bound the number, so they are in range.
  have hlarge : ¬ 310 < exponent + (Nat.toDigits 10 digits).length := by
    have hfloor : (10 : ℚ) ^ (((Nat.toDigits 10 digits).length - 1 : Nat) + exponent) <
        10 ^ (309 : Int) := by
      refine lt_of_le_of_lt ?_ hunder
      rw [zpow_add₀ (by norm_num), zpow_natCast]
      gcongr
      exact_mod_cast hlow
    have := (zpow_lt_zpow_iff_right₀ (by norm_num)).mp hfloor
    omega
  have hsmall : ¬ exponent + (Nat.toDigits 10 digits).length < -330 := by
    have hceil : (10 : ℚ) ^ (-330 : Int) < 10 ^ ((Nat.toDigits 10 digits).length + exponent) := by
      refine lt_trans hover ?_
      rw [zpow_add₀ (by norm_num), zpow_natCast]
      gcongr
      exact_mod_cast hhigh
    have := (zpow_lt_zpow_iff_right₀ (by norm_num)).mp hceil
    omega
  simp only [ofScientific, if_neg hdigits.ne', if_neg hlarge, if_neg hsmall]
  split
  · next h =>
      obtain ⟨n, rfl⟩ := Int.eq_ofNat_of_zero_le h
      refine ofFraction_eq canonical hm Nat.one_pos ?_
      rw [Int.toNat_natCast, Nat.cast_mul, cast_tenTo, Nat.cast_one, div_one, ← zpow_natCast]
      exact near
  · next h =>
      obtain ⟨n, rfl⟩ : ∃ n : Nat, exponent = -n := ⟨(-exponent).toNat, by omega⟩
      refine ofFraction_eq canonical hm (tenTo_pos _) ?_
      rw [neg_neg, Int.toNat_natCast, cast_tenTo, div_eq_mul_inv, ← zpow_natCast, ← zpow_neg]
      exact near

/-! ## Positional text -/

theorem ofDigits_append (cs ds : List Char) :
    ofDigits 10 (cs ++ ds) = ds.foldl (fun n c => n * 10 + (digitValue? c).getD 0) (ofDigits 10 cs) :=
  List.foldl_append

theorem ofDigits_append_zeros (cs : List Char) (n : Nat) :
    ofDigits 10 (cs ++ List.replicate n '0') = ofDigits 10 cs * 10 ^ n := by
  induction n with
  | zero => simp
  | succ n ih =>
      rw [List.replicate_succ', ← List.append_assoc, ofDigits_append, ih, Nat.pow_succ,
        ← Nat.mul_assoc]
      rfl

theorem ofDigits_zeros_append (n : Nat) (cs : List Char) :
    ofDigits 10 (List.replicate n '0' ++ cs) = ofDigits 10 cs := by
  have hzeros : ofDigits 10 (List.replicate n '0') = 0 := by
    have := ofDigits_append_zeros [] n
    rw [List.nil_append] at this
    rw [this]
    exact Nat.zero_mul _
  rw [ofDigits_append, hzeros]
  rfl

/-- A number that is not zero does not start with the digit zero. -/
theorem head_toDigits {n : Nat} (hn : 0 < n) : (Nat.toDigits 10 n).head? ≠ some '0' := by
  have hdigit : ∀ d < 10, 0 < d → Nat.digitChar d ≠ '0' := by decide
  induction n using Nat.strongRecOn with
  | ind n ih =>
      rw [Nat.toDigits_eq_if (by decide)]
      split
      · next hlt =>
          intro h
          exact hdigit n hlt hn (Option.some.inj h)
      · next hge =>
          have hquotient : 0 < n / 10 := by omega
          rw [List.head?_append_of_ne_nil _ Nat.toDigits_ne_nil]
          exact ih (n / 10) (by omega) hquotient

/-- A decimal text without exponent: digits, and further ones behind a point. No zero stands before
other digits in front of the point. -/
structure IsPositional (cs whole fraction : List Char) : Prop where
  text : cs = whole ++ if fraction = [] then [] else '.' :: fraction
  whole_digits : whole.all (isDigitOf 10) = true
  fraction_digits : fraction.all (isDigitOf 10) = true
  nonempty : whole ≠ []
  unpadded : whole = ['0'] ∨ whole.head? ≠ some '0'

theorem all_isDigitOf_zeros (n : Nat) : (List.replicate n '0').all (isDigitOf 10) = true :=
  List.all_eq_true.mpr fun c hc => by
    rw [List.eq_of_mem_replicate hc]
    decide

/-- Digits with zeros behind them, and no point. -/
theorem isPositional_zeros {digits : List Char} (n : Nat)
    (hall : digits.all (isDigitOf 10) = true) (hne : digits ≠ [])
    (hhead : digits.head? ≠ some '0') :
    IsPositional (digits ++ List.replicate n '0') (digits ++ List.replicate n '0') [] := by
  refine ⟨(List.append_nil _).symm, ?_, rfl, ?_, .inr ?_⟩
  · rw [List.all_append, hall, all_isDigitOf_zeros, Bool.and_self]
  · exact List.append_ne_nil_of_left_ne_nil hne _
  · rwa [List.head?_append_of_ne_nil _ hne]

/-- Digits with a point before the last `n` of them, behind as many zeros as that needs. -/
theorem isPositional_point {digits padded : List Char} {n : Nat} (hn : 0 < n)
    (hpadded : List.replicate (n + 1 - digits.length) '0' ++ digits = padded)
    (hall : digits.all (isDigitOf 10) = true)
    (hhead : n < digits.length → digits.head? ≠ some '0') :
    IsPositional (padded.take (padded.length - n) ++ '.' :: padded.drop (padded.length - n))
      (padded.take (padded.length - n)) (padded.drop (padded.length - n)) := by
  have hlength : padded.length = n + 1 - digits.length + digits.length := by
    rw [← hpadded, List.length_append, List.length_replicate]
  have hcount : (padded.drop (padded.length - n)).length = n := by
    rw [List.length_drop]
    omega
  have hparts : padded.all (isDigitOf 10) = true := by
    rw [← hpadded, List.all_append, hall, all_isDigitOf_zeros, Bool.and_self]
  rw [← List.take_append_drop (padded.length - n) padded, List.all_append, Bool.and_eq_true] at hparts
  refine ⟨?_, hparts.1, hparts.2, ?_, ?_⟩
  · rw [if_neg (List.ne_nil_of_length_pos (by omega))]
  · apply List.ne_nil_of_length_pos
    rw [List.length_take]
    omega
  · by_cases hshort : digits.length ≤ n
    · left
      have hone : padded.length - n = 1 := by omega
      obtain ⟨k, hk⟩ : ∃ k, n + 1 - digits.length = k + 1 := ⟨n - digits.length, by omega⟩
      rw [hone, ← hpadded, hk, List.replicate_succ]
      rfl
    · right
      have hplain : padded = digits := by
        rw [← hpadded, Nat.sub_eq_zero_of_le (by omega), List.replicate_zero, List.nil_append]
      rw [hplain, List.head?_take, if_neg (by omega)]
      exact hhead (not_le.mp hshort)

/-- The text of a decimal number writes its value. -/
theorem Scientific.isPositional (s : Scientific) : ∃ whole fraction,
    IsPositional s.positional whole fraction ∧
      (ofDigits 10 (whole ++ fraction) : ℚ) * 10 ^ (-(fraction.length : Int)) =
        s.digits * 10 ^ s.exponent := by
  obtain ⟨hall, hvalue⟩ := Syntax.Parse.ofDigits_toDigits (show 1 < 10 by decide) (by decide) s.digits
  unfold Scientific.positional
  simp only
  split
  · next hexponent =>
      obtain ⟨n, hn⟩ := Int.eq_ofNat_of_zero_le hexponent
      rw [hn, Int.toNat_natCast]
      split
      · next hzero =>
          refine ⟨['0'], [], ⟨rfl, by decide, rfl, by decide, .inl rfl⟩, ?_⟩
          rw [hzero]
          simp [show ofDigits 10 ['0'] = 0 from rfl]
      · next hpositive =>
          refine ⟨_, [], isPositional_zeros n hall Nat.toDigits_ne_nil ?_, ?_⟩
          · exact head_toDigits (Nat.pos_of_ne_zero hpositive)
          · rw [List.append_nil, ofDigits_append_zeros, hvalue]
            simp
  · next hexponent =>
      obtain ⟨n, hn⟩ : ∃ n : Nat, s.exponent = -n := ⟨(-s.exponent).toNat, by omega⟩
      have hn' : 0 < n := by omega
      rw [hn, neg_neg, Int.toNat_natCast]
      refine ⟨_, _, isPositional_point hn' rfl hall fun hlong => ?_, ?_⟩
      · -- A single zero is not longer than the fraction.
        apply head_toDigits
        apply Nat.pos_of_ne_zero
        intro hzero
        rw [hzero] at hlong
        exact absurd hn' (Nat.not_lt.mpr (Nat.le_of_lt_succ hlong))
      · rw [List.take_append_drop, ofDigits_zeros_append, hvalue, List.length_drop,
          List.length_append, List.length_replicate]
        congr 3
        omega

theorem takeWhile_digits {cs : List Char} (rest : List Char) (hcs : cs.all (isDigitOf 10) = true)
    (hrest : ∀ c ∈ rest.head?, isDigitOf 10 c = false) :
    (cs ++ rest).takeWhile (isDigitOf 10) = cs := by
  rw [List.takeWhile_append_of_pos (List.all_eq_true.mp hcs)]
  cases rest with
  | nil => rw [List.takeWhile_nil, List.append_nil]
  | cons c rest =>
      rw [List.takeWhile_cons_of_neg (by rw [hrest c rfl]; exact Bool.false_ne_true),
        List.append_nil]

/-- The characters of a positional text are digits and a point. -/
theorem IsPositional.mem {cs whole fraction : List Char} (h : IsPositional cs whole fraction) :
    ∀ c ∈ cs, isDigitOf 10 c = true ∨ c = '.' := by
  obtain ⟨rfl, hwhole, hfraction, -, -⟩ := h
  intro c hc
  rw [List.mem_append] at hc
  rcases hc with hc | hc
  · exact .inl (List.all_eq_true.mp hwhole c hc)
  · split at hc
    · cases hc
    · rcases List.mem_cons.mp hc with rfl | hc
      · exact .inr rfl
      · exact .inl (List.all_eq_true.mp hfraction c hc)

theorem IsPositional.decimalValue_eq {cs whole fraction : List Char}
    (h : IsPositional cs whole fraction) :
    decimalValue cs = ofScientific (ofDigits 10 (whole ++ fraction)) (-(fraction.length : Int)) := by
  obtain ⟨rfl, hwhole, hfraction, -, -⟩ := h
  cases fraction with
  | nil =>
      have htake := takeWhile_digits [] hwhole (fun _ h => by cases h)
      rw [List.append_nil] at htake
      simp [decimalValue, htake]
  | cons d fraction =>
      have htake := takeWhile_digits ('.' :: d :: fraction) hwhole (by
        rintro _ ⟨⟩
        decide)
      have htake' := takeWhile_digits [] hfraction (fun _ h => by cases h)
      rw [List.append_nil] at htake'
      simp [decimalValue, htake, htake']

/-- A positional text is read as the number that its digits write. -/
theorem IsPositional.literalValue_eq {cs whole fraction : List Char}
    (h : IsPositional cs whole fraction) :
    literalValue cs = ofScientific (ofDigits 10 (whole ++ fraction)) (-(fraction.length : Int)) := by
  have hplain : cs.filter (· != '_') = cs := List.filter_eq_self.mpr fun c hc => by
    rcases h.mem c hc with hdigit | rfl
    · exact bne_iff_ne.mpr fun heq => by
        rw [heq] at hdigit
        exact absurd hdigit (by decide)
    · rfl
  rw [← h.decimalValue_eq, literalValue, hplain]
  split
  · next mark digits =>
      have hmark : ∀ c ∈ ['x', 'X', 'o', 'O', 'b', 'B'], mark ≠ c := by
        have hother : ∀ c ∈ ['x', 'X', 'o', 'O', 'b', 'B'], isDigitOf 10 c = false ∧ c ≠ '.' :=
          List.forall_iff_forall_mem.mp (by decide)
        rintro c hc rfl
        obtain ⟨hdigit, hpoint⟩ := hother mark hc
        rcases h.mem mark (by simp) with h | h
        · rw [hdigit] at h
          cases h
        · exact hpoint h
      simp [hmark]
  · rfl

/-- The text of a finite number is read as this number. -/
theorem literalValue_text {m : Nat} {e : Int} (canonical : IsCanonical m e) :
    literalValue (finite m e).text.toList = finite m e := by
  rw [text, String.toList_ofList]
  obtain ⟨whole, fraction, positional, hvalue⟩ := (shortest m e).isPositional
  rw [positional.literalValue_eq]
  rcases Nat.eq_zero_or_pos m with rfl | hm
  · have hzero : ofDigits 10 (whole ++ fraction) = 0 := by
      have hproduct : (ofDigits 10 (whole ++ fraction) : ℚ) * 10 ^ (-(fraction.length : Int)) = 0 := by
        rw [hvalue]
        exact zero_mul _
      exact_mod_cast (mul_eq_zero.mp hproduct).resolve_right (zpow_ne_zero _ (by norm_num))
    have hleast : e = -1074 := canonical.full.resolve_left (by decide)
    rw [hzero, hleast]
    rfl
  · apply ofScientific_eq canonical hm
    rw [hvalue]
    exact near_shortest canonical hm

theorem ofScientific_canonical {digits m : Nat} {exponent e : Int}
    (h : ofScientific digits exponent = finite m e) : IsCanonical m e := by
  have hzero : IsCanonical 0 (-1074) := ⟨by decide, by decide, by decide, .inr rfl⟩
  simp only [ofScientific] at h
  split_ifs at h
  · cases h
    exact hzero
  · cases h
    exact hzero
  · exact ofFraction_canonical Nat.one_pos h
  · exact ofFraction_canonical (tenTo_pos _) h

/-- A number that is read from a literal has one significand and exponent. -/
theorem literalValue_canonical {cs : List Char} {m : Nat} {e : Int}
    (h : literalValue cs = finite m e) : IsCanonical m e := by
  unfold literalValue at h
  split at h
  · split_ifs at h
    · exact ofFraction_canonical Nat.one_pos h
    · exact ofFraction_canonical Nat.one_pos h
    · exact ofFraction_canonical Nat.one_pos h
    · exact ofScientific_canonical h
  · exact ofScientific_canonical h

/-- The text of a number that is read from a literal is read as this number again, unless the number
is too large to be finite. -/
theorem literalValue_text_literalValue {cs : List Char} (h : literalValue cs ≠ infinite) :
    literalValue (literalValue cs).text.toList = literalValue cs := by
  cases hvalue : literalValue cs with
  | finite m e => exact literalValue_text (literalValue_canonical hvalue)
  | infinite => exact absurd hvalue h

end SchemaGuards.Decimal
