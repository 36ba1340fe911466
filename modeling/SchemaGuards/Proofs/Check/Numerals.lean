import SchemaGuards.Check.Basic
import SchemaGuards.Proofs.Text.Languages

/-!
# The strings that convert to numbers

The grammar of the strings that write a number, as a language: blanks, an optional sign, a
mantissa, an optional exponent, blanks. The test for these strings reads the parts one after the
other and never goes back. It accepts the strings of the grammar and no other ones, so that these
are the strings that pass a check for a number.
-/

namespace SchemaGuards.Check

open Text
open scoped Computability

namespace Numeral

/-- The decimal digits of all scripts. -/
def digitChars : Set Char := {c | isDecimalDigit c = true}

def blankChars : Set Char := {c | isBlank c = true}

def signChars : Set Char := {'+', '-'}

def exponentMarks : Set Char := {'e', 'E'}

def blanks : Language Char := (oneOf blankChars)∗

def sign : Language Char := 1 + oneOf signChars

/-- One digit or more. -/
def digits : Language Char := oneOf digitChars * (oneOf digitChars)∗

/-- A point and any number of digits, or nothing. -/
def fraction : Language Char := 1 + oneOf {'.'} * (oneOf digitChars)∗

/-- Digits and an optional fraction, or a point and digits. -/
def mantissa : Language Char := digits * fraction + oneOf {'.'} * digits

/-- A mark, an optional sign and digits, or nothing. -/
def exponent : Language Char := 1 + oneOf exponentMarks * (sign * digits)

end Numeral

open Numeral

/-- The texts that write a number. -/
def numerals : Language Char := blanks * sign * mantissa * exponent * blanks

/-! ## First characters -/

variable {M : Language Char}

/-- The marks in a number are neither digits nor blanks. -/
theorem notMem_of_mark {c : Char} (h : c ∈ ['.', '+', '-', 'e', 'E']) :
    c ∉ digitChars ∧ c ∉ blankChars := by
  have hmarks : (['.', '+', '-', 'e', 'E'].all fun c =>
      !isDecimalDigit c && !isBlank c) = true := by decide
  have hmark := List.all_eq_true.mp hmarks c h
  rw [Bool.and_eq_true, Bool.not_eq_true', Bool.not_eq_true'] at hmark
  exact ⟨Bool.eq_false_iff.mp hmark.1, Bool.eq_false_iff.mp hmark.2⟩

theorem disjoint_blankChars_digitChars : Disjoint blankChars digitChars := by
  have apart : ∀ r ∈ blankRanges, ∀ r' ∈ decimalDigitRanges, r.2 < r'.1 ∨ r'.2 < r.1 := by
    decide +kernel
  refine Set.disjoint_left.mpr fun c hblank => ?_
  exact Bool.eq_false_iff.mp (CodeRanges.holds_eq_false_of_apart apart hblank)

theorem firsts_blanks_subset : firsts blanks ⊆ blankChars := firsts_kstar_oneOf_subset

theorem firsts_digits_subset : firsts digits ⊆ digitChars := firsts_oneOf_mul_subset

theorem nil_notMem_digits : [] ∉ digits := nil_notMem_oneOf_mul

theorem firsts_digits_mul_subset : firsts (digits * M) ⊆ digitChars :=
  (firsts_mul_subset_left nil_notMem_digits).trans firsts_digits_subset

theorem nil_notMem_mantissa : [] ∉ mantissa := by
  rintro (hdigits | hpoint)
  · exact nil_notMem_mul nil_notMem_digits hdigits
  · exact nil_notMem_oneOf_mul hpoint

theorem firsts_mantissa_mul_subset : firsts (mantissa * M) ⊆ {'.'} ∪ digitChars := by
  apply (firsts_mul_subset_left nil_notMem_mantissa).trans
  rintro c ⟨word, hdigits | hpoint⟩
  · exact .inr (firsts_digits_mul_subset ⟨word, hdigits⟩)
  · exact .inl (firsts_oneOf_mul_subset ⟨word, hpoint⟩)

theorem firsts_sign_subset : firsts sign ⊆ signChars := by
  have h : firsts (1 + oneOf signChars * 1) ⊆ signChars := firsts_optional_subset
  rwa [mul_one] at h

theorem firsts_exponent_subset : firsts exponent ⊆ exponentMarks := firsts_optional_subset

/-! ## Readers of the parts -/

theorem takesOff_dropSign : TakesOff (fun cs => some (dropSign cs)) sign signChars := by
  have h : TakesOff (fun cs => some (dropSign cs)) (1 + oneOf signChars * 1) (signChars ∪ ∅) := by
    refine takesOff_some.optional ?_ ?_
    · rintro c (rfl | rfl) cs
      · rfl
      · rfl
    · intro cs ends
      unfold dropSign
      split
      · exact absurd (.inl rfl) (ends '+' rfl)
      · exact absurd (.inr rfl) (ends '-' rfl)
      · rfl
  rwa [mul_one, Set.union_empty] at h

/-- What follows one digit or more. -/
def afterDigits? (cs : List Char) : Option (List Char) :=
  if cs.head?.any isDecimalDigit then some (cs.dropWhile isDecimalDigit) else none

theorem takesOff_afterDigits? : TakesOff afterDigits? digits digitChars where
  exists_word := by
    intro cs rest h
    rw [afterDigits?] at h
    split at h
    · next hfirst =>
      cases cs with
      | nil => cases hfirst
      | cons c cs =>
          have hc : isDecimalDigit c = true := hfirst
          rw [List.dropWhile_cons_of_pos hc] at h
          obtain ⟨word, hword, rfl⟩ := (takesOff_dropWhile isDecimalDigit).exists_word h
          exact ⟨[c] ++ word, Language.append_mem_mul ⟨c, hc, rfl⟩ hword, rfl⟩
    · cases h
  append := by
    rintro _ rest ⟨_, ⟨c, hc, rfl⟩, word, hword, rfl⟩ ends
    have hc : isDecimalDigit c = true := hc
    have hfirst : (c :: (word ++ rest)).head?.any isDecimalDigit = true := hc
    change afterDigits? (c :: (word ++ rest)) = some rest
    rw [afterDigits?, if_pos hfirst, List.dropWhile_cons_of_pos hc]
    exact (takesOff_dropWhile isDecimalDigit).append hword ends

/-- What follows an optional fraction. -/
def afterFraction : List Char → List Char
  | '.' :: rest => rest.dropWhile isDecimalDigit
  | cs => cs

theorem afterFraction_of_startsOutside {cs : List Char} (h : StartsOutside {'.'} cs) :
    afterFraction cs = cs := by
  unfold afterFraction
  split
  · exact absurd rfl (h '.' rfl)
  · rfl

theorem takesOff_afterFraction :
    TakesOff (fun cs => some (afterFraction cs)) fraction ({'.'} ∪ digitChars) := by
  refine (takesOff_dropWhile isDecimalDigit).optional ?_ ?_
  · rintro c rfl cs
    rfl
  · intro cs ends
    rw [afterFraction_of_startsOutside ends]

/-- A mantissa that does not start with a point is read as digits and a fraction. -/
theorem afterMantissa?_of_startsOutside {cs : List Char} (h : StartsOutside {'.'} cs) :
    afterMantissa? cs = (afterDigits? cs).bind fun rest => some (afterFraction rest) := by
  unfold afterMantissa? afterDigits?
  split
  · exact absurd rfl (h '.' rfl)
  · by_cases hfirst : cs.head?.any isDecimalDigit = true
    · rw [if_pos hfirst, if_pos hfirst, Option.bind_some]
      generalize cs.dropWhile isDecimalDigit = rest
      cases rest with
      | nil => rfl
      | cons c rest =>
          by_cases hc : c = '.'
          · subst hc
            rfl
          · simp [afterFraction, hc]
    · rw [if_neg hfirst, if_neg hfirst, Option.bind_none]

theorem takesOff_afterMantissa? : TakesOff afterMantissa? mantissa ({'.'} ∪ digitChars) := by
  have hfraction : Disjoint (firsts fraction) digitChars := by
    apply Disjoint.mono_left firsts_optional_subset
    simp [notMem_of_mark]
  have hdigits : Disjoint (firsts (digits * fraction)) {'.'} := by
    apply Disjoint.mono_left firsts_digits_mul_subset
    simp [notMem_of_mark]
  have marked : ∀ c ∈ ({'.'} : Set Char), ∀ cs, afterMantissa? (c :: cs) = afterDigits? cs := by
    rintro c rfl cs
    rfl
  have h := (takesOff_afterDigits?.bind takesOff_afterFraction hfraction).choice
    takesOff_afterDigits? marked (fun _ => afterMantissa?_of_startsOutside) hdigits
  -- A mantissa without a point could still go on with one, hence the point in the set.
  apply h.mono
  rintro c (hpoint | (hdigit | hfraction) | hdigit)
  · exact .inl hpoint
  · exact .inr hdigit
  · exact hfraction
  · exact .inr hdigit

theorem takesOff_afterExponent? :
    TakesOff afterExponent? exponent (exponentMarks ∪ (signChars ∪ digitChars)) := by
  have apart : Disjoint (firsts digits) signChars := by
    apply Disjoint.mono_left firsts_digits_subset
    simp [signChars, notMem_of_mark]
  refine (takesOff_dropSign.bind takesOff_afterDigits? apart).optional ?_ ?_
  · rintro c (rfl | rfl) cs
    · rfl
    · rfl
  · intro cs ends
    cases cs with
    | nil => rfl
    | cons c cs =>
        have hmark : ¬ (decide (c = 'e') || decide (c = 'E')) = true := by
          simpa [exponentMarks] using ends c rfl
        exact if_neg hmark

/-! ## The test and the grammar -/

/-- The test goes through the parts from the left to the right. -/
theorem isNumeral_eq_any (cs : List Char) :
    isNumeral cs = (some (cs.dropWhile isBlank)).any fun cs => (some (dropSign cs)).any fun cs =>
      (afterMantissa? cs).any fun cs => (afterExponent? cs).any fun cs => cs.all isBlank := by
  rw [isNumeral, Option.any_some, Option.any_some]
  cases afterMantissa? (dropSign (cs.dropWhile isBlank)) with
  | none => rfl
  | some rest =>
      rw [Option.any_some]
      cases h : afterExponent? rest with
      | none => simp [h]
      | some rest => simp [h]

/-- The test is for the grammar: no part can start as the part before it goes on. -/
theorem isNumeral_iff_mem (cs : List Char) : isNumeral cs = true ↔ cs ∈ numerals := by
  have hend : ∀ cs : List Char, cs.all isBlank = true ↔ cs ∈ blanks := by
    intro cs
    rw [List.all_eq_true]
    exact mem_kstar_oneOf_iff.symm
  have hexponent : Disjoint (firsts blanks) (exponentMarks ∪ (signChars ∪ digitChars)) := by
    apply Disjoint.mono_left firsts_blanks_subset
    simp [exponentMarks, signChars, notMem_of_mark, disjoint_blankChars_digitChars]
  have hmantissa : Disjoint (firsts (exponent * blanks)) ({'.'} ∪ digitChars) := by
    apply Disjoint.mono_left (firsts_mul_subset.trans
      (Set.union_subset_union firsts_exponent_subset firsts_blanks_subset))
    simp [exponentMarks, notMem_of_mark, disjoint_blankChars_digitChars]
  have hsign : Disjoint (firsts (mantissa * (exponent * blanks))) signChars := by
    apply Disjoint.mono_left firsts_mantissa_mul_subset
    simp [signChars, notMem_of_mark]
  have hblanks : Disjoint (firsts (sign * (mantissa * (exponent * blanks)))) blankChars := by
    apply Disjoint.mono_left (firsts_mul_subset.trans
      (Set.union_subset_union firsts_sign_subset firsts_mantissa_mul_subset))
    simp [signChars, notMem_of_mark, disjoint_blankChars_digitChars.symm]
  -- The last part is tested first: each reader needs a test of all that follows it.
  have fromExponent := takesOff_afterExponent?.any_iff_mem_mul hend hexponent
  have fromMantissa := takesOff_afterMantissa?.any_iff_mem_mul fromExponent hmantissa
  have fromSign := takesOff_dropSign.any_iff_mem_mul fromMantissa hsign
  have fromBlanks := (takesOff_dropWhile isBlank).any_iff_mem_mul fromSign hblanks
  rw [isNumeral_eq_any, numerals, mul_assoc, mul_assoc, mul_assoc]
  exact fromBlanks cs

instance (cs : List Char) : Decidable (cs ∈ numerals) :=
  decidable_of_iff _ (isNumeral_iff_mem cs)

/-- The point needs digits on one side only. -/
example : [' ', '+', '1', '.', 'E', '5'] ∈ numerals := by decide +kernel

/-- An exponent that is begun must be complete. -/
example : ['1', 'e', '+'] ∉ numerals := by decide +kernel

/-- A string converts to a number exactly if it can be cut into blanks, an optional sign, a
mantissa, an optional exponent and blanks. Wherever a number is expected, such a string passes, and
any other one is told to be no number. -/
theorem numerals_exactly_accepted (s : String) :
    (isNumeral s.toList = true ↔ s.toList ∈ numerals) ∧
    ∀ (bindings : List Binding) (chain : List String) (path : List Segment) (required : Bool),
      check bindings chain path (.primitive .number required) (some (.text s)) =
        if s.toList ∈ numerals then .ok ()
        else .error (.violation path (.notPrimitive .number)) := by
  refine ⟨isNumeral_iff_mem s.toList, ?_⟩
  intro bindings chain path required
  rw [check]
  change (if isNumeral s.toList = true then .ok () else violated path (.notPrimitive .number)) = _
  simp only [isNumeral_iff_mem, violated]

end SchemaGuards.Check
