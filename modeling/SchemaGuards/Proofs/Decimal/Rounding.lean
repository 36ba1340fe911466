import Mathlib.Data.Int.Log
import Mathlib.Data.Rat.Floor
import Mathlib.Algebra.Order.Floor.Semifield
import Mathlib.Tactic.FieldSimp
import Mathlib.Tactic.GCongr
import Mathlib.Tactic.Linarith
import Mathlib.Tactic.NormNum
import Mathlib.Tactic.Positivity
import Mathlib.Tactic.Ring
import SchemaGuards.Decimal.Shortest

/-!
# Rounding to the nearest floating point number

A fraction is rounded to `m * 2 ^ e` exactly where it lies in the interval of that number: between
the midpoints to its neighbours, and on a midpoint when `m` is even.
-/

namespace SchemaGuards.Decimal

/-! ## Powers and logarithms -/

theorem cast_twoTo (n : Nat) : ((twoTo n : Nat) : ℚ) = 2 ^ n := by
  rw [twoTo, Nat.pow_eq, Nat.cast_pow, Nat.cast_ofNat]

theorem cast_tenTo (n : Nat) : ((tenTo n : Nat) : ℚ) = 10 ^ n := by
  rw [tenTo, Nat.pow_eq, Nat.cast_pow, Nat.cast_ofNat]

theorem twoTo_zpow_pos (e : Int) : (0 : ℚ) < 2 ^ e := zpow_pos (by norm_num) e

/-- A fraction in units of a power of two. -/
theorem shifted_eq (num : Nat) {den : Nat} (hden : 0 < den) (e : Int) :
    0 < (shifted num den e).2 ∧
      ((shifted num den e).1 : ℚ) / (shifted num den e).2 = num / den / 2 ^ e := by
  have hden' : (0 : ℚ) < den := by exact_mod_cast hden
  unfold shifted
  split
  · next he =>
      obtain ⟨n, rfl⟩ := Int.eq_ofNat_of_zero_le he
      refine ⟨Nat.mul_pos hden (twoTo_pos _), ?_⟩
      rw [Int.toNat_natCast, Nat.cast_mul, cast_twoTo, zpow_natCast, div_div]
  · next he =>
      obtain ⟨n, hn⟩ : ∃ n : Nat, e = -n := ⟨(-e).toNat, by omega⟩
      subst hn
      refine ⟨hden, ?_⟩
      rw [neg_neg, Int.toNat_natCast, Nat.cast_mul, cast_twoTo, zpow_neg, zpow_natCast, div_inv_eq_mul,
        mul_div_right_comm]

/-- A logarithm lies between the powers around a number. -/
theorem log_eq_iff {x : ℚ} (hx : 0 < x) (k : Int) :
    Int.log 2 x = k ↔ 2 ^ k ≤ x ∧ x < 2 ^ (k + 1) := by
  have hle : ((2 : Nat) : ℚ) ^ k ≤ x ↔ k ≤ Int.log 2 x :=
    Int.zpow_le_iff_le_log (by decide) hx
  have hlt : x < ((2 : Nat) : ℚ) ^ (k + 1) ↔ Int.log 2 x < k + 1 :=
    Int.lt_zpow_iff_log_lt (by decide) hx
  push_cast at hle hlt
  rw [hle, hlt]
  omega

theorem log2Fraction_eq {num den : Nat} (hnum : 0 < num) (hden : 0 < den) :
    log2Fraction num den = Int.log 2 ((num : ℚ) / den) := by
  have hnum' : (0 : ℚ) < num := by exact_mod_cast hnum
  have hden' : (0 : ℚ) < den := by exact_mod_cast hden
  have hx : (0 : ℚ) < num / den := div_pos hnum' hden'
  have hn₁ : (2 : ℚ) ^ num.log2 ≤ num := by exact_mod_cast Nat.log2_self_le hnum.ne'
  have hn₂ : (num : ℚ) < 2 ^ (num.log2 + 1) := by exact_mod_cast Nat.lt_log2_self
  have hd₁ : (2 : ℚ) ^ den.log2 ≤ den := by exact_mod_cast Nat.log2_self_le hden.ne'
  have hd₂ : (den : ℚ) < 2 ^ (den.log2 + 1) := by exact_mod_cast Nat.lt_log2_self
  have hpow (a b : Nat) : (2 : ℚ) ^ ((a : Int) - b) = 2 ^ a / 2 ^ b := by
    rw [zpow_sub₀ (by norm_num), zpow_natCast, zpow_natCast]
  -- The quotient of the powers of two is at most one power off.
  have hlow : (2 : ℚ) ^ ((num.log2 : Int) - den.log2 - 1) < num / den := by
    have he : (num.log2 : Int) - den.log2 - 1 = (num.log2 : Int) - (den.log2 + 1 : Nat) := by
      push_cast
      ring
    rw [he, hpow, div_lt_div_iff₀ (by positivity) hden']
    calc (2 : ℚ) ^ num.log2 * den ≤ num * den := by gcongr
      _ < num * 2 ^ (den.log2 + 1) := by gcongr
  have hhigh : (num : ℚ) / den < 2 ^ ((num.log2 : Int) - den.log2 + 1) := by
    have he : (num.log2 : Int) - den.log2 + 1 = ((num.log2 + 1 : Nat) : Int) - den.log2 := by
      push_cast
      ring
    rw [he, hpow, div_lt_div_iff₀ hden' (by positivity)]
    calc (num : ℚ) * 2 ^ den.log2 ≤ num * den := by gcongr
      _ < 2 ^ (num.log2 + 1) * den := by gcongr
  obtain ⟨hpos, hscaled⟩ := shifted_eq num hden ((num.log2 : Int) - den.log2)
  have hless : (shifted num den ((num.log2 : Int) - den.log2)).1 <
      (shifted num den ((num.log2 : Int) - den.log2)).2 ↔
      (num : ℚ) / den < 2 ^ ((num.log2 : Int) - den.log2) := by
    rw [← div_lt_one (twoTo_zpow_pos _), ← hscaled, div_lt_one (by exact_mod_cast hpos)]
    exact Nat.cast_lt.symm
  unfold log2Fraction
  simp only [hless]
  symm
  split
  · next h =>
      refine (log_eq_iff hx _).mpr ⟨hlow.le, ?_⟩
      rw [sub_add_cancel]
      exact h
  · next h => exact (log_eq_iff hx _).mpr ⟨not_lt.mp h, hhigh⟩

/-! ## Rounding of quotients -/

theorem roundedQuotient_bounds (num den : Nat) :
    num / den ≤ roundedQuotient num den ∧ roundedQuotient num den ≤ num / den + 1 := by
  simp only [roundedQuotient]
  split_ifs <;> omega

/-- A quotient is rounded to a number at most half a unit away, if that is even or nearer. -/
theorem roundedQuotient_eq {num den n : Nat} (hden : 0 < den)
    (low : (n : ℚ) - 1 / 2 ≤ num / den) (high : (num : ℚ) / den ≤ n + 1 / 2)
    (tie : n % 2 = 0 ∨ (n : ℚ) - 1 / 2 < num / den ∧ (num : ℚ) / den < n + 1 / 2) :
    roundedQuotient num den = n := by
  have hden' : (0 : ℚ) < den := by exact_mod_cast hden
  have hsplit : den * (num / den) + num % den = num := Nat.div_add_mod num den
  have hrest : num % den < den := Nat.mod_lt num hden
  rw [le_div_iff₀ hden'] at low
  rw [div_le_iff₀ hden'] at high
  rw [lt_div_iff₀ hden', div_lt_iff₀ hden'] at tie
  have hlow : 2 * (den * n) ≤ 2 * num + den := by
    have : (2 * (den * n) : ℚ) ≤ 2 * num + den := by linarith
    exact_mod_cast this
  have hhigh : 2 * num ≤ 2 * (den * n) + den := by
    have : (2 * num : ℚ) ≤ 2 * (den * n) + den := by linarith
    exact_mod_cast this
  have htie : n % 2 = 0 ∨ 2 * (den * n) < 2 * num + den ∧ 2 * num < 2 * (den * n) + den := by
    refine tie.imp_right fun ⟨hl, hh⟩ => ⟨?_, ?_⟩
    · have : (2 * (den * n) : ℚ) < 2 * num + den := by linarith
      exact_mod_cast this
    · have : (2 * num : ℚ) < 2 * (den * n) + den := by linarith
      exact_mod_cast this
  clear low high tie hden'
  simp only [roundedQuotient]
  generalize num / den = q at *
  generalize num % den = r at *
  -- The number is the quotient or the one above it.
  have hnear : n = q ∨ n = q + 1 := by
    have hle : den * n < den * (q + 2) := by
      rw [Nat.mul_add]
      omega
    have hge : den * q < den * (n + 1) := by
      rw [Nat.mul_add]
      omega
    have hle' := Nat.lt_of_mul_lt_mul_left hle
    have hge' := Nat.lt_of_mul_lt_mul_left hge
    omega
  obtain rfl | rfl := hnear
  · generalize den * n = t at *
    split_ifs <;> omega
  · rw [Nat.mul_add] at hlow hhigh htie
    generalize den * q = t at *
    split_ifs <;> omega

namespace Binary64

/-- The number is written with the only significand and exponent that it has. -/
structure IsCanonical (m : Nat) (e : Int) : Prop where
  small : m < 2 ^ 53
  least : -1074 ≤ e
  greatest : e ≤ 971
  full : 2 ^ 52 ≤ m ∨ e = -1074

/-- A rounded significand with its exponent, which is one more when the rounding carries. -/
def carried (m : Nat) (e : Int) : Binary64 :=
  if m = 2 ^ 53 then if 971 < e + 1 then infinite else finite (2 ^ 52) (e + 1)
  else if 971 < e then infinite else finite m e

/-- A fraction is rounded in units of a power of two, which its logarithm decides. -/
theorem ofFraction_eq_carried {num den : Nat} {e : Int} (hnum : 0 < num) (hden : 0 < den)
    (he : max (Int.log 2 ((num : ℚ) / den) - 52) (-1074) = e) :
    ∃ a b : Nat, 0 < b ∧ (a : ℚ) / b = num / den / 2 ^ e ∧
      ofFraction num den = carried (roundedQuotient a b) e := by
  obtain ⟨hpos, hscaled⟩ := shifted_eq num hden e
  refine ⟨_, _, hpos, hscaled, ?_⟩
  have htwo : twoTo 53 = 2 ^ 53 ∧ twoTo 52 = 2 ^ 52 := ⟨rfl, rfl⟩
  simp only [ofFraction, if_neg hnum.ne', log2Fraction_eq hnum hden, he, htwo.1, htwo.2, carried]
  generalize roundedQuotient _ _ = q
  by_cases hq : q = 2 ^ 53
  · simp only [if_pos hq]
  · simp only [if_neg hq]

theorem carried_canonical {m m' : Nat} {e e' : Int} (small : m ≤ 2 ^ 53) (least : -1074 ≤ e)
    (full : 2 ^ 52 ≤ m ∨ e = -1074) (h : carried m e = finite m' e') : IsCanonical m' e' := by
  unfold carried at h
  split at h
  · split at h <;> cases h
    exact ⟨by decide, by omega, by omega, .inl (Nat.le_refl _)⟩
  · split at h <;> cases h
    exact ⟨by omega, least, by omega, full⟩

theorem ofFraction_canonical {num den m : Nat} {e : Int} (hden : 0 < den)
    (h : ofFraction num den = finite m e) : IsCanonical m e := by
  rcases Nat.eq_zero_or_pos num with rfl | hnum
  · have hzero : ofFraction 0 den = finite 0 (-1074) := rfl
    cases hzero.symm.trans h
    exact ⟨by decide, by decide, by decide, .inr rfl⟩
  · have hx : (0 : ℚ) < num / den := div_pos (by exact_mod_cast hnum) (by exact_mod_cast hden)
    obtain ⟨hlow, hhigh⟩ := (log_eq_iff hx _).mp rfl
    obtain ⟨a, b, hpos, hscaled, hcarried⟩ := ofFraction_eq_carried hnum hden rfl
    generalize hk : Int.log 2 ((num : ℚ) / den) = k at *
    generalize he : max (k - 52) (-1074) = e₀ at *
    obtain ⟨hfloor, hceil⟩ := roundedQuotient_bounds a b
    have hpos' : (0 : ℚ) < b := by exact_mod_cast hpos
    have hbelow : a / b < 2 ^ 53 := by
      apply (Nat.div_lt_iff_lt_mul hpos).mpr
      have : (a : ℚ) < 2 ^ 53 * b := by
        rw [← div_lt_iff₀ hpos', hscaled, div_lt_iff₀ (twoTo_zpow_pos e₀)]
        calc (num : ℚ) / den < 2 ^ (k + 1) := hhigh
          _ ≤ 2 ^ (53 + e₀) := zpow_le_zpow_right₀ (by norm_num) (by omega)
          _ = 2 ^ 53 * 2 ^ e₀ := by rw [zpow_add₀ (by norm_num)]; rfl
      exact_mod_cast this
    have habove : e₀ ≠ -1074 → 2 ^ 52 ≤ a / b := by
      intro hne
      apply (Nat.le_div_iff_mul_le hpos).mpr
      have : (2 ^ 52 * b : ℚ) ≤ a := by
        rw [← le_div_iff₀ hpos', hscaled, le_div_iff₀ (twoTo_zpow_pos e₀)]
        calc (2 : ℚ) ^ 52 * 2 ^ e₀ = 2 ^ (52 + e₀) := by rw [zpow_add₀ (by norm_num)]; rfl
          _ ≤ 2 ^ k := zpow_le_zpow_right₀ (by norm_num) (by omega)
          _ ≤ num / den := hlow
      exact_mod_cast this
    rw [hcarried] at h
    refine carried_canonical (by omega) (by omega) ?_ h
    by_cases hne : e₀ = -1074
    · exact .inr hne
    · exact .inl (Nat.le_trans (habove hne) hfloor)

/-- How far the interval of a number reaches below it, in units of its last place. Below a power of
two the next number is only half as far. -/
def reach (m : Nat) (e : Int) : ℚ := if m = 2 ^ 52 ∧ -1074 < e then 1 / 4 else 1 / 2

/-- A number lies between the midpoints around a floating point number. It may lie on one of them if
the significand is even. -/
structure Near (m : Nat) (e : Int) (x : ℚ) : Prop where
  low : m - reach m e ≤ x / 2 ^ e
  high : x / 2 ^ e ≤ m + 1 / 2
  tie : m % 2 = 0 ∨ m - reach m e < x / 2 ^ e ∧ x / 2 ^ e < m + 1 / 2

theorem reach_cases (m : Nat) (e : Int) :
    m = 2 ^ 52 ∧ -1074 < e ∧ reach m e = 1 / 4 ∨ ¬ (m = 2 ^ 52 ∧ -1074 < e) ∧ reach m e = 1 / 2 := by
  unfold reach
  split
  · next h => exact .inl ⟨h.1, h.2, rfl⟩
  · next h => exact .inr ⟨h, rfl⟩

theorem reach_le (m : Nat) (e : Int) : reach m e ≤ 1 / 2 := by
  obtain ⟨-, -, h⟩ | ⟨-, h⟩ := reach_cases m e
  · rw [h]
    norm_num
  · exact h.le

theorem Near.pos {m : Nat} {e : Int} {x : ℚ} (h : Near m e x) (hm : 0 < m) : 0 < x := by
  have hm' : (1 : ℚ) ≤ m := by exact_mod_cast hm
  have hlow := h.low
  have hreach := reach_le m e
  have hunit : (0 : ℚ) < x / 2 ^ e := by linarith
  exact (div_pos_iff_of_pos_right (twoTo_zpow_pos e)).mp hunit

theorem log_lt_iff {x : ℚ} (hx : 0 < x) (k : Nat) (e : Int) :
    Int.log 2 x < k + e ↔ x / 2 ^ e < 2 ^ k := by
  have hlog : x < ((2 : Nat) : ℚ) ^ (k + e) ↔ Int.log 2 x < k + e :=
    Int.lt_zpow_iff_log_lt (by decide) hx
  rw [Nat.cast_ofNat] at hlog
  rw [div_lt_iff₀ (twoTo_zpow_pos e), ← zpow_natCast, ← zpow_add₀ (by norm_num), hlog]

/-- A fraction that is rounded in units of the last place of the number near it. -/
theorem ofFraction_eq_of_unit {num den m : Nat} {e : Int} (canonical : IsCanonical m e)
    (hnum : 0 < num) (hden : 0 < den) (near : Near m e (num / den))
    (he : max (Int.log 2 ((num : ℚ) / den) - 52) (-1074) = e) : ofFraction num den = finite m e := by
  obtain ⟨low, high, tie⟩ := near
  obtain ⟨a, b, hb, hscaled, hcarried⟩ := ofFraction_eq_carried hnum hden he
  rw [← hscaled] at low high tie
  have hreach := reach_le m e
  have hquotient : roundedQuotient a b = m := by
    refine roundedQuotient_eq hb (by linarith) high ?_
    exact tie.imp_right fun ⟨hl, hh⟩ => ⟨by linarith, hh⟩
  have hsmall := canonical.small
  have hgreatest := canonical.greatest
  rw [hcarried, hquotient, carried, if_neg (by omega), if_neg (by omega)]

/-- A fraction just below a power of two is rounded in half the units, and the rounding carries. -/
theorem ofFraction_eq_of_carry {num den : Nat} {e : Int} (hnum : 0 < num) (hden : 0 < den)
    (least : -1074 < e) (greatest : e ≤ 971) (low : (2 : ℚ) ^ 52 - 1 / 4 ≤ num / den / 2 ^ e)
    (high : (num : ℚ) / den / 2 ^ e < 2 ^ 52) : ofFraction num den = finite (2 ^ 52) e := by
  have hx : (0 : ℚ) < num / den := div_pos (by exact_mod_cast hnum) (by exact_mod_cast hden)
  have he : max (Int.log 2 ((num : ℚ) / den) - 52) (-1074) = e - 1 := by
    have hunder : Int.log 2 ((num : ℚ) / den) < (52 : Nat) + e := (log_lt_iff hx 52 e).mpr high
    have hover : ¬ Int.log 2 ((num : ℚ) / den) < (51 : Nat) + e :=
      (log_lt_iff hx 51 e).not.mpr (by linarith)
    omega
  obtain ⟨a, b, hb, hscaled, hcarried⟩ := ofFraction_eq_carried hnum hden he
  have hhalves : (num : ℚ) / den / 2 ^ (e - 1) = 2 * (num / den / 2 ^ e) := by
    rw [zpow_sub_one₀ (by norm_num)]
    field_simp
  rw [hhalves] at hscaled
  have hquotient : roundedQuotient a b = 2 ^ 53 := by
    refine roundedQuotient_eq hb ?_ ?_ (.inl rfl)
    · rw [hscaled]
      push_cast
      linarith
    · rw [hscaled]
      push_cast
      linarith
  rw [hcarried, hquotient, carried, if_pos rfl, sub_add_cancel, if_neg (by omega)]

/-- A fraction is rounded to the floating point number whose interval it lies in. -/
theorem ofFraction_eq {num den m : Nat} {e : Int} (canonical : IsCanonical m e) (hm : 0 < m)
    (hden : 0 < den) (near : Near m e (num / den)) : ofFraction num den = finite m e := by
  have hx : (0 : ℚ) < num / den := near.pos hm
  have hnum : 0 < num := by
    have hden' : (0 : ℚ) < den := by exact_mod_cast hden
    have : (0 : ℚ) < num := (div_pos_iff_of_pos_right hden').mp hx
    exact_mod_cast this
  have hsmall : (m : ℚ) + 1 ≤ 2 ^ 53 := by exact_mod_cast canonical.small
  have hreach := reach_le m e
  have hbelow : Int.log 2 ((num : ℚ) / den) < (53 : Nat) + e :=
    (log_lt_iff hx 53 e).mpr (by linarith [near.high])
  by_cases hinside : e = -1074 ∨ (52 : Nat) + e ≤ Int.log 2 ((num : ℚ) / den)
  · apply ofFraction_eq_of_unit canonical hnum hden near
    have := canonical.least
    omega
  · push Not at hinside
    obtain ⟨hne, hunder⟩ := hinside
    have hless := (log_lt_iff hx 52 e).mp hunder
    -- Only a power of two is near a fraction below it.
    have hpower : m = 2 ^ 52 := by
      have hfull := canonical.full.resolve_right hne
      have : (m : ℚ) < (2 ^ 52 + 1 : Nat) := by
        push_cast
        linarith [near.low]
      have : m < 2 ^ 52 + 1 := by exact_mod_cast this
      omega
    have hleast : -1074 < e := lt_of_le_of_ne canonical.least (Ne.symm hne)
    have hquarter : reach m e = 1 / 4 := if_pos ⟨hpower, hleast⟩
    have hlow := near.low
    rw [hquarter, hpower] at hlow
    rw [hpower]
    refine ofFraction_eq_of_carry hnum hden hleast canonical.greatest ?_ hless
    push_cast at hlow
    exact hlow

end Binary64

end SchemaGuards.Decimal
