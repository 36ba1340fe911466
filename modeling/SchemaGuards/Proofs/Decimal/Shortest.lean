import SchemaGuards.Proofs.Decimal.Rounding

/-!
# The shortest decimal number

The search for the shortest decimal number always ends on a grid point, and that rounds to the
floating point number again.
-/

namespace SchemaGuards.Decimal

open Binary64

namespace Interval

/-- The unit of an interval. -/
def unit (i : Interval) : ℚ := i.num / i.den

/-- A number lies in an interval. -/
structure Contains (i : Interval) (x : ℚ) : Prop where
  low : i.low * i.unit ≤ x
  high : x ≤ i.high * i.unit
  ends : i.closed = true ∨ i.low * i.unit < x ∧ x < i.high * i.unit

/-- The factor of the unit, where it is compared with grid points. -/
def grow (i : Interval) (p : Int) : Nat := if p < 0 then tenTo (-p).toNat * i.num else i.num

/-- The factor of grid points, where they are compared with the unit. -/
def step (i : Interval) (p : Int) : Nat := if p < 0 then i.den else tenTo p.toNat * i.den

theorem step_pos {i : Interval} (hden : 0 < i.den) (p : Int) : 0 < i.step p := by
  unfold step
  split
  · exact hden
  · exact Nat.mul_pos (tenTo_pos _) hden

theorem unit_eq {i : Interval} (hden : 0 < i.den) (p : Int) :
    i.unit = i.grow p / i.step p * 10 ^ p := by
  have hden' : (i.den : ℚ) ≠ 0 := by exact_mod_cast hden.ne'
  unfold grow step
  split
  · next hp =>
      obtain ⟨n, rfl⟩ : ∃ n : Nat, p = -n := ⟨(-p).toNat, by omega⟩
      rw [neg_neg, Int.toNat_natCast, Nat.cast_mul, cast_tenTo, zpow_neg, zpow_natCast, unit]
      field_simp
  · next hp =>
      obtain ⟨n, rfl⟩ := Int.eq_ofNat_of_zero_le (not_lt.mp hp)
      rw [Int.toNat_natCast, Nat.cast_mul, cast_tenTo, zpow_natCast, unit]
      field_simp

theorem grow_le_step_iff {i : Interval} (hden : 0 < i.den) (p : Int) (a k : Nat) :
    a * i.grow p ≤ k * i.step p ↔ a * i.unit ≤ k * (10 : ℚ) ^ p := by
  have hgrid : (0 : ℚ) < 10 ^ p := zpow_pos (by norm_num) p
  have hstep : (0 : ℚ) < i.step p := by exact_mod_cast step_pos hden p
  rw [unit_eq hden p, ← mul_assoc, mul_le_mul_iff_of_pos_right hgrid, mul_div, div_le_iff₀ hstep]
  exact_mod_cast Iff.rfl

theorem step_le_grow_iff {i : Interval} (hden : 0 < i.den) (p : Int) (a k : Nat) :
    k * i.step p ≤ a * i.grow p ↔ k * (10 : ℚ) ^ p ≤ a * i.unit := by
  have hgrid : (0 : ℚ) < 10 ^ p := zpow_pos (by norm_num) p
  have hstep : (0 : ℚ) < i.step p := by exact_mod_cast step_pos hden p
  rw [unit_eq hden p, ← mul_assoc, mul_le_mul_iff_of_pos_right hgrid, mul_div, le_div_iff₀ hstep]
  exact_mod_cast Iff.rfl

/-- The test of a grid point. -/
def admits (i : Interval) (p : Int) (k : Nat) : Bool :=
  if i.closed then i.low * i.grow p ≤ k * i.step p && k * i.step p ≤ i.high * i.grow p
  else i.low * i.grow p < k * i.step p && k * i.step p < i.high * i.grow p

theorem admits_iff {i : Interval} (hden : 0 < i.den) (p : Int) (k : Nat) :
    i.admits p k = true ↔ i.Contains (k * 10 ^ p) := by
  unfold admits
  cases hclosed : i.closed with
  | true =>
      simp only [if_true, Bool.and_eq_true, decide_eq_true_eq, grow_le_step_iff hden,
        step_le_grow_iff hden]
      exact ⟨fun h => ⟨h.1, h.2, .inl hclosed⟩, fun h => ⟨h.low, h.high⟩⟩
  | false =>
      simp only [Bool.false_eq_true, if_false, Bool.and_eq_true, decide_eq_true_eq, ← not_le,
        grow_le_step_iff hden, step_le_grow_iff hden]
      simp only [not_le]
      refine ⟨fun h => ⟨h.1.le, h.2.le, .inr h⟩, fun h => h.ends.resolve_left ?_⟩
      rw [hclosed]
      exact Bool.false_ne_true

/-- The grid point below the value. -/
def below (i : Interval) (p : Int) : Nat := i.value * i.grow p / i.step p

theorem below_spec {i : Interval} (hden : 0 < i.den) (p : Int) :
    i.below p * (10 : ℚ) ^ p ≤ i.value * i.unit ∧
      i.value * i.unit < (i.below p + 1 : Nat) * (10 : ℚ) ^ p := by
  rw [← step_le_grow_iff hden, ← not_le, ← step_le_grow_iff hden, not_le]
  exact ⟨Nat.div_mul_le_self _ _, (Nat.div_lt_iff_lt_mul (step_pos hden p)).mp (Nat.lt_succ_self _)⟩

/-- A hit on a grid is one of the two points around the value; of two admitted ones it is the
nearer. -/
theorem gridPoint?_eq (i : Interval) (p : Int) : i.gridPoint? p =
    match i.admits p (i.below p), i.admits p (i.below p + 1) with
    | true, true =>
      some (if i.value * i.grow p - i.below p * i.step p ≤
        (i.below p + 1) * i.step p - i.value * i.grow p then i.below p else i.below p + 1)
    | true, false => some (i.below p)
    | false, true => some (i.below p + 1)
    | false, false => none := rfl

theorem admits_of_gridPoint? {i : Interval} {p : Int} {k : Nat} (h : i.gridPoint? p = some k) :
    i.admits p k = true := by
  rw [gridPoint?_eq] at h
  cases hlow : i.admits p (i.below p) <;> cases hhigh : i.admits p (i.below p + 1) <;>
    simp only [hlow, hhigh, Option.some.injEq, reduceCtorEq] at h
  · exact h ▸ hhigh
  · exact h ▸ hlow
  · rw [← h]
    split
    · exact hlow
    · exact hhigh

theorem exists_gridPoint? {i : Interval} {p : Int} (h : i.admits p (i.below p + 1) = true) :
    ∃ k, i.gridPoint? p = some k := by
  rw [gridPoint?_eq, h]
  cases i.admits p (i.below p) with
  | true => exact ⟨_, rfl⟩
  | false => exact ⟨_, rfl⟩

/-- What the search finds lies in the interval. -/
theorem contains_of_search {i : Interval} (hden : 0 < i.den) {count : Nat} {p : Int}
    {s : Scientific} (h : i.search count p = some s) : i.Contains (s.digits * 10 ^ s.exponent) := by
  induction count generalizing p with
  | zero => cases h
  | succ count ih =>
      rw [search] at h
      split at h
      · next digits hit =>
          cases h
          exact (admits_iff hden p digits).mp (admits_of_gridPoint? hit)
      · exact ih h

/-- The search ends where one of its grids has a hit. -/
theorem exists_search {i : Interval} {count : Nat} {p : Int} {n : Nat} (hn : n < count)
    (hit : ∃ k, i.gridPoint? (p - n) = some k) : ∃ s, i.search count p = some s := by
  induction count generalizing p n with
  | zero => omega
  | succ count ih =>
      rw [search]
      split
      · exact ⟨_, rfl⟩
      · next miss =>
          cases n with
          | zero =>
              obtain ⟨k, hk⟩ := hit
              rw [Nat.cast_zero, sub_zero, miss] at hk
              cases hk
          | succ n =>
              refine ih (Nat.lt_of_succ_lt_succ hn) ?_
              rwa [Nat.cast_succ, add_comm, ← sub_sub] at hit

end Interval

/-! ## The interval of a floating point number -/

/-- Twenty grids below the first one the grid points are closer than half a unit of the last place. -/
theorem ten_zpow_lt_half_unit {e q : Int} (least : -1074 ≤ e) (greatest : e ≤ 971)
    (hq : q * 100000 ≤ (52 + e) * 30103) : (10 : ℚ) ^ (q - 18) < 2 ^ (e - 1) := by
  rcases le_total 18 q with hle | hle
  · -- `10 ^ 3` is less than `2 ^ 10`.
    obtain ⟨n, hn⟩ : ∃ n : Nat, q - 18 = n := ⟨(q - 18).toNat, by omega⟩
    have hcube : ((10 : ℚ) ^ n) ^ 3 < (2 ^ (e - 1)) ^ 3 :=
      calc ((10 : ℚ) ^ n) ^ 3 = (10 ^ 3) ^ n := by rw [← pow_mul, ← pow_mul, Nat.mul_comm]
        _ ≤ (2 ^ 10) ^ n := by gcongr; norm_num
        _ = 2 ^ ((10 * n : Nat) : Int) := by rw [zpow_natCast, pow_mul]
        _ < 2 ^ ((e - 1) * (3 : Nat)) := zpow_lt_zpow_right₀ (by norm_num) (by push_cast; omega)
        _ = (2 ^ (e - 1)) ^ 3 := by rw [zpow_mul, zpow_natCast]
    rw [hn, zpow_natCast]
    exact lt_of_pow_lt_pow_left₀ 3 (twoTo_zpow_pos _).le hcube
  · -- `2 ^ 93` is less than `10 ^ 28`.
    obtain ⟨n, hn⟩ : ∃ n : Nat, q - 18 = -n := ⟨(18 - q).toNat, by omega⟩
    have hpower : ((10 : ℚ) ^ n)⁻¹ ^ 28 < (2 ^ (e - 1)) ^ 28 :=
      calc ((10 : ℚ) ^ n)⁻¹ ^ 28 = ((10 ^ 28) ^ n)⁻¹ := by
            rw [inv_pow, ← pow_mul, ← pow_mul, Nat.mul_comm]
        _ ≤ ((2 ^ 93) ^ n)⁻¹ := by gcongr; norm_num
        _ = 2 ^ (-((93 * n : Nat) : Int)) := by rw [zpow_neg, zpow_natCast, pow_mul]
        _ < 2 ^ ((e - 1) * (28 : Nat)) := zpow_lt_zpow_right₀ (by norm_num) (by push_cast; omega)
        _ = (2 ^ (e - 1)) ^ 28 := by rw [zpow_mul, zpow_natCast]
    rw [hn, zpow_neg, zpow_natCast]
    exact lt_of_pow_lt_pow_left₀ 28 (twoTo_zpow_pos _).le hpower

theorem around_den_pos (m : Nat) (e : Int) : 0 < (Interval.around m e).den := by
  simp only [Interval.around]
  split
  · exact Nat.one_pos
  · exact twoTo_pos _

/-- The unit is a quarter of the last place. -/
theorem unit_around (m : Nat) (e : Int) : (Interval.around m e).unit * 4 = 2 ^ e := by
  have hquarter : (Interval.around m e).unit = 2 ^ (e - 2) := by
    simp only [Interval.unit, Interval.around]
    split
    · next he =>
        obtain ⟨n, hn⟩ := Int.eq_ofNat_of_zero_le he
        rw [hn, Int.toNat_natCast, cast_twoTo, zpow_natCast, Nat.cast_one, div_one]
    · next he =>
        obtain ⟨n, hn⟩ : ∃ n : Nat, e - 2 = -n := ⟨(-(e - 2)).toNat, by omega⟩
        rw [hn, neg_neg, Int.toNat_natCast, cast_twoTo, zpow_neg, zpow_natCast, Nat.cast_one, one_div]
  rw [hquarter, zpow_sub₀ (by norm_num)]
  norm_num

theorem low_around {m : Nat} (hm : 0 < m) (e : Int) :
    ((Interval.around m e).low : ℚ) = 4 * (m - reach m e) := by
  have hdecide : (decide (m = twoTo 52) && decide (-1074 < e)) = true ↔ m = 2 ^ 52 ∧ -1074 < e := by
    rw [Bool.and_eq_true, decide_eq_true_eq, decide_eq_true_eq]
    exact Iff.rfl
  simp only [Interval.around, reach, hdecide]
  split
  · rw [Nat.cast_sub (by omega)]
    push_cast
    ring
  · rw [Nat.cast_sub (by omega)]
    push_cast
    ring

theorem contains_around_iff {m : Nat} (hm : 0 < m) (e : Int) (x : ℚ) :
    (Interval.around m e).Contains x ↔ Near m e x := by
  have hunit := unit_around m e
  have hpos := twoTo_zpow_pos e
  have hlow : (Interval.around m e).low * (Interval.around m e).unit =
      (m - reach m e) * 2 ^ e := by
    rw [low_around hm, ← hunit]
    ring
  have hhigh : ((Interval.around m e).high : ℚ) * (Interval.around m e).unit =
      (m + 1 / 2) * 2 ^ e := by
    have hvalue : ((Interval.around m e).high : ℚ) = 4 * m + 2 := by
      simp only [Interval.around]
      push_cast
      ring
    rw [hvalue, ← hunit]
    ring
  have hclosed : (Interval.around m e).closed = true ↔ m % 2 = 0 := beq_iff_eq
  constructor
  · rintro ⟨low, high, ends⟩
    rw [hlow] at low ends
    rw [hhigh] at high ends
    rw [hclosed] at ends
    exact ⟨(le_div_iff₀ hpos).mpr low, (div_le_iff₀ hpos).mpr high,
      ends.imp_right fun h => ⟨(lt_div_iff₀ hpos).mpr h.1, (div_lt_iff₀ hpos).mpr h.2⟩⟩
  · rintro ⟨low, high, tie⟩
    refine ⟨?_, ?_, ?_⟩
    · rw [hlow]
      exact (le_div_iff₀ hpos).mp low
    · rw [hhigh]
      exact (div_le_iff₀ hpos).mp high
    · rw [hlow, hhigh, hclosed]
      exact tie.imp_right fun h => ⟨(lt_div_iff₀ hpos).mp h.1, (div_lt_iff₀ hpos).mp h.2⟩

/-- The shortest decimal number is rounded to the number that it was found for. -/
theorem near_shortest {m : Nat} {e : Int} (canonical : IsCanonical m e) (hm : 0 < m) :
    Near m e ((shortest m e).digits * 10 ^ (shortest m e).exponent) := by
  have hden := around_den_pos m e
  have hlog : Nat.log2 m ≤ 52 := by
    have := (Nat.log2_lt hm.ne').mpr canonical.small
    omega
  have hpos := twoTo_zpow_pos e
  have hvalue : ((Interval.around m e).value : ℚ) * (Interval.around m e).unit = m * 2 ^ e := by
    have : ((Interval.around m e).value : ℚ) = 4 * m := by
      simp only [Interval.around]
      push_cast
      ring
    rw [this, ← unit_around m e]
    ring
  -- The last grid is so fine that the point above the number is in its interval.
  have hlast : ∃ k, (Interval.around m e).gridPoint?
      (((Nat.log2 m : Int) + e) * 30103 / 100000 + 2 - (20 : Nat)) = some k := by
    generalize hq : ((Nat.log2 m : Int) + e) * 30103 / 100000 = q
    have hfine : (10 : ℚ) ^ (q - 18) < 2 ^ (e - 1) :=
      ten_zpow_lt_half_unit canonical.least canonical.greatest (by omega)
    have hgrid : q + 2 - (20 : Nat) = q - 18 := by
      push_cast
      ring
    rw [hgrid]
    obtain ⟨hbelow, habove⟩ := Interval.below_spec hden (q - 18)
    apply Interval.exists_gridPoint?
    rw [Interval.admits_iff hden, contains_around_iff hm]
    rw [hvalue] at hbelow habove
    have hhalf : (2 : ℚ) ^ (e - 1) = 2 ^ e / 2 := zpow_sub_one₀ (by norm_num) e
    have hreach : 0 < reach m e := by
      obtain ⟨-, -, h⟩ | ⟨-, h⟩ := reach_cases m e <;> rw [h] <;> norm_num
    have hover : (m : ℚ) - reach m e <
        ((Interval.around m e).below (q - 18) + 1 : Nat) * 10 ^ (q - 18) / 2 ^ e := by
      rw [lt_div_iff₀ hpos]
      nlinarith
    have hunder : ((Interval.around m e).below (q - 18) + 1 : Nat) * 10 ^ (q - 18) / 2 ^ e <
        (m : ℚ) + 1 / 2 := by
      rw [div_lt_iff₀ hpos]
      push_cast
      nlinarith
    exact ⟨hover.le, hunder.le, .inr ⟨hover, hunder⟩⟩
  obtain ⟨s, hs⟩ := Interval.exists_search (show 20 < 21 by decide) hlast
  have hshortest : shortest m e = s := by
    simp only [shortest, if_neg hm.ne', hs, Option.getD_some]
  rw [hshortest, ← contains_around_iff hm]
  exact Interval.contains_of_search hden hs

end SchemaGuards.Decimal
