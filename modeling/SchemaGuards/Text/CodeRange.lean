/-!
# Sets of characters given by ranges of code points

The Unicode properties that the compiler looks at are finite unions of ranges.
A property is kept as the list of its ranges in increasing order, and a character
has the property when one of the ranges holds its code point.
-/

namespace SchemaGuards.Text

/-- A union of closed ranges of code points, each given by its two ends. -/
abbrev CodeRanges := List (Nat × Nat)

namespace CodeRanges

/-- The character lies in one of the ranges. -/
def holds (ranges : CodeRanges) (c : Char) : Bool :=
  ranges.any fun range => range.1 ≤ c.toNat && c.toNat ≤ range.2

theorem holds_iff (ranges : CodeRanges) (c : Char) :
    ranges.holds c = true ↔ ∃ range ∈ ranges, range.1 ≤ c.toNat ∧ c.toNat ≤ range.2 := by
  simp [holds]

/-- A character with one property has no other one whose ranges lie apart. -/
theorem holds_eq_false_of_apart {ranges others : CodeRanges} {c : Char}
    (apart : ∀ r ∈ ranges, ∀ r' ∈ others, r.2 < r'.1 ∨ r'.2 < r.1)
    (h : ranges.holds c = true) : others.holds c = false := by
  refine Bool.eq_false_iff.mpr fun hother => ?_
  obtain ⟨r, hr, hlo, hhi⟩ := (holds_iff _ _).mp h
  obtain ⟨r', hr', hlo', hhi'⟩ := (holds_iff _ _).mp hother
  have := apart r hr r' hr'
  omega

end CodeRanges

end SchemaGuards.Text
