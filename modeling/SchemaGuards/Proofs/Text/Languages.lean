import Mathlib.Computability.Language
import Mathlib.Data.List.TakeWhile
import Mathlib.Order.CompletePartialOrder

/-!
# Reading the words of a language

A text of a product of languages is read one part after the other: a reader takes a word of the
first language off the front and leaves the rest. A reader that takes as much as there is and never
goes back misses no text of the product, as long as no word of the second language starts with a
character that could go on the word before it.

## Implementation notes

A reader comes with the set of the characters that it would go on with. Of the language that
follows, its first characters are compared with that set.
-/

namespace SchemaGuards.Text

open scoped Computability

variable {L M : Language Char} {s t : Set Char} {cs word rest : List Char}
  {f g : List Char → Option (List Char)}

/-- The words that are one character of a set. -/
def oneOf (s : Set Char) : Language Char := {word | ∃ c ∈ s, word = [c]}

/-- Repeated characters of a set make up any text that has no other ones. -/
theorem mem_kstar_oneOf_iff : word ∈ (oneOf s)∗ ↔ ∀ c ∈ word, c ∈ s := by
  constructor
  · rintro ⟨words, rfl, hwords⟩ c hc
    obtain ⟨word, hword, hc⟩ := List.mem_flatten.mp hc
    obtain ⟨d, hd, rfl⟩ := hwords word hword
    obtain rfl := List.mem_singleton.mp hc
    exact hd
  · intro h
    refine ⟨word.map fun c => [c], by simp [← List.flatMap_def], ?_⟩
    intro single hsingle
    obtain ⟨c, hc, rfl⟩ := List.mem_map.mp hsingle
    exact ⟨c, h c hc, rfl⟩

theorem nil_notMem_oneOf_mul : [] ∉ oneOf s * M := by
  rintro ⟨_, ⟨c, -, rfl⟩, word, -, heq⟩
  cases heq

theorem nil_notMem_mul (hnil : [] ∉ L) : [] ∉ L * M := by
  rintro ⟨front, hfront, back, -, heq⟩
  obtain ⟨rfl, -⟩ := List.append_eq_nil_iff.mp heq
  exact hnil hfront

/-! ## First characters -/

/-- The characters that the words of a language start with. -/
def firsts (L : Language Char) : Set Char := {c | ∃ word, c :: word ∈ L}

theorem firsts_one : firsts 1 = ∅ := by
  ext c
  simp [firsts]

theorem firsts_kstar_oneOf_subset : firsts (oneOf s)∗ ⊆ s := by
  rintro c ⟨word, hword⟩
  exact mem_kstar_oneOf_iff.mp hword c (.head _)

theorem firsts_oneOf_mul_subset : firsts (oneOf s * M) ⊆ s := by
  rintro c ⟨word, _, ⟨d, hd, rfl⟩, back, -, heq⟩
  obtain ⟨rfl, -⟩ := List.cons.inj heq
  exact hd

theorem firsts_optional_subset : firsts (1 + oneOf s * M) ⊆ s := by
  rintro c ⟨word, hempty | hmarked⟩
  · cases hempty
  · exact firsts_oneOf_mul_subset ⟨word, hmarked⟩

theorem firsts_mul_subset : firsts (L * M) ⊆ firsts L ∪ firsts M := by
  rintro c ⟨word, front, hfront, back, hback, heq⟩
  cases front with
  | nil => exact .inr ⟨word, heq ▸ hback⟩
  | cons d front =>
      obtain ⟨rfl, -⟩ := List.cons.inj heq
      exact .inl ⟨front, hfront⟩

theorem firsts_mul_subset_left (hnil : [] ∉ L) : firsts (L * M) ⊆ firsts L := by
  rintro c ⟨word, front, hfront, back, hback, heq⟩
  cases front with
  | nil => exact absurd hfront hnil
  | cons d front =>
      obtain ⟨rfl, -⟩ := List.cons.inj heq
      exact ⟨front, hfront⟩

/-- No character of a set stands in front of a text. -/
def StartsOutside (s : Set Char) (cs : List Char) : Prop := ∀ c ∈ cs.head?, c ∉ s

theorem StartsOutside.mono (h : StartsOutside t cs) (hsub : s ⊆ t) : StartsOutside s cs :=
  fun c hc hs => h c hc (hsub hs)

theorem startsOutside_of_mem (hword : word ∈ L) (apart : Disjoint (firsts L) s) :
    StartsOutside s word := by
  cases word with
  | nil => exact nofun
  | cons c word =>
      rintro _ ⟨⟩
      exact Set.disjoint_left.mp apart ⟨word, hword⟩

theorem startsOutside_append (hword : word ∈ L) (apart : Disjoint (firsts L) s)
    (hrest : StartsOutside s rest) : StartsOutside s (word ++ rest) := by
  cases word with
  | nil => exact hrest
  | cons c word =>
      have hfront : StartsOutside s (c :: word) := startsOutside_of_mem hword apart
      exact hfront

/-! ## Readers -/

/-- A reader takes a word of a language off the front of a text and leaves the rest. It takes off
nothing but words, and each word as a whole unless the text goes on with one of some characters. -/
structure TakesOff (f : List Char → Option (List Char)) (L : Language Char) (s : Set Char) :
    Prop where
  exists_word {cs rest : List Char} : f cs = some rest → ∃ word ∈ L, word ++ rest = cs
  append {word rest : List Char} : word ∈ L → StartsOutside s rest → f (word ++ rest) = some rest

theorem TakesOff.mono (hf : TakesOff f L s) (hsub : s ⊆ t) : TakesOff f L t where
  exists_word := hf.exists_word
  append := fun hword ends => hf.append hword (ends.mono hsub)

theorem takesOff_some : TakesOff some 1 ∅ where
  exists_word := by
    rintro cs _ ⟨⟩
    exact ⟨[], rfl, rfl⟩
  append := by
    rintro _ rest rfl -
    rfl

/-- All characters of a class that stand in front are taken off. -/
theorem takesOff_dropWhile (p : Char → Bool) :
    TakesOff (fun cs => some (cs.dropWhile p)) (oneOf {c | p c = true})∗ {c | p c = true} where
  exists_word := by
    rintro cs _ ⟨⟩
    refine ⟨cs.takeWhile p, mem_kstar_oneOf_iff.mpr ?_, List.takeWhile_append_dropWhile⟩
    intro c hc
    exact List.mem_takeWhile_imp hc
  append := by
    intro word rest hword ends
    rw [List.dropWhile_append_of_pos (mem_kstar_oneOf_iff.mp hword)]
    cases rest with
    | nil => rfl
    | cons c rest => rw [List.dropWhile_cons_of_neg (ends c rfl)]

/-- Readers one after the other take off a word of the product. -/
theorem TakesOff.bind (hf : TakesOff f L s) (hg : TakesOff g M t)
    (apart : Disjoint (firsts M) s) : TakesOff (fun cs => (f cs).bind g) (L * M) (s ∪ t) where
  exists_word := by
    intro cs rest h
    obtain ⟨between, hbetween, hrest⟩ := Option.bind_eq_some_iff.mp h
    obtain ⟨front, hfront, rfl⟩ := hf.exists_word hbetween
    obtain ⟨back, hback, rfl⟩ := hg.exists_word hrest
    exact ⟨front ++ back, Language.append_mem_mul hfront hback, List.append_assoc ..⟩
  append := by
    rintro _ rest ⟨front, hfront, back, hback, rfl⟩ ends
    have hbetween := startsOutside_append hback apart (ends.mono Set.subset_union_left)
    have hread : f (front ++ (back ++ rest)) = some (back ++ rest) := hf.append hfront hbetween
    change (f ((front ++ back) ++ rest)).bind g = some rest
    rw [List.append_assoc, hread]
    exact hg.append hback (ends.mono Set.subset_union_right)

/-- Which of two readers is the right one, the next character tells. -/
theorem TakesOff.choice (hf : TakesOff f L s) (hg : TakesOff g M t) {marks : Set Char}
    {either : List Char → Option (List Char)} (marked : ∀ c ∈ marks, ∀ cs, either (c :: cs) = g cs)
    (unmarked : ∀ cs, StartsOutside marks cs → either cs = f cs)
    (apart : Disjoint (firsts L) marks) :
    TakesOff either (L + oneOf marks * M) (marks ∪ (s ∪ t)) where
  exists_word := by
    intro cs rest hrest
    by_cases hmark : StartsOutside marks cs
    · rw [unmarked cs hmark] at hrest
      obtain ⟨word, hword, rfl⟩ := hf.exists_word hrest
      exact ⟨word, .inl hword, rfl⟩
    · obtain ⟨c, hc, hcs⟩ : ∃ c ∈ cs.head?, c ∈ marks := by simpa [StartsOutside] using hmark
      obtain ⟨cs, rfl⟩ := List.head?_eq_some_iff.mp hc
      rw [marked c hcs cs] at hrest
      obtain ⟨word, hword, rfl⟩ := hg.exists_word hrest
      exact ⟨[c] ++ word, .inr (Language.append_mem_mul ⟨c, hcs, rfl⟩ hword), rfl⟩
  append := by
    rintro word rest (hword | ⟨_, ⟨c, hc, rfl⟩, word, hword, rfl⟩) ends
    · have hmark := startsOutside_append hword apart (ends.mono Set.subset_union_left)
      rw [unmarked _ hmark]
      exact hf.append hword (ends.mono fun c hc => .inr (.inl hc))
    · change either (c :: (word ++ rest)) = some rest
      rw [marked c hc]
      exact hg.append hword (ends.mono fun c hc => .inr (.inr hc))

/-- A part that may be missing starts with a mark of its own where it is there. -/
theorem TakesOff.optional (hg : TakesOff g M s) {marks : Set Char}
    (marked : ∀ c ∈ marks, ∀ cs, f (c :: cs) = g cs)
    (unmarked : ∀ cs, StartsOutside marks cs → f cs = some cs) :
    TakesOff f (1 + oneOf marks * M) (marks ∪ s) := by
  have apart : Disjoint (firsts 1) marks := by simp [firsts_one]
  have h := takesOff_some.choice hg marked unmarked apart
  rwa [Set.empty_union] at h

/-- A test of what a reader leaves tests for the product. -/
theorem TakesOff.any_iff_mem_mul (hf : TakesOff f L s) {test : List Char → Bool}
    (htest : ∀ cs, test cs = true ↔ cs ∈ M) (apart : Disjoint (firsts M) s) (cs : List Char) :
    (f cs).any test = true ↔ cs ∈ L * M := by
  rw [Option.any_eq_true]
  constructor
  · rintro ⟨rest, hrest, hpasses⟩
    obtain ⟨word, hword, rfl⟩ := hf.exists_word hrest
    exact Language.append_mem_mul hword ((htest rest).mp hpasses)
  · rintro ⟨word, hword, rest, hrest, rfl⟩
    exact ⟨rest, hf.append hword (startsOutside_of_mem hrest apart), (htest rest).mpr hrest⟩

end SchemaGuards.Text
