import SchemaGuards.Json.Printer
import SchemaGuards.Json.Reader
import Mathlib.Tactic.SplitIfs

/-!
# Reading string literals back

The reader of string literals undoes the writer: it takes a written literal off the front of
any text and gives its characters.
-/

namespace SchemaGuards

/-- No list is longer than its elements written out, if each of them is written by something. -/
theorem length_le_length_flatMap {α β : Type} {written : α → List β}
    (some : ∀ a, written a ≠ []) (items : List α) :
    items.length ≤ (items.flatMap written).length := by
  induction items with
  | nil => exact Nat.le_refl 0
  | cons a items ih =>
      have := List.length_pos_iff.mpr (some a)
      simp only [List.flatMap_cons, List.length_append, List.length_cons]
      omega

namespace Json

/-- The digits that write a control by its code point write that number. -/
theorem hexDigits_of_control : ∀ n < 0x20,
    let digits := ['0', '0', Nat.digitChar (n / 16), Nat.digitChar (n % 16)]
    digits.all (Decimal.isDigitOf 16) = true ∧ Decimal.ofDigits 16 digits = n := by
  decide

theorem quotedChar_ne_nil (c : Char) : quotedChar c ≠ [] := by
  unfold quotedChar
  split_ifs <;> exact List.cons_ne_nil _ _

namespace Reader

variable {c : Char} {rest : List Char} {offset : Nat}

/-- A written control is read back by its code point. -/
theorem unicodeEscape_of_control (hc : c.toNat < 0x20) :
    ∃ offset', unicodeEscape ⟨['0', '0', Nat.digitChar (c.toNat / 16),
      Nat.digitChar (c.toNat % 16)] ++ rest, offset⟩ = .ok (c, ⟨rest, offset'⟩) := by
  obtain ⟨hdigits, hvalue⟩ := hexDigits_of_control c.toNat hc
  have hhex : hexEscape ⟨['0', '0', Nat.digitChar (c.toNat / 16),
      Nat.digitChar (c.toNat % 16)] ++ rest, offset⟩ = .ok (c.toNat, ⟨rest, offset + 4⟩) := by
    simp only [hexEscape, List.cons_append, List.nil_append, List.take_succ_cons, List.take_zero,
      List.drop_succ_cons, List.drop_zero, List.length_cons, List.length_nil]
    rw [hdigits, hvalue]
    rfl
  have hlow : ¬ (0xdc00 ≤ c.toNat && c.toNat ≤ 0xdfff) = true := by simp; omega
  have hplain : (c.toNat < 0xd800 || 0xdbff < c.toNat) = true := by simp; omega
  refine ⟨offset + 4, ?_⟩
  simp only [unicodeEscape, bind, StateT.bind, hhex, Except.bind, hlow, hplain, if_true]
  exact congrArg (fun c => Except.ok (c, _)) (Char.ofNat_toNat c)

/-- The reader of a string's characters takes off what is written for one character. -/
theorem stringTail_quotedChar (budget : Nat) (gathered : List Char) (c : Char)
    (rest : List Char) (offset : Nat) :
    ∃ offset', stringTail (budget + 1) gathered ⟨quotedChar c ++ rest, offset⟩ =
      stringTail budget (c :: gathered) ⟨rest, offset'⟩ := by
  unfold quotedChar
  split_ifs with hquote hslash hb hf hn hr ht hcontrol
  · subst hquote
    exact ⟨_, rfl⟩
  · subst hslash
    exact ⟨_, rfl⟩
  · subst hb
    exact ⟨_, rfl⟩
  · subst hf
    exact ⟨_, rfl⟩
  · subst hn
    exact ⟨_, rfl⟩
  · subst hr
    exact ⟨_, rfl⟩
  · subst ht
    exact ⟨_, rfl⟩
  · obtain ⟨offset', h⟩ := @unicodeEscape_of_control c rest (offset + 2) hcontrol
    refine ⟨offset', ?_⟩
    exact congrArg (Except.bind · fun p => stringTail budget (p.1 :: gathered) p.2) h
  · refine ⟨offset + c.utf8Size, ?_⟩
    simp [stringTail, bind, StateT.bind, next, Except.bind, hcontrol]

theorem stringTail_quotedChars {budget : Nat} (cs gathered rest : List Char) (offset : Nat)
    (enough : cs.length < budget) :
    ∃ offset', stringTail budget gathered ⟨cs.flatMap quotedChar ++ '"' :: rest, offset⟩ =
      .ok (String.ofList (gathered.reverse ++ cs), ⟨rest, offset'⟩) := by
  obtain ⟨budget, rfl⟩ := Nat.exists_eq_add_one_of_ne_zero (Nat.ne_zero_of_lt enough)
  induction cs generalizing budget gathered offset with
  | nil => exact ⟨_, by rw [List.append_nil]; rfl⟩
  | cons c cs ih =>
      obtain ⟨budget, rfl⟩ := Nat.exists_eq_add_one_of_ne_zero
        (Nat.ne_zero_of_lt (Nat.lt_of_succ_lt_succ enough))
      obtain ⟨between, hc⟩ := stringTail_quotedChar (budget + 1) gathered c
        (cs.flatMap quotedChar ++ '"' :: rest) offset
      obtain ⟨offset', hcs⟩ := ih (c :: gathered) between budget (Nat.lt_of_succ_lt_succ enough)
      refine ⟨offset', ?_⟩
      rw [List.flatMap_cons, List.append_assoc, hc, hcs, List.reverse_cons, List.append_assoc]
      rfl

/-- A string literal is read back as the string, wherever it stands. -/
theorem string_quotedChars (cs rest : List Char) (offset : Nat) :
    ∃ offset', string ⟨quotedChars cs ++ rest, offset⟩ =
      .ok (String.ofList cs, ⟨rest, offset'⟩) := by
  have enough : cs.length < (cs.flatMap quotedChar ++ '"' :: rest).length + 1 := by
    have := length_le_length_flatMap quotedChar_ne_nil cs
    simp only [List.length_append, List.length_cons]
    omega
  obtain ⟨offset', h⟩ := stringTail_quotedChars cs [] rest (offset + 1) enough
  exact ⟨offset', by rw [quotedChars, List.cons_append, List.append_assoc]; exact h⟩

end Reader

end Json

end SchemaGuards
