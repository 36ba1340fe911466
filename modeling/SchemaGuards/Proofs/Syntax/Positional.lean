import SchemaGuards.Proofs.Decimal.Text
import SchemaGuards.Proofs.Syntax.Numbers

/-!
# Positional texts are number literals

The text that a finite number has as a name is read as one number literal, without a fault.
-/

namespace SchemaGuards.Syntax

open Decimal

namespace Scan

variable {cs rest before : List Char}

/-- Digits without underscores are one run. -/
theorem digitRun_digits {base : Nat} (hcs : cs.all (isDigitOf base) = true)
    (ends : ∀ c ∈ rest.head?, isDigitOf base c = false ∧ c ≠ '_') (started : Bool) :
    digitRun base started (cs ++ rest) = (cs.length, false) := by
  induction cs generalizing started with
  | nil =>
      cases rest with
      | nil => rfl
      | cons c rest =>
          obtain ⟨hdigit, hline⟩ := ends c rfl
          rw [List.nil_append, digitRun, if_neg hline, hdigit]
          rfl
  | cons c cs ih =>
      obtain ⟨hdigit, hmore⟩ := Bool.and_eq_true_iff.mp hcs
      have hline : c ≠ '_' := by
        rintro rfl
        have hvalue : isDigitOf base '_' = false := rfl
        rw [hvalue] at hdigit
        cases hdigit
      rw [List.cons_append, digitRun, if_neg hline, hdigit, if_pos rfl, ih hmore]
      rfl

theorem run_digits (hcs : cs.all (isDigitOf 10) = true)
    (ends : ∀ c ∈ rest.head?, isDigitOf 10 c = false ∧ c ≠ '_') (offset : Nat) :
    (digits 10).run ⟨cs ++ rest, offset, none⟩ = .ok cs ⟨rest, offset + cs.length, none⟩ := by
  simp only [digits, run_bind, run_place, run_following, digitRun_digits hcs ends,
    Bool.false_eq_true, if_false, run_pure, run_skip, List.take_left, List.drop_left]

theorem run_someDigits (hcs : cs.all (isDigitOf 10) = true) (hne : cs ≠ [])
    (ends : ∀ c ∈ rest.head?, isDigitOf 10 c = false ∧ c ≠ '_') (offset : Nat) :
    (someDigits 10).run ⟨cs ++ rest, offset, none⟩ = .ok cs ⟨rest, offset + cs.length, none⟩ := by
  have hlines : cs.all (· = '_') = false := by
    obtain ⟨c, more, rfl⟩ := List.exists_cons_of_ne_nil hne
    have hdigit := (Bool.and_eq_true_iff.mp hcs).1
    have hline : c ≠ '_' := by
      rintro rfl
      cases hdigit
    rw [List.all_cons, decide_eq_false hline, Bool.false_and]
  simp only [someDigits, run_bind, run_place, run_digits hcs ends, hlines, Bool.false_eq_true,
    if_false, run_pure]

/-- The end of a text ends a number. -/
theorem run_fractionEnd (before : List Char) (offset : Nat) :
    (Parse.fractionEnd before).run ⟨[], offset, none⟩ =
      .ok (.number (String.ofList before)) ⟨[], offset, none⟩ := by
  have hsince := run_since before [] offset none
  rw [List.append_nil] at hsince
  change (since before >>= fun text => pure (Token.number text)).run _ = _
  rw [run_bind, hsince]
  rfl

/-- Behind the whole part of a text no more stands than its fraction. -/
theorem run_fractionAndExponent {fraction : List Char}
    (hfraction : fraction.all (isDigitOf 10) = true) (offset : Nat) :
    (fractionAndExponent before).run
        ⟨if fraction = [] then [] else '.' :: fraction, offset, none⟩ =
      .ok (.number (String.ofList before))
        ⟨[], offset + (if fraction = [] then [] else '.' :: fraction).length, none⟩ := by
  by_cases hnone : fraction = []
  · rw [if_pos hnone]
    exact run_fractionEnd before offset
  · rw [if_neg hnone]
    have hdigits := @run_digits fraction [] hfraction (fun _ h => by cases h) (offset + 1)
    rw [List.append_nil] at hdigits
    change (digits 10 >>= fun _ => Parse.fractionEnd before).run ⟨fraction, offset + 1, none⟩ = _
    rw [run_bind, hdigits]
    dsimp only
    rw [run_fractionEnd, List.length_cons, Nat.add_assoc, Nat.add_comm 1]

/-- Only a point stands behind the whole part. -/
theorem eq_point_of_mem_head {fraction : List Char} {c : Char}
    (hc : c ∈ (if fraction = [] then [] else '.' :: fraction).head?) : c = '.' := by
  split at hc
  · cases hc
  · cases hc
    rfl

theorem run_wholeNumber {cs whole fraction : List Char} (h : IsPositional cs whole fraction)
    (offset : Nat) : wholeNumber.run ⟨cs, offset, none⟩ =
      .ok (.number (String.ofList cs)) ⟨[], offset + cs.length, none⟩ := by
  have hends : ∀ c ∈ (if fraction = [] then [] else '.' :: fraction).head?,
      isDigitOf 10 c = false ∧ c ≠ '_' := fun c hc => by
    rw [eq_point_of_mem_head hc]
    decide
  have hbig : ¬ (if fraction = [] then [] else '.' :: fraction).head? = some 'n' := fun hn =>
    absurd (eq_point_of_mem_head hn) (by decide)
  have hpadded : ¬ (decide (whole.head? = some '0') && decide (1 < whole.length)) = true := by
    rcases h.unpadded with rfl | hhead
    · decide
    · simp [hhead]
  obtain ⟨rfl, hwhole, hfraction, hne, -⟩ := h
  simp only [wholeNumber, run_bind, run_place, run_following, run_someDigits hwhole hne hends, eat,
    run_peek, if_neg hbig, run_pure, Bool.false_eq_true, if_false, if_neg hpadded, gt_iff_lt]
  rw [run_fractionAndExponent hfraction, List.length_append, Nat.add_assoc]

end Scan

namespace Parse

/-- A positional text is one number literal. -/
theorem isNumber_positional {cs whole fraction : List Char}
    (h : IsPositional cs whole fraction) : IsNumber cs := by
  obtain ⟨c, more, rfl⟩ := List.exists_cons_of_ne_nil h.nonempty
  have hc : isDigitOf 10 c = true := (Bool.and_eq_true_iff.mp h.whole_digits).1
  refine ⟨⟨c, _, h.text, ?_⟩, fun offset => ?_⟩
  · rw [decimal_of_isDigitOf hc, Bool.true_or]
  rw [Scan.number, Scan.run_bind, Scan.run_following, ← Scan.run_wholeNumber h offset]
  dsimp only
  split
  · next tail =>
      obtain ⟨rfl, -⟩ := List.cons.inj h.text
      cases hc
  · next radix tail =>
      obtain ⟨rfl, htail⟩ := List.cons.inj h.text
      have hradix : radix = '.' := by
        obtain hunpadded | hunpadded := h.unpadded
        · obtain rfl : more = [] := (List.cons.inj hunpadded).2
          change radix :: tail = if fraction = [] then [] else '.' :: fraction at htail
          have hhead : radix ∈ (if fraction = [] then [] else '.' :: fraction).head? := by
            rw [← htail]
            rfl
          exact Scan.eq_point_of_mem_head hhead
        · exact absurd rfl hunpadded
      subst hradix
      rfl
  · rfl

end Parse

end SchemaGuards.Syntax
