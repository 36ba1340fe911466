import SchemaGuards.Check.Failure
import Mathlib.Data.List.Basic

/-!
# Reading labels back

A label is a path written as text: a dot stands before each key but one at the start, and each
position stands in brackets. Where no key is empty or has one of these marks in it, cutting the
label at the marks gives the path back, so that no two paths have the same label. The label of the
root is apart from this, for it is that of the key `value` as well.
-/

namespace SchemaGuards.Check

/-- A key that a label shows as it is: not empty, and without a dot or an opening bracket. -/
def IsPlainKey (key : String) : Prop := key ≠ "" ∧ '.' ∉ key.toList ∧ '[' ∉ key.toList

instance : DecidablePred IsPlainKey := fun _ => inferInstanceAs (Decidable (_ ∧ _ ∧ _))

/-- A step with a plain key, or to a position. -/
def Segment.Plain : Segment → Prop
  | key name => IsPlainKey name
  | index _ => True

/-- A text cut at its marks: what stands before the first mark, and a step for each mark. A dot
opens a key, and a bracket a position up to the closing bracket. -/
def cutAtMarks : List Char → List Char × List Segment
  | [] => ([], [])
  | c :: cs =>
    match cutAtMarks cs with
    | (opening, steps) =>
      if c = '.' then ([], .key (String.ofList opening) :: steps)
      else if c = '[' then
        ([], .index (Nat.ofDigitChars 10 (opening.takeWhile (· ≠ ']')) 0) :: steps)
      else (c :: opening, steps)

/-- The path that a label is split into. A label that does not start with a bracket starts with a
key. -/
def splitLabel (label : List Char) : List Segment :=
  match cutAtMarks label with
  | ([], steps) => steps
  | (opening, steps) => .key (String.ofList opening) :: steps

/-- The characters that a step adds to a label that is not empty. -/
def stepChars : Segment → List Char
  | .key name => '.' :: name.toList
  | .index position => '[' :: (Nat.toDigits 10 position ++ [']'])

theorem foldl_extendLabel {label : List Char} (begun : label ≠ []) (path : List Segment) :
    path.foldl extendLabel label = label ++ path.flatMap stepChars := by
  induction path generalizing label with
  | nil => simp
  | cons s path ih =>
      have hstep : extendLabel label s = label ++ stepChars s := by
        cases s with
        | key name => simp [extendLabel, stepChars, begun]
        | index position => rfl
      have hnext : label ++ stepChars s ≠ [] := List.append_ne_nil_of_left_ne_nil begun _
      rw [List.foldl_cons, hstep, ih hnext, List.flatMap_cons, List.append_assoc]

theorem cutAtMarks_append {text : List Char} (dots : '.' ∉ text) (brackets : '[' ∉ text)
    (rest : List Char) :
    cutAtMarks (text ++ rest) = (text ++ (cutAtMarks rest).1, (cutAtMarks rest).2) := by
  induction text with
  | nil => rfl
  | cons c text ih =>
      obtain ⟨hdot, dots⟩ := List.ne_and_not_mem_of_not_mem_cons dots
      obtain ⟨hbracket, brackets⟩ := List.ne_and_not_mem_of_not_mem_cons brackets
      rw [List.cons_append, cutAtMarks, ih dots brackets]
      simp [hdot.symm, hbracket.symm]

/-- The digits of a position are none of the marks. -/
theorem notMem_toDigits {c : Char} (hc : c.isDigit = false) (position : Nat) :
    c ∉ Nat.toDigits 10 position := by
  intro h
  have hdigit := Nat.isDigit_of_mem_toDigits (by decide) (by decide) h
  rw [hc] at hdigit
  cases hdigit

/-- The position between brackets is read up to the closing one. -/
theorem ofDigitChars_bracketed (position : Nat) (rest : List Char) :
    Nat.ofDigitChars 10 ((Nat.toDigits 10 position ++ ']' :: rest).takeWhile (· ≠ ']')) 0 =
      position := by
  have hall : ∀ c ∈ Nat.toDigits 10 position, decide (c ≠ ']') = true := by
    intro c hc
    apply decide_eq_true
    rintro rfl
    exact notMem_toDigits (by decide) position hc
  rw [List.takeWhile_append_of_pos hall, List.takeWhile_cons_of_neg (by simp), List.append_nil]
  exact Nat.ofDigitChars_toDigits (by decide) (by decide)

/-- Steps that are written one after the other are cut apart again. -/
theorem cutAtMarks_flatMap {path : List Segment} (plain : ∀ s ∈ path, s.Plain) :
    cutAtMarks (path.flatMap stepChars) = ([], path) := by
  induction path with
  | nil => rfl
  | cons s path ih =>
      obtain ⟨hs, hpath⟩ := List.forall_mem_cons.mp plain
      rw [List.flatMap_cons]
      cases s with
      | key name =>
          obtain ⟨-, dots, brackets⟩ := hs
          rw [stepChars, List.cons_append, cutAtMarks, cutAtMarks_append dots brackets, ih hpath]
          simp
      | index position =>
          have dots : '.' ∉ Nat.toDigits 10 position ++ [']'] := by
            simp [notMem_toDigits]
          have brackets : '[' ∉ Nat.toDigits 10 position ++ [']'] := by
            simp [notMem_toDigits]
          have hread := ofDigitChars_bracketed position []
          rw [stepChars, List.cons_append, cutAtMarks, cutAtMarks_append dots brackets, ih hpath]
          simpa using hread

/-- Splitting the label of a path gives back the path. -/
theorem splitLabel_labelChars {path : List Segment} (below : path ≠ [])
    (plain : ∀ s ∈ path, s.Plain) : splitLabel (labelChars path) = path := by
  obtain ⟨s, path, rfl⟩ := List.exists_cons_of_ne_nil below
  change splitLabel (path.foldl extendLabel (extendLabel [] s)) = _
  cases s with
  | key name =>
      obtain ⟨⟨hname, dots, brackets⟩, hpath⟩ := List.forall_mem_cons.mp plain
      have begun : name.toList ≠ [] := by simpa using hname
      change splitLabel (path.foldl extendLabel name.toList) = _
      rw [foldl_extendLabel begun, splitLabel, cutAtMarks_append dots brackets,
        cutAtMarks_flatMap hpath]
      simp
  | index position =>
      rw [foldl_extendLabel (by simp [extendLabel])]
      change splitLabel ((Segment.index position :: path).flatMap stepChars) = _
      rw [splitLabel, cutAtMarks_flatMap plain]

/-- Different paths below the root have different labels. -/
theorem eq_of_labelChars_eq {path other : List Segment} (below : path ≠ [])
    (below' : other ≠ []) (plain : ∀ s ∈ path, s.Plain) (plain' : ∀ s ∈ other, s.Plain)
    (same : labelChars other = labelChars path) : other = path := by
  calc
    other = splitLabel (labelChars other) := (splitLabel_labelChars below' plain').symm
    _ = splitLabel (labelChars path) := congrArg splitLabel same
    _ = path := splitLabel_labelChars below plain

end SchemaGuards.Check
