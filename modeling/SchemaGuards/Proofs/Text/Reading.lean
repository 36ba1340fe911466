import SchemaGuards.Text.Identifier
import SchemaGuards.Proofs.Json.Quoted
import Mathlib.Data.List.Basic

/-!
# Readers of generated text

A reader takes a piece off the front of a text and gives what the piece stands for. It reads
a piece when it takes off exactly that piece, whatever it leaves.
-/

namespace SchemaGuards.Text

/-- A text that can stand for a name: identifier characters, at least one. -/
def isName (s : String) : Bool := !s.toList.isEmpty && s.toList.all isNamePart

/-- Readers give a value and the rest of the text, or refuse it. -/
abbrev Reading := StateT (List Char) Option

namespace Reading

variable {α β : Type}

/-- Take off the expected characters. -/
def exactly (expected : List Char) : Reading Unit := fun cs =>
  (expected.isPrefixOf? cs).map fun rest => ((), rest)

/-- Take off some characters if they come next, and tell whether they did. -/
def isNext (expected : List Char) : Reading Bool := fun cs =>
  match expected.isPrefixOf? cs with
  | some rest => some (true, rest)
  | none => some (false, cs)

/-- Take off a name. -/
def name : Reading String := fun cs =>
  match cs.takeWhile isNamePart with
  | [] => none
  | c :: more => some (String.ofList (c :: more), cs.dropWhile isNamePart)

/-- Take off a string literal. -/
def literal : Reading String := fun cs =>
  match Json.Reader.string ⟨cs, 0⟩ with
  | .ok (s, after) => some (s, after.rest)
  | .error _ => none

/-- The reader takes a piece off the front of what is left, and the piece stands for the value. -/
def Reads (x : Reading α) (piece : List Char) (a : α) (rest : List Char) : Prop :=
  x.run (piece ++ rest) = some (a, rest)

variable {x y : Reading α} {f : α → Reading β} {piece more rest : List Char} {a : α} {b : β}

/-- Two readers in a row read two pieces in a row. -/
theorem Reads.bind (hx : Reads x piece a (more ++ rest)) (hf : Reads (f a) more b rest) :
    Reads (x >>= f) (piece ++ more) b rest := by
  rw [Reads, List.append_assoc, StateT.run_bind, hx]
  exact hf

/-- A reader whose value is mapped reads the same piece. -/
theorem Reads.map (hx : Reads x piece a rest) (f : α → β) :
    Reads (x >>= fun a => pure (f a)) piece (f a) rest := by
  rw [Reads, StateT.run_bind, hx]
  rfl

/-- A reader is tried on the same text when the one before it refuses. -/
theorem run_orElse (x y : Reading α) (cs : List Char) :
    (x <|> y).run cs = (x.run cs <|> y.run cs) := rfl

theorem Reads.orElse (hx : Reads x piece a rest) : Reads (x <|> y) piece a rest := by
  rw [Reads, run_orElse, hx]
  rfl

theorem reads_orElse_of_none (hx : x.run (piece ++ rest) = none) (hy : Reads y piece a rest) :
    Reads (x <|> y) piece a rest := by
  rw [Reads, run_orElse, hx, hy]
  rfl

theorem isPrefixOf?_append (piece rest : List Char) :
    piece.isPrefixOf? (piece ++ rest) = some rest :=
  List.isPrefixOf?_eq_some_iff_append_eq.mpr rfl

theorem reads_exactly (piece rest : List Char) : Reads (exactly piece) piece () rest := by
  change (piece.isPrefixOf? (piece ++ rest)).map _ = _
  rw [isPrefixOf?_append]
  rfl

theorem reads_isNext_true (piece rest : List Char) : Reads (isNext piece) piece true rest := by
  change isNext piece (piece ++ rest) = _
  rw [isNext, isPrefixOf?_append]

/-- A name is read back where it ends. -/
theorem reads_name {s : String} (hs : isName s = true)
    (ends : ∀ c ∈ rest.head?, isNamePart c = false) : Reads name s.toList s rest := by
  obtain ⟨hne, hall⟩ : s.toList.isEmpty = false ∧ s.toList.all isNamePart = true := by
    simpa only [isName, Bool.and_eq_true, Bool.not_eq_true'] using hs
  have htake : rest.takeWhile isNamePart = [] := by
    cases rest with
    | nil => rfl
    | cons c rest => exact List.takeWhile_cons_of_neg (by simp [ends c rfl])
  have hdrop : rest.dropWhile isNamePart = rest := by
    cases rest with
    | nil => rfl
    | cons c rest => exact List.dropWhile_cons_of_neg (by simp [ends c rfl])
  change name (s.toList ++ rest) = _
  rw [name, List.takeWhile_append_of_pos (List.all_eq_true.mp hall),
    List.dropWhile_append_of_pos (List.all_eq_true.mp hall), htake, hdrop, List.append_nil]
  cases hs : s.toList with
  | nil => simp [hs] at hne
  | cons c more => simp [← hs]

theorem reads_literal (s : String) (rest : List Char) :
    Reads literal (Json.quotedChars s.toList) s rest := by
  obtain ⟨offset', h⟩ := Json.Reader.string_quotedChars s.toList rest 0
  change literal (Json.quotedChars s.toList ++ rest) = _
  rw [literal, h, String.ofList_toList]

end Reading

end SchemaGuards.Text
