import SchemaGuards.Text.Blank
import SchemaGuards.Proofs.Json.Quoted
import Mathlib.Data.List.Basic

/-!
# Brackets and lines of generated text

A reader of generated text keeps the brackets that are open and knows whether it is inside a string
literal. A text is laid out when its brackets match and each of its lines is indented by the braces
that are open before it.

## Implementation notes

The laws are about pieces of a text, which may open brackets for the pieces behind them. A piece
that starts a line has the first character of that line as well.
-/

namespace SchemaGuards.Text

/-- Where a reader of generated text stands. -/
inductive Place where
  | code
  | literal
  /-- Behind a backslash of a literal. -/
  | escape
  deriving DecidableEq, Repr

/-- A reader of generated text: the brackets that are open, the innermost first, and its place. -/
structure Reader where
  brackets : List Char
  place : Place
  deriving DecidableEq, Repr

namespace Reader

/-- Read a closing bracket: the innermost open bracket has to be its partner. -/
def close (partner : Char) : List Char → Option Reader
  | [] => none
  | innermost :: outer => if innermost = partner then some ⟨outer, .code⟩ else none

/-- Read a character. Brackets count outside literals only, and no line ends inside a literal. -/
def next (r : Reader) (c : Char) : Option Reader :=
  match r.place with
  | .code =>
    if c = '"' then some ⟨r.brackets, .literal⟩
    else if c = '(' ∨ c = '\x7b' then some ⟨c :: r.brackets, .code⟩
    else if c = ')' then close '(' r.brackets
    else if c = '\x7d' then close '\x7b' r.brackets
    else some r
  | .literal =>
    if c = '"' then some ⟨r.brackets, .code⟩
    else if c = '\\' then some ⟨r.brackets, .escape⟩
    else if c = '\n' then none
    else some r
  | .escape => if c = '\n' then none else some ⟨r.brackets, .literal⟩

/-- Read a text from left to right. -/
def read (r : Reader) (cs : List Char) : Option Reader := cs.foldlM next r

theorem read_append (r : Reader) (cs ds : List Char) :
    r.read (cs ++ ds) = (r.read cs).bind fun between => between.read ds :=
  List.foldlM_append

end Reader

/-- Reading a text in which some brackets are open ends outside literals, with others open. -/
def Leaves (brackets cs brackets' : List Char) : Prop :=
  Reader.read ⟨brackets, .code⟩ cs = some ⟨brackets', .code⟩

/-- How deep a line stands that starts with a character: the braces that are open before it, less
the one that it closes. -/
def lineDepth (brackets : List Char) (first : Char) : Nat :=
  brackets.count '\x7b' - if first = '\x7d' then 1 else 0

/-- A line is indented by two blanks for each level, and something stands on it. -/
def Indented (level : Nat) (brackets line : List Char) : Prop :=
  ∃ first more, isBlank first = false ∧
    line = List.replicate (2 * (level + lineDepth brackets first)) ' ' ++ first :: more

/-- A piece of a text is laid out: it leads from some open brackets to others, and each line that it
starts is indented by what is open before. -/
structure Lays (level : Nat) (brackets cs brackets' : List Char) : Prop where
  leaves : Leaves brackets cs brackets'
  lines : ∀ before line, cs = before ++ '\n' :: line →
    ∃ between, Leaves brackets before between ∧ Indented level between line

/-- A text that starts on a line of some level is laid out: its brackets match, none of its lines is
blank, and each line after the first is indented by what is open before it. -/
structure LaidOut (level : Nat) (cs : List Char) : Prop where
  lays : Lays level [] cs []
  first : ∃ c more, isBlank c = false ∧ cs = c :: more

variable {level : Nat} {brackets between brackets' cs ds : List Char}

theorem Leaves.append (h : Leaves brackets cs between) (h' : Leaves between ds brackets') :
    Leaves brackets (cs ++ ds) brackets' := by
  rw [Leaves, Reader.read_append, h]
  exact h'

theorem leaves_blanks (brackets : List Char) (n : Nat) :
    Leaves brackets (List.replicate n ' ') brackets := by
  induction n with
  | zero => rfl
  | succ n ih => exact ih

theorem Indented.append (h : Indented level brackets cs) (ds : List Char) :
    Indented level brackets (cs ++ ds) := by
  obtain ⟨first, more, visible, rfl⟩ := h
  refine ⟨first, more ++ ds, visible, ?_⟩
  rw [List.append_assoc, List.cons_append]

theorem Lays.append (h : Lays level brackets cs between) (h' : Lays level between ds brackets') :
    Lays level brackets (cs ++ ds) brackets' := by
  constructor
  · exact h.leaves.append h'.leaves
  · intro before line parts
    rcases List.append_eq_append_iff.mp parts with ⟨more, rfl, hds⟩ | ⟨more, hcs, hline⟩
    · obtain ⟨inner, hbefore, indented⟩ := h'.lines more line hds
      exact ⟨inner, h.leaves.append hbefore, indented⟩
    · cases more with
      | nil =>
          obtain ⟨inner, hbefore, indented⟩ := h'.lines [] line hline.symm
          have hwhole := h.leaves.append hbefore
          rw [List.append_nil] at hcs hwhole
          exact ⟨inner, hcs ▸ hwhole, indented⟩
      | cons c more =>
          rw [List.cons_append] at hline
          obtain ⟨rfl, rfl⟩ := List.cons.inj hline
          obtain ⟨inner, hbefore, indented⟩ := h.lines before more hcs
          exact ⟨inner, hbefore, indented.append ds⟩

/-- A piece without a line feed is laid out if its brackets are in order. -/
theorem lays_of_leaves (h : Leaves brackets cs brackets') (oneLine : '\n' ∉ cs) :
    Lays level brackets cs brackets' := by
  constructor
  · exact h
  · rintro before line rfl
    simp at oneLine

/-- A piece that starts a line is laid out if it is indented for its first character. -/
theorem lays_line {first : Char} {more : List Char} (visible : isBlank first = false)
    (h : Leaves brackets (first :: more) brackets') (oneLine : '\n' ∉ first :: more) :
    Lays level brackets ('\n' :: List.replicate (2 * (level + lineDepth brackets first)) ' ' ++
      first :: more) brackets' := by
  constructor
  · exact (leaves_blanks brackets _).append h
  · intro before line parts
    cases before with
    | nil =>
        obtain rfl := (List.cons.inj parts).2
        exact ⟨brackets, rfl, first, more, visible, rfl⟩
    | cons c before =>
        have hfeed : '\n' ∈ List.replicate (2 * (level + lineDepth brackets first)) ' ' ++
            first :: more := by
          have hmore : _ ++ first :: more = before ++ '\n' :: line := (List.cons.inj parts).2
          exact hmore ▸ List.mem_append_right before List.mem_cons_self
        rcases List.mem_append.mp hfeed with hblank | hmore
        · exact absurd (List.eq_of_mem_replicate hblank) (by decide)
        · exact absurd hmore oneLine

/-! ### Names and literals -/

/-- A name without blanks, quotes and brackets. -/
def IsTidy (name : String) : Prop :=
  name ≠ "" ∧ ∀ c ∈ name.toList, isBlank c = false ∧ c ∉ ['"', '(', ')', '\x7b', '\x7d']

instance (name : String) : Decidable (IsTidy name) :=
  -- The characters of the name are tried, not all characters there are.
  have : Decidable (∀ c ∈ name.toList, isBlank c = false ∧ c ∉ ['"', '(', ')', '\x7b', '\x7d']) :=
    List.decidableBAll _ _
  inferInstanceAs (Decidable (_ ∧ _))

theorem leaves_of_tidy (tidy : ∀ c ∈ cs, c ∉ ['"', '(', ')', '\x7b', '\x7d']) :
    Leaves brackets cs brackets := by
  induction cs with
  | nil => rfl
  | cons c cs ih =>
      obtain ⟨hc, hcs⟩ := List.forall_mem_cons.mp tidy
      have same : Reader.next ⟨brackets, .code⟩ c = some ⟨brackets, .code⟩ := by
        simp only [List.mem_cons, List.not_mem_nil, or_false, not_or] at hc
        simp [Reader.next, hc]
      rw [Leaves, Reader.read, List.foldlM_cons, same]
      exact ih hcs

theorem IsTidy.exists_cons {name : String} (tidy : IsTidy name) :
    ∃ c more, name.toList = c :: more ∧ isBlank c = false ∧ c ≠ '\x7d' := by
  cases hname : name.toList with
  | nil => exact absurd (String.toList_eq_nil_iff.mp hname) tidy.1
  | cons c more =>
      obtain ⟨visible, plain⟩ := tidy.2 c (hname ▸ List.mem_cons_self)
      refine ⟨c, more, rfl, visible, ?_⟩
      rintro rfl
      simp at plain

theorem IsTidy.oneLine {name : String} (tidy : IsTidy name) : '\n' ∉ name.toList := by
  intro hfeed
  have visible := (tidy.2 _ hfeed).1
  revert visible
  decide

theorem IsTidy.leaves {name : String} (tidy : IsTidy name) :
    Leaves brackets name.toList brackets :=
  leaves_of_tidy fun c hc => (tidy.2 c hc).2

/-- What is written for a character inside a literal stays inside it, on one line. -/
theorem read_quotedChar (brackets : List Char) (c : Char) :
    Reader.read ⟨brackets, .literal⟩ (Json.quotedChar c) = some ⟨brackets, .literal⟩ ∧
      '\n' ∉ Json.quotedChar c := by
  unfold Json.quotedChar
  split_ifs with hquote hslash hb hf hn hr ht hcontrol
  iterate 7 exact ⟨rfl, by decide⟩
  · -- A control is written by its code point, in hexadecimal digits.
    have digit : ∀ n < 16, Nat.digitChar n ≠ '"' ∧ Nat.digitChar n ≠ '\\' ∧
        Nat.digitChar n ≠ '\n' := by decide
    have hhigh := digit (c.toNat / 16) (by omega)
    have hlow := digit (c.toNat % 16) (by omega)
    constructor
    · simp [Reader.read, Reader.next, hhigh, hlow]
    · simp [Ne.symm hhigh.2.2, Ne.symm hlow.2.2]
  · constructor
    · simp [Reader.read, Reader.next, hquote, hslash, hn]
    · simpa using Ne.symm hn

/-- Whatever a string holds, its literal leaves the brackets as they are and has no line feed. -/
theorem leaves_quotedChars (brackets : List Char) (cs : List Char) :
    Leaves brackets (Json.quotedChars cs) brackets ∧ '\n' ∉ Json.quotedChars cs := by
  have inside : Reader.read ⟨brackets, .literal⟩ (cs.flatMap Json.quotedChar ++ ['"']) =
      some ⟨brackets, .code⟩ := by
    induction cs with
    | nil => rfl
    | cons c cs ih =>
        rw [List.flatMap_cons, List.append_assoc, Reader.read_append,
          (read_quotedChar brackets c).1]
        exact ih
  constructor
  · exact inside
  · simp only [Json.quotedChars, List.mem_cons, List.mem_append, List.mem_flatMap,
      List.not_mem_nil, or_false, not_or, not_exists, not_and]
    refine ⟨by decide, fun c _ => (read_quotedChar brackets c).2, by decide⟩

end SchemaGuards.Text
