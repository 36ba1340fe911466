import SchemaGuards.Proofs.Schema.Reading
import SchemaGuards.Proofs.Text.Layout

/-!
# Builder expressions are laid out

The brackets of a builder expression match, and its lines are indented by the braces that are open
before them. The names of fields and references stand in the text as they are, so they have to be
free of blanks, quotes and brackets. The values of an enumeration are in literals, so they may be
any strings.

## Implementation notes

An expression inside another one is rendered at the level of the line on which it starts. This level
is the level of the whole text and one more for each brace that is open. The induction is over the
schema, with any brackets open.
-/

namespace SchemaGuards.Schema

open Text

mutual

/-- The names in a schema, of fields and of references, at any depth. -/
def names : Schema → List String
  | primitive _ _ => []
  | nullable inner => names inner
  | enumeration _ _ => []
  | array item _ => names item
  | object fields _ => fieldNames fields
  | reference binding _ => [binding]

/-- The names of fields and the names in their schemas. -/
def fieldNames : List Field → List String
  | [] => []
  | (name, schema) :: rest => name :: (names schema ++ fieldNames rest)

end

theorem mem_fieldNames_iff {fields : List Field} {x : String} :
    x ∈ fieldNames fields ↔ ∃ f ∈ fields, x = f.1 ∨ x ∈ f.2.names := by
  induction fields with
  | nil => simp [fieldNames]
  | cons f rest ih => simp [fieldNames, ih, or_assoc]

variable {level : Nat} {brackets piece : List Char}

/-! ### Pieces of an expression -/

theorem lays_requiredSuffix (required : Bool) :
    Lays level brackets (requiredSuffix required) brackets := by
  cases required with
  | true => exact lays_of_leaves rfl (by decide)
  | false => exact lays_of_leaves rfl (by decide)

/-- A call is laid out if its argument is, inside the parenthesis. -/
theorem lays_call {opening : List Char} (required : Bool)
    (hopening : Leaves brackets opening ('(' :: brackets)) (oneLine : '\n' ∉ opening)
    (hpiece : Lays level ('(' :: brackets) piece ('(' :: brackets)) :
    Lays level brackets ("Joi".toList ++ (opening ++ (piece ++ [')'])) ++ requiredSuffix required)
      brackets := by
  have hlibrary : Leaves brackets "Joi".toList brackets := rfl
  have hclosing : Leaves ('(' :: brackets) [')'] brackets := rfl
  have hargument := hpiece.append (lays_of_leaves hclosing (by decide))
  have hcall := (lays_of_leaves hopening oneLine).append hargument
  exact ((lays_of_leaves hlibrary (by decide)).append hcall).append (lays_requiredSuffix required)

theorem leaves_quotedList (values : List String) :
    Leaves brackets (quotedList values) brackets ∧ '\n' ∉ quotedList values := by
  induction values with
  | nil => exact ⟨rfl, List.not_mem_nil⟩
  | cons value values ih =>
      obtain ⟨hvalue, oneLine⟩ := leaves_quotedChars brackets value.toList
      cases values with
      | nil => exact ⟨hvalue, oneLine⟩
      | cons next values =>
          have hcomma : Leaves brackets [',', ' '] brackets := rfl
          rw [quotedList_cons_cons]
          constructor
          · exact hvalue.append (hcomma.append ih.1)
          · simp [oneLine, ih.2]

/-- A field starts a line at the level of the open braces. -/
theorem lays_field {name : String} (tidy : IsTidy name)
    (hpiece : Lays level brackets piece brackets) :
    Lays level brackets ('\n' :: (indentation (level + brackets.count '\x7b') ++
      (name.toList ++ ([':', ' '] ++ piece)))) brackets := by
  obtain ⟨c, more, hname, visible, noBrace⟩ := tidy.exists_cons
  have hdepth : lineDepth brackets c = brackets.count '\x7b' := by simp [lineDepth, noBrace]
  have hcolon : Leaves brackets [':', ' '] brackets := rfl
  have hline : Lays level brackets _ brackets :=
    lays_line visible (hname ▸ tidy.leaves) (hname ▸ tidy.oneLine)
  rw [hdepth, ← hname] at hline
  simpa [indentation] using hline.append ((lays_of_leaves hcolon (by decide)).append hpiece)

theorem lays_fields {fields : List Field} (listed : fields ≠ [])
    (tidy : ∀ f ∈ fields, IsTidy f.1)
    (hschema : ∀ f ∈ fields, Lays level brackets
      (render (level + brackets.count '\x7b') f.2) brackets) :
    Lays level brackets ('\n' :: renderFields (level + brackets.count '\x7b') fields) brackets := by
  induction fields with
  | nil => exact absurd rfl listed
  | cons f fields ih =>
      obtain ⟨hname, htidy⟩ := List.forall_mem_cons.mp tidy
      obtain ⟨hf, hfs⟩ := List.forall_mem_cons.mp hschema
      cases fields with
      | nil =>
          rw [renderFields_singleton, List.append_nil]
          exact lays_field hname hf
      | cons next fields =>
          have hcomma : Leaves brackets [','] brackets := rfl
          have hrest := (lays_of_leaves hcomma (by decide)).append
            (ih (List.cons_ne_nil _ _) htidy hfs)
          rw [renderFields_cons_cons]
          simpa using (lays_field hname hf).append hrest

/-- Fields in braces, with the closing brace on a line of its own. -/
theorem lays_block (hpiece : Lays level ('\x7b' :: brackets) piece ('\x7b' :: brackets)) :
    Lays level brackets
      ('\x7b' :: (piece ++ '\n' :: indentation (level + brackets.count '\x7b') ++ ['\x7d']))
      brackets := by
  have hopening : Leaves brackets ['\x7b'] ('\x7b' :: brackets) := rfl
  have hclosing : Leaves ('\x7b' :: brackets) ['\x7d'] brackets := rfl
  have hdepth : lineDepth ('\x7b' :: brackets) '\x7d' = brackets.count '\x7b' := by
    simp [lineDepth]
  have hline : Lays level ('\x7b' :: brackets) _ brackets :=
    lays_line (by decide) hclosing (by decide)
  rw [hdepth] at hline
  simpa [indentation] using (lays_of_leaves hopening (by decide)).append (hpiece.append hline)

/-! ### Expressions -/

/-- A schema is laid out inside any brackets, at the level of the line on which it starts. -/
theorem lays_render (s : Schema) (tidy : ∀ name ∈ s.names, IsTidy name) :
    Lays level brackets (render (level + brackets.count '\x7b') s) brackets := by
  induction s using Schema.induction generalizing brackets with
  | primitive p required =>
      rw [render_primitive]
      refine Lays.append (lays_of_leaves ?_ ?_) (lays_requiredSuffix required)
      · cases p <;> rfl
      · cases p <;> decide
  | nullable inner ih =>
      have hnull : Leaves brackets ".allow(null)".toList brackets := rfl
      rw [render_nullable]
      exact (ih tidy).append (lays_of_leaves hnull (by decide))
  | enumeration values required =>
      obtain ⟨hvalues, oneLine⟩ := leaves_quotedList values
      rw [render_enumeration]
      exact lays_call required rfl (by decide) (lays_of_leaves hvalues oneLine)
  | array item required ih =>
      have hitem : Lays level ('(' :: brackets) _ ('(' :: brackets) := ih tidy
      rw [List.count_cons_of_ne (by decide)] at hitem
      rw [render_array]
      exact lays_call required rfl (by decide) hitem
  | object fields required ih =>
      cases fields with
      | nil =>
          have hempty : Leaves brackets ("Joi".toList ++ ".object(\x7b\x7d)".toList) brackets := rfl
          rw [render_object_nil]
          exact (lays_of_leaves hempty (by decide)).append (lays_requiredSuffix required)
      | cons f fs =>
          have hnames : ∀ g ∈ f :: fs, IsTidy g.1 := fun g hg =>
            tidy g.1 (mem_fieldNames_iff.mpr ⟨g, hg, .inl rfl⟩)
          have hschema : ∀ g ∈ f :: fs, ∀ name ∈ g.2.names, IsTidy name := fun g hg name hname =>
            tidy name (mem_fieldNames_iff.mpr ⟨g, hg, .inr hname⟩)
          have hfields : Lays level ('\x7b' :: '(' :: brackets) _ ('\x7b' :: '(' :: brackets) :=
            lays_fields (List.cons_ne_nil f fs) hnames fun g hg => ih g hg (hschema g hg)
          have hopening : Leaves brackets ".object(".toList ('(' :: brackets) := rfl
          have hcall := lays_call required hopening (by decide) (lays_block hfields)
          rw [List.count_cons_self, List.count_cons_of_ne (by decide), ← Nat.add_assoc] at hcall
          rw [render_object_cons]
          simpa using hcall
  | reference name required =>
      have hname := tidy name (.head _)
      rw [render_reference]
      exact (lays_of_leaves hname.leaves hname.oneLine).append (lays_requiredSuffix required)

/-- No blank stands before an expression. -/
theorem render_visible (s : Schema) (tidy : ∀ name ∈ s.names, IsTidy name) :
    ∃ c more, isBlank c = false ∧ render level s = c :: more := by
  have library : isBlank 'J' = false := by decide
  induction s using Schema.induction with
  | primitive p required => exact ⟨'J', _, library, rfl⟩
  | nullable inner ih =>
      obtain ⟨c, more, visible, hinner⟩ := ih tidy
      rw [render_nullable, hinner]
      exact ⟨c, _, visible, rfl⟩
  | enumeration values required => exact ⟨'J', _, library, rfl⟩
  | array item required => exact ⟨'J', _, library, rfl⟩
  | object fields required =>
      cases fields with
      | nil => exact ⟨'J', _, library, rfl⟩
      | cons f fs =>
          rw [render_object_cons]
          exact ⟨'J', _, library, rfl⟩
  | reference name required =>
      obtain ⟨c, more, hname, visible, -⟩ := (tidy name (.head _)).exists_cons
      rw [render_reference, hname]
      exact ⟨c, _, visible, rfl⟩

theorem render_object_optional (fields : List Field) :
    render level (object fields false) = renderObject level fields :=
  List.append_nil _

/-- The text of a schema, and that of an object with given fields, is laid out from any level on,
whatever the strings of its enumerations are. -/
theorem rendered_laidOut (level : Nat) :
    (∀ s : Schema, (∀ name ∈ s.names, IsTidy name) → LaidOut level (s.render level)) ∧
      ∀ fields : List Field, (∀ name ∈ fieldNames fields, IsTidy name) →
        LaidOut level (renderObject level fields) := by
  have schemas : ∀ s : Schema, (∀ name ∈ s.names, IsTidy name) → LaidOut level (s.render level) :=
    fun s tidy => ⟨lays_render s tidy, render_visible s tidy⟩
  constructor
  · exact schemas
  · intro fields tidy
    rw [← render_object_optional]
    exact schemas (object fields false) tidy

/-- Fields with objects inside arrays, and with strings that look like the text around them. -/
def sheetFields : List Field :=
  [("mark", nullable (enumeration ["\"", "\\", "\x7d)\n\x7b(", ""] true)),
    ("rows", array (object [
      ("cell", object [("width", primitive .number true)] false),
      ("owner", reference "Party" true)] true) true),
    ("notes", object [] false)]

theorem rendered_laidOut_sheet :
    (∀ name ∈ fieldNames sheetFields, IsTidy name) ∧
      LaidOut 2 ((array (object sheetFields true) false).render 2) ∧
      LaidOut 2 (renderObject 2 sheetFields) := by
  have tidy : ∀ name ∈ fieldNames sheetFields, IsTidy name := by decide
  refine ⟨tidy, ?_, ?_⟩
  · exact (rendered_laidOut 2).1 (array (object sheetFields true) false) tidy
  · exact (rendered_laidOut 2).2 sheetFields tidy

end SchemaGuards.Schema
