import SchemaGuards.Command.Plan
import SchemaGuards.Proofs.Json.Layout
import SchemaGuards.Proofs.Schema.Reading

/-!
# Reading dumped modules back

The record of a module gives the module back: the entry `kind` tells the forms of schemas apart,
and every part stands under a key of its own. Since records are read back from the text they are
laid out in, a dumped text stands for one module only.
-/

namespace SchemaGuards

namespace Json

theorem texts?_map_text (values : List String) : texts? (values.map .text) = some values := by
  induction values with
  | nil => rfl
  | cons value values ih =>
      rw [List.map_cons, texts?, ih]
      rfl

attribute [simp] Plain.text Plain.bool

end Json

namespace Schema

/-- Records of fields are read back if the records of their schemas are. -/
theorem fieldsOfRecords?_fieldRecords {fields : List Field}
    (inside : ∀ f ∈ fields, ofRecord? f.2.record = some f.2) :
    fieldsOfRecords? (fieldRecords fields) = some fields := by
  induction fields with
  | nil => rw [fieldRecords, fieldsOfRecords?]
  | cons f fields ih =>
      obtain ⟨name, schema⟩ := f
      have hschema : ofRecord? schema.record = some schema := inside (name, schema) (.head _)
      rw [fieldRecords, fieldsOfRecords?]
      simp [Json.lookup?, Json.text?, hschema, ih fun f hf => inside f (.tail _ hf)]

theorem ofRecord?_record (s : Schema) : ofRecord? s.record = some s := by
  induction s using Schema.induction with
  | primitive p required =>
      rw [record, ofRecord?]
      simp [Json.text?, Json.flag?, Json.lookup?, Primitive.ofWord?_word]
  | nullable inner ih =>
      rw [record, ofRecord?]
      simp [Json.text?, Json.lookup?, ih]
  | enumeration values required =>
      rw [record, ofRecord?]
      simp [Json.text?, Json.flag?, Json.lookup?, Json.texts?_map_text]
  | array item required ih =>
      rw [record, ofRecord?]
      simp [Json.text?, Json.flag?, Json.lookup?, ih]
  | object fields required ih =>
      rw [record, ofRecord?]
      simp [Json.text?, Json.flag?, Json.lookup?, fieldsOfRecords?_fieldRecords ih]
  | reference name required =>
      rw [record, ofRecord?]
      simp [Json.text?, Json.flag?, Json.lookup?]

/-- Each of the records of fields is the record of one of them. -/
theorem exists_of_mem_fieldRecords {fields : List Field} {v : Json}
    (h : v ∈ fieldRecords fields) :
    ∃ f ∈ fields, v = .object [("name", .text f.1), ("schema", f.2.record)] := by
  induction fields with
  | nil =>
      rw [fieldRecords] at h
      exact absurd h List.not_mem_nil
  | cons f fields ih =>
      rw [fieldRecords] at h
      rcases List.mem_cons.mp h with rfl | h
      · exact ⟨f, .head _, rfl⟩
      · obtain ⟨f, hf, hv⟩ := ih h
        exact ⟨f, .tail _ hf, hv⟩

/-- Records hold no numbers and repeat no keys. -/
theorem plain_record (s : Schema) : s.record.Plain := by
  induction s using Schema.induction with
  | primitive p required =>
      rw [record]
      exact .object (by simp) (by simp [Json.Plain.bool])
  | nullable inner ih =>
      rw [record]
      exact .object (by simp) (by simp [ih])
  | enumeration values required =>
      rw [record]
      have hvalues : (Json.list (values.map .text)).Plain :=
        .list (by simp)
      exact .object (by simp) (by simp [hvalues])
  | array item required ih =>
      rw [record]
      exact .object (by simp) (by simp [ih])
  | object fields required ih =>
      rw [record]
      have hfields : (Json.list (fieldRecords fields)).Plain := by
        refine .list fun v hv => ?_
        obtain ⟨f, hf, rfl⟩ := exists_of_mem_fieldRecords hv
        exact .object (by simp) (by simp [ih f hf])
      exact .object (by simp) (by simp [hfields])
  | reference name required =>
      rw [record]
      exact .object (by simp) (by simp [Json.Plain.bool])

end Schema

namespace Binding

theorem ofRecord?_record (b : Binding) : ofRecord? b.record = some b := by
  simp [record, ofRecord?, Json.text?, Json.lookup?, Schema.ofRecord?_record]

theorem plain_record (b : Binding) : b.record.Plain :=
  .object (by simp) (by simp [b.schema.plain_record])

end Binding

namespace Module

theorem ofRecord?_record (m : Module) : ofRecord? m.record = some m := by
  have hbindings : (m.bindings.map Binding.record).mapM Binding.ofRecord? = some m.bindings := by
    induction m.bindings with
    | nil => rfl
    | cons b bindings ih => simp [Binding.ofRecord?_record, ih]
  simp [record, ofRecord?, Json.text?, Json.lookup?, hbindings]

theorem plain_record (m : Module) : m.record.Plain := by
  have hbindings : (Json.list (m.bindings.map Binding.record)).Plain :=
    .list (by simp [Binding.plain_record])
  exact .object (by simp) (by simp [hbindings])

end Module

namespace Command

/-- The dumped text of a module is a document: it is read as the record of the module, if that
nests no more deeply than documents may. The record gives the module back, and no other module has
the same text. -/
theorem Arguments.product_faithful (a : Arguments) (dump : a.dumpIr = true) (m : Module) :
    (m.record.nesting ≤ Json.maxDepth → Json.read (a.product m) = .ok m.record) ∧
      Module.ofRecord? m.record = some m ∧
      ∀ m', a.product m' = a.product m → m' = m := by
  have written (m : Module) : a.product m = m.record.pretty ++ "\n" := by
    rw [product, if_pos dump]
  refine ⟨fun within => ?_, m.ofRecord?_record, fun m' same => ?_⟩
  · rw [written]
    exact Json.readWithin_pretty m.plain_record within
  · have hm := Json.readWithin_pretty m.plain_record
      (Nat.le_max_left m.record.nesting m'.record.nesting)
    have hm' := Json.readWithin_pretty m'.plain_record
      (Nat.le_max_right m.record.nesting m'.record.nesting)
    rw [written, written] at same
    rw [same, hm] at hm'
    have hrecord : m.record = m'.record := Except.ok.inj hm'
    rw [← Option.some_inj, ← m'.ofRecord?_record, ← hrecord, m.ofRecord?_record]

/-- A module whose names and words hold quotes, a control and a character beyond the first
plane. -/
def quoting : Module :=
  ⟨"./\"in\\put\"", [⟨"T", "isT", "T", .object
    [("\x01", .nullable (.enumeration ["\"", "\n", "𝄞"] false)),
      ("kind", .reference "T" false), ("", .array (.primitive .any false) true)] true⟩]⟩

theorem Arguments.product_faithful_quoting :
    let a : Arguments := ⟨"", "m.ts", none, true, none, none, false⟩
    a.dumpIr = true ∧ quoting.record.nesting ≤ Json.maxDepth ∧
      Json.read (a.product quoting) = .ok quoting.record ∧
      Module.ofRecord? quoting.record = some quoting := by
  intro a
  have dump : a.dumpIr = true := rfl
  have within : quoting.record.nesting ≤ Json.maxDepth := by decide
  obtain ⟨reads, back, -⟩ := a.product_faithful dump quoting
  exact ⟨dump, within, reads within, back⟩

end Command

end SchemaGuards
