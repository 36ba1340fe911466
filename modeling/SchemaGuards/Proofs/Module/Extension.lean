import SchemaGuards.Proofs.Schema.References
import Mathlib.Data.List.Nodup

/-!
# Modules with more bindings

A check sees a module only as a map from names to schemas. Bindings with distinct names may stand
in any order, and bindings that the module neither has nor refers to may stand among them: every
name of the module leads where it led before, and a name that led nowhere still does.
-/

namespace SchemaGuards

namespace Check.Call

variable {bindings bindings' : List Binding}

/-- The calls that a call makes depend only on what the references of its schema are bound to. -/
theorem next_eq_of_agree {c : Call} (agree : ∀ name, c.schema.Refers name →
      Module.binding? bindings' name = Module.binding? bindings name) :
    c.next bindings' = c.next bindings := by
  obtain ⟨chain, path, schema, value⟩ := c
  cases schema with
  | reference name required =>
      cases value with
      | none => rfl
      | some value => simp only [next, agree name .here]
  | _ => rcases value with _ | (_ | _ | _ | _ | _ | _) <;> rfl

theorem own_eq_of_agree {c : Call} (agree : ∀ name, c.schema.Refers name →
      Module.binding? bindings' name = Module.binding? bindings name) :
    c.own bindings' = c.own bindings := by
  obtain ⟨chain, path, schema, value⟩ := c
  cases schema with
  | reference name required =>
      cases value with
      | none => rfl
      | some value => simp only [own, agree name .here]
  | _ => rcases value with _ | (_ | _ | _ | _ | _ | _) <;> rfl

/-- Bindings that agree on the names that their schemas refer to answer alike. -/
theorem answer_eq_of_agree
    (agree : ∀ b ∈ bindings, ∀ name, b.schema.Refers name →
      Module.binding? bindings' name = Module.binding? bindings name) (c : Call)
    (hc : ∀ name, c.schema.Refers name →
      Module.binding? bindings' name = Module.binding? bindings name) :
    c.answer bindings' = c.answer bindings := by
  induction c using Call.induction bindings with
  | step c ih =>
      have hcalls : (c.next bindings).forM (answer bindings') =
          (c.next bindings).forM (answer bindings) := by
        refine Result.forM_congr fun d hd => ?_
        have hd := mem_next_iff.mp hd
        refine ih d hd fun name hn => ?_
        rcases hd.refers hn with hn | ⟨b, hb, hn⟩
        · exact hc name hn
        · exact agree b hb name hn
      rw [answer_eq, answer_eq bindings, next_eq_of_agree hc, own_eq_of_agree hc, hcalls]

end Check.Call

namespace Module

open Check

/-- A module extends another one by some bindings, wherever these and the others stand. The
bindings of the module have distinct names and types; those inserted have none of these, and the
module does not refer to them. -/
structure Extends (m m' : Module) (inserted : List Binding) : Prop where
  distinct : (m.bindings.map Binding.name).Nodup
  distinctTypes : (m.bindings.map Binding.typeName).Nodup
  arranged : m'.bindings.Perm (m.bindings ++ inserted)
  new : ∀ b ∈ inserted, b.name ∉ m.bindings.map Binding.name
  newTypes : ∀ b ∈ inserted, b.typeName ∉ m.bindings.map Binding.typeName
  unused : ∀ b ∈ inserted, ∀ c ∈ m.bindings, ¬ c.schema.Refers b.name

variable {m m' : Module} {inserted : List Binding} {name : String}

/-- What is found under a key that no inserted binding has is what was found before. -/
theorem lastWhere_iff_of_perm {key : Binding → String} {bindings bindings' : List Binding}
    {b : Binding} (distinct : (bindings.map key).Nodup)
    (arranged : bindings'.Perm (bindings ++ inserted)) (apart : name ∉ inserted.map key) :
    LastWhere (fun b => key b = name) bindings' b ↔
      LastWhere (fun b => key b = name) bindings b := by
  have hmem (b : Binding) (hb : key b = name) : b ∈ bindings' ↔ b ∈ bindings := by
    rw [arranged.mem_iff, List.mem_append]
    exact or_iff_left fun h => apart (hb ▸ List.mem_map_of_mem h)
  have alone : ∀ b ∈ bindings, ∀ c ∈ bindings, key b = name → key c = name → b = c :=
    fun b hb c hc hbn hcn => List.inj_on_of_nodup_map distinct hb hc (hbn.trans hcn.symm)
  have alone' : ∀ b ∈ bindings', ∀ c ∈ bindings', key b = name → key c = name → b = c :=
    fun b hb c hc hbn hcn => alone b ((hmem b hbn).mp hb) c ((hmem c hcn).mp hc) hbn hcn
  rw [LastWhere.iff_mem_of_unique alone, LastWhere.iff_mem_of_unique alone']
  exact and_congr_left (hmem b)

theorem Extends.binding?_eq (h : m.Extends m' inserted)
    (apart : name ∉ inserted.map Binding.name) :
    binding? m'.bindings name = binding? m.bindings name := by
  refine Option.ext fun b => ?_
  rw [binding?_eq_some_iff, binding?_eq_some_iff]
  exact lastWhere_iff_of_perm h.distinct h.arranged apart

theorem Extends.bindingOfType?_eq (h : m.Extends m' inserted)
    (apart : name ∉ inserted.map Binding.typeName) :
    bindingOfType? m'.bindings name = bindingOfType? m.bindings name := by
  refine Option.ext fun b => ?_
  rw [bindingOfType?_eq_some_iff, bindingOfType?_eq_some_iff]
  exact lastWhere_iff_of_perm h.distinctTypes h.arranged apart

/-- References of the module lead where they led before. -/
theorem Extends.agree (h : m.Extends m' inserted) :
    ∀ b ∈ m.bindings, ∀ name, b.schema.Refers name →
      binding? m'.bindings name = binding? m.bindings name := by
  intro b hb name hn
  refine h.binding?_eq fun hmem => ?_
  obtain ⟨c, hc, rfl⟩ := List.mem_map.mp hmem
  exact h.unused c hc b hb hn

theorem Extends.validateBinding_eq (h : m.Extends m' inserted)
    (apart : name ∉ inserted.map Binding.name) (document : Json) :
    m'.validateBinding name document = m.validateBinding name document := by
  rw [validateBinding, validateBinding, h.binding?_eq apart]
  cases found : binding? m.bindings name with
  | none => rfl
  | some target =>
      have inside := h.agree target (mem_of_binding? found)
      exact Call.answer_eq_of_agree h.agree (Call.start name target document) inside

/-- A module that holds more bindings, in any order, checks as the module does: every document
gets the same answer against every type and every binding, but for those that were inserted. Names
that are bound nowhere and references in circles stay what they were. -/
theorem validate_extended (h : m.Extends m' inserted) (document : Json) :
    (∀ typeName, typeName ∉ inserted.map Binding.typeName →
      m'.validate typeName document = m.validate typeName document) ∧
    ∀ name, name ∉ inserted.map Binding.name →
      m'.validateBinding name document = m.validateBinding name document := by
  refine ⟨fun typeName apart => ?_, fun name apart => h.validateBinding_eq apart document⟩
  rw [validate, validate, h.bindingOfType?_eq apart]
  cases found : bindingOfType? m.bindings typeName with
  | none => rfl
  | some target =>
      have hmem := (bindingOfType?_eq_some_iff.mp found).mem
      refine h.validateBinding_eq (fun hinserted => ?_) document
      obtain ⟨b, hb, hname⟩ := List.mem_map.mp hinserted
      exact h.new b hb (hname ▸ List.mem_map_of_mem hmem)

/-- Rows that lead to one another through their tails, and a reference to a name that is bound
nowhere. -/
def rows : Module :=
  ⟨"./input", [
    ⟨"Row", "isRow", "Row", .object [("tail", .nullable (.reference "Tail" true))] false⟩,
    ⟨"Tail", "isTail", "Tail", .array (.reference "Row" false) false⟩,
    ⟨"Lost", "isLost", "Lost", .reference "Gone" false⟩]⟩

/-- Two bindings of one new name, the second of which leads back to itself. -/
def others : List Binding :=
  [⟨"Other", "isOther", "Any", .primitive .any true⟩,
    ⟨"Other", "isOther", "Loop", .nullable (.reference "Other" false)⟩]

/-- The rows stand backwards behind the other bindings and are checked as before; the name that is
bound nowhere is still told. -/
theorem validate_extended_rows :
    let more : Module := ⟨"./input", others ++ rows.bindings.reverse⟩
    rows.Extends more others ∧
      (∀ document, more.validate "Row" document = rows.validate "Row" document) ∧
      more.validateBinding "Lost" (.bool true) = .error (.unknownBinding "Gone") := by
  intro more
  have hmore : rows.Extends more others := by
    refine ⟨by decide, by decide, ?_, by decide, by decide, ?_⟩
    · exact List.perm_append_comm.trans ((List.reverse_perm rows.bindings).append_right others)
    · simp only [← Schema.mem_references_iff]
      decide
  have lost : rows.validateBinding "Lost" (.bool true) = .error (.unknownBinding "Gone") := by
    have bound : Bound rows.bindings "Lost" ⟨"Lost", "isLost", "Lost", .reference "Gone" false⟩ :=
      binding?_eq_some_iff.mp rfl
    rw [validateBinding_eq_answer bound, Call.answer_eq]
    rfl
  refine ⟨hmore, fun document => ?_, ?_⟩
  · exact (validate_extended hmore document).1 "Row" (by decide)
  · exact ((validate_extended hmore (.bool true)).2 "Lost" (by decide)).trans lost

end Module

end SchemaGuards
