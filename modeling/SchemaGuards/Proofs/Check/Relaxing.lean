import SchemaGuards.Proofs.Check.Calls
import SchemaGuards.Proofs.Module.Compile
import SchemaGuards.Proofs.Schema.Relaxing

/-!
# Checks that require less

Where flags of a module are cleared, every document that passed still passes, and what passes now
and did not before was refused for a value that is required. Both checks make the same calls in the
same order and answer each of them alike, up to the first missing value that only one requires.
-/

namespace SchemaGuards

/-- A binding with some flags of its schema cleared. -/
def Binding.Relaxed (b b' : Binding) : Prop :=
  ∃ s, b.schema.Relaxed s ∧ b' = { b with schema := s }

/-- A module with some flags of its schemas cleared. -/
structure Module.Relaxed (m m' : Module) : Prop where
  path : m'.importPath = m.importPath
  bindings : List.Forall₂ Binding.Relaxed m.bindings m'.bindings

/-- A declaration with some properties made optional, at any depth of its types. -/
inductive Declaration.Loosened : Declaration → Declaration → Prop
  | interface {name typeParameters bases members members'}
      (each : List.Forall₂ TypeExpr.LoosenedMember members members') :
      Loosened (.interface name typeParameters bases members)
        (.interface name typeParameters bases members')
  | typeAlias {name typeParameters type type'} (h : type.Loosened type') :
      Loosened (.typeAlias name typeParameters type) (.typeAlias name typeParameters type')
  | other (kind line) : Loosened (.other kind line) (.other kind line)

namespace Check

/-- The second answer is the first one, unless the first one misses a required value. -/
inductive Forgives : Except Failure Unit → Except Failure Unit → Prop
  | same {x} : Forgives x x
  | missing {path y} : Forgives (.error (.violation path .required)) y

section Forgives

variable {x x' y y' : Except Failure Unit}

theorem Forgives.bind (hx : Forgives x x') (hy : Forgives y y') :
    Forgives (x >>= fun _ => y) (x' >>= fun _ => y') := by
  cases hx with
  | same =>
      cases x with
      | ok u => exact hy
      | error e => exact .same
  | missing => exact .missing

theorem forgives_absent (path : List Segment) {flag flag' : Bool} (cleared : flag' ≤ flag) :
    Forgives (absent path flag) (absent path flag') := by
  cases flag with
  | true => exact .missing
  | false =>
      obtain rfl := Bool.eq_false_of_le_false cleared
      exact .same

end Forgives

/-- The second answer accepts where the first one does. Where only the second one accepts, the
first one is a violation that a value is required. -/
structure Spares (x y : Except Failure Unit) : Prop where
  keeps : x = .ok () → y = .ok ()
  excuses : y = .ok () → x ≠ .ok () → ∃ path, x = .error (.violation path .required)

theorem Forgives.spares {x y : Except Failure Unit} (h : Forgives x y) : Spares x y := by
  cases h with
  | same => exact ⟨id, fun accepted refused => absurd accepted refused⟩
  | missing => exact ⟨nofun, fun _ _ => ⟨_, rfl⟩⟩

namespace Call

/-- The second call is the first one with some flags of its schema cleared. -/
inductive Relaxed : Call → Call → Prop
  | mk {chain path s s' value} (h : s.Relaxed s') :
      Relaxed ⟨chain, path, s, value⟩ ⟨chain, path, s', value⟩

variable {bindings bindings' : List Binding} {c c' : Call}

theorem rel_binding?_relaxed (each : List.Forall₂ Binding.Relaxed bindings bindings')
    (name : String) : Option.Rel Binding.Relaxed (Module.binding? bindings name)
      (Module.binding? bindings' name) := by
  refine Module.rel_binding? each ?_ name
  rintro b _ ⟨s, -, rfl⟩
  rfl

/-- The calls of a call with flags cleared are the calls of the call, with flags cleared. -/
theorem next_relaxed (each : List.Forall₂ Binding.Relaxed bindings bindings')
    (h : Relaxed c c') :
    List.Forall₂ Relaxed (c.next bindings) (c'.next bindings') := by
  obtain @⟨chain, path, s, s', value, h⟩ := h
  cases h with
  | @nullable inner inner' h =>
      by_cases hv : value = some .null
      · subst hv
        exact .nil
      · rw [next_nullable hv, next_nullable hv]
        exact .cons (.mk h) .nil
  | @reference name flag flag' cleared =>
      cases value with
      | none => exact .nil
      | some value =>
          simp only [next]
          split
          · exact .nil
          · have related := rel_binding?_relaxed each name
            generalize Module.binding? bindings name = found at related ⊢
            generalize Module.binding? bindings' name = found' at related ⊢
            cases related with
            | none => exact .nil
            | some h =>
                obtain ⟨s, h, rfl⟩ := h
                exact .cons (.mk h) .nil
  | @array item item' flag flag' h cleared =>
      rcases value with _ | (_ | _ | _ | _ | elements | _)
      case some.list =>
        simp only [next, List.forall₂_map_left_iff, List.forall₂_map_right_iff]
        exact List.forall₂_same.mpr fun _ _ => .mk h
      all_goals exact .nil
  | @object fields fields' flag flag' inside cleared =>
      rcases value with _ | (_ | _ | _ | _ | _ | entries)
      case some.object =>
        simp only [next, List.forall₂_map_left_iff, List.forall₂_map_right_iff]
        refine inside.imp fun f f' h => ?_
        obtain ⟨h⟩ := h
        exact .mk h
      all_goals exact .nil
  | primitive cleared => cases value <;> exact .nil
  | enumeration cleared => cases value <;> exact .nil

theorem map_fst_relaxed {fields fields' : List Schema.Field}
    (each : List.Forall₂ Schema.RelaxedField fields fields') :
    fields'.map (·.1) = fields.map (·.1) := by
  induction each with
  | nil => rfl
  | cons h _ ih => rw [List.map_cons, List.map_cons, h.name_eq, ih]

/-- The own test of a call with flags cleared fails as that of the call, but for a missing value. -/
theorem own_relaxed (each : List.Forall₂ Binding.Relaxed bindings bindings') (h : Relaxed c c') :
    Forgives (c.own bindings) (c'.own bindings') := by
  obtain @⟨chain, path, s, s', value, h⟩ := h
  cases value with
  | none =>
      cases h with
      | nullable h => exact .same
      | primitive cleared | enumeration cleared | array h cleared | object inside cleared
      | reference cleared => exact forgives_absent path cleared
  | some value =>
      cases h with
      | nullable h | primitive cleared | enumeration cleared => exact .same
      | array h cleared => cases value <;> exact .same
      | object inside cleared =>
          cases value with
          | object entries =>
              simp only [own, unknownKey?, map_fst_relaxed inside]
              exact .same
          | _ => exact .same
      | @reference name flag flag' cleared =>
          simp only [own]
          split
          · exact .same
          · have related := rel_binding?_relaxed each name
            generalize Module.binding? bindings name = found at related ⊢
            generalize Module.binding? bindings' name = found' at related ⊢
            cases related <;> exact .same

/-- A call with flags cleared answers as the call, up to the first missing value. -/
theorem answer_relaxed (each : List.Forall₂ Binding.Relaxed bindings bindings')
    (h : Relaxed c c') : Forgives (c.answer bindings) (c'.answer bindings') := by
  induction c using Call.induction bindings generalizing c' with
  | step c ih =>
      rw [answer_eq, answer_eq bindings']
      refine Forgives.bind ?_ (own_relaxed each h)
      refine Result.forM_related .same (fun _ _ _ _ => Forgives.bind) (next_relaxed each h) ?_
      exact fun d hd d' hd' => ih d (mem_next_iff.mp hd) hd'

end Call

end Check

namespace Module

open Check

variable {m m' : Module}

theorem validateBinding_relaxed (h : m.Relaxed m') (name : String) (document : Json) :
    Forgives (m.validateBinding name document) (m'.validateBinding name document) := by
  rw [validateBinding, validateBinding]
  have related := Call.rel_binding?_relaxed h.bindings name
  generalize binding? m.bindings name = found at related ⊢
  generalize binding? m'.bindings name = found' at related ⊢
  cases related with
  | none => exact .same
  | some hb =>
      obtain ⟨s, hs, rfl⟩ := hb
      exact Call.answer_relaxed h.bindings (.mk hs)

theorem validate_forgives (h : m.Relaxed m') (typeName : String) (document : Json) :
    Forgives (m.validate typeName document) (m'.validate typeName document) := by
  refine validate_related h.bindings ?_ (fun _ => .same) (fun name => ?_) typeName
  · rintro b _ ⟨s, -, rfl⟩
    exact ⟨rfl, rfl⟩
  · exact validateBinding_relaxed h name document

end Module

namespace Declaration

variable {naming : Naming} {d d' : Declaration}

/-- A declaration with more optional properties compiles if the declaration does, to its binding
with flags cleared. -/
theorem binding?_loosened (h : d.Loosened d') :
    Result.Together (Option.Rel Binding.Relaxed) (d.binding? naming) (d'.binding? naming) := by
  cases h with
  | interface each =>
      rw [binding?, binding?]
      split
      · exact .error
      · split
        · exact .error
        · have inside : Result.Together (List.Forall₂ Schema.RelaxedField)
              (TypeExpr.fields naming _) (TypeExpr.fields naming _) :=
            TypeExpr.fields_loosened each fun p _ t' h _ _ cleared =>
              TypeExpr.schema_loosened h cleared
          refine inside.bind fun fields fields' each => .ok (.some ⟨_, ?_, rfl⟩)
          exact .object each (Bool.le_refl false)
  | typeAlias h =>
      rw [binding?, binding?]
      split
      · exact .error
      · refine (TypeExpr.schema_loosened h (Bool.le_refl false)).bind fun s s' hs => ?_
        exact .ok (.some ⟨s', hs, rfl⟩)
  | other kind line => exact .ok .none

end Declaration

namespace Module

open Check Declaration

variable {naming : Naming} {declarations declarations' : List Declaration}

theorem ofDeclarations_loosened (label : String)
    (each : List.Forall₂ Loosened declarations declarations') :
    Result.Together Relaxed (ofDeclarations naming label declarations)
      (ofDeclarations naming label declarations') :=
  (bindingsOf_together each fun _ _ => binding?_loosened).map fun _ _ each => ⟨rfl, each⟩

/-- Fewer required values only ever make more documents pass, and only for missing values. This is
so for flags that are cleared anywhere in a module, and for properties that are made optional
anywhere in declarations, which compile as before. -/
theorem validate_relaxed :
    (∀ m m' : Module, m.Relaxed m' → ∀ typeName document,
      Spares (m.validate typeName document) (m'.validate typeName document)) ∧
    ∀ (naming : Naming) (label : String) (declarations declarations' : List Declaration),
      List.Forall₂ Loosened declarations declarations' →
        ((∃ m, ofDeclarations naming label declarations = .ok m) ↔
          ∃ m', ofDeclarations naming label declarations' = .ok m') ∧
        ∀ m m', ofDeclarations naming label declarations = .ok m →
          ofDeclarations naming label declarations' = .ok m' → ∀ typeName document,
            Spares (m.validate typeName document) (m'.validate typeName document) := by
  have relaxed (m m' : Module) (h : m.Relaxed m') (typeName : String) (document : Json) :
      Spares (m.validate typeName document) (m'.validate typeName document) :=
    (validate_forgives h typeName document).spares
  refine ⟨relaxed, fun naming label declarations declarations' each => ?_⟩
  have compiled : Result.Together Relaxed (ofDeclarations naming label declarations)
      (ofDeclarations naming label declarations') := ofDeclarations_loosened label each
  exact ⟨compiled.exists_ok_iff, fun m m' hm hm' => relaxed m m' (compiled.of_ok hm hm')⟩

/-- A letter with its address and the letters that answer it. -/
def letter (street : Bool) : List Declaration :=
  [.interface "Letter" [] [] [
    .property (.identifier "to") false (some (.object [
      .property (.identifier "street") street (some (.keyword .string)),
      .property (.identifier "town") false (some (.keyword .string))])),
    .property (.identifier "answers") true (some (.array (.reference ⟨["Letter"]⟩ [])))]]

/-- A letter without a street passes when the street is optional. It was refused for that, two
objects below the top. -/
theorem validate_relaxed_letter :
    let town := Json.object [("to", .object [("town", .text "Oslo")])]
    ∃ m m', ofDeclarations ⟨"V"⟩ "input" (letter false) = .ok m ∧
      ofDeclarations ⟨"V"⟩ "input" (letter true) = .ok m' ∧ m.Relaxed m' ∧
      m'.validate "Letter" town = .ok () ∧
      (∃ path, m.validate "Letter" town = .error (.violation path .required)) ∧
      ∀ document, m.validate "Letter" document = .ok () →
        m'.validate "Letter" document = .ok () := by
  intro town
  have loosened : List.Forall₂ Loosened (letter false) (letter true) := by
    have street : TypeExpr.LoosenedMember
        (.property (.identifier "street") false (some (.keyword .string)))
        (.property (.identifier "street") true (some (.keyword .string))) :=
      .typed (by decide) (.keyword .string)
    have town : TypeExpr.LoosenedMember
        (.property (.identifier "town") false (some (.keyword .string)))
        (.property (.identifier "town") false (some (.keyword .string))) :=
      .typed (Bool.le_refl _) (.keyword .string)
    have answers := TypeExpr.Loosened.array (.reference ⟨["Letter"]⟩ .nil)
    have address := TypeExpr.Loosened.object (.cons street (.cons town .nil))
    exact .cons (.interface (.cons (.typed (Bool.le_refl _) address)
      (.cons (.typed (Bool.le_refl _) answers) .nil))) .nil
  obtain ⟨m, hm⟩ : ∃ m, ofDeclarations ⟨"V"⟩ "input" (letter false) = .ok m := ⟨_, rfl⟩
  obtain ⟨m', hm'⟩ : ∃ m', ofDeclarations ⟨"V"⟩ "input" (letter true) = .ok m' := ⟨_, rfl⟩
  have spares := (validate_relaxed.2 ⟨"V"⟩ "input" _ _ loosened).2 m m' hm hm' "Letter"
  have relaxed : m.Relaxed m' := (ofDeclarations_loosened "input" loosened).of_ok hm hm'
  have accepted : m'.validate "Letter" town = .ok () := by
    cases hm'
    simp [town, validate, validateBinding, bindingOfType?, Module.binding?, binding?.bound, check,
      checkFields, Json.lookup?, checkPrimitive, isOfKind, absent, unknownKey?, bind, Except.bind]
  have refused : m.validate "Letter" town ≠ .ok () := by
    cases hm
    simp [town, validate, validateBinding, bindingOfType?, Module.binding?, binding?.bound, check,
      checkFields, Json.lookup?, absent, violated, bind, Except.bind]
  exact ⟨m, m', hm, hm', relaxed, accepted, (spares town).excuses accepted refused,
    fun document => (validate_relaxed.1 m m' relaxed "Letter" document).keeps⟩

end Module

end SchemaGuards
