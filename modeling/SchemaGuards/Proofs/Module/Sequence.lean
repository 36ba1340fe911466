import SchemaGuards.Module.Emit
import SchemaGuards.Proofs.Module.Compile

/-!
# Declarations one after the other

A list of declarations compiles declaration by declaration: each of them makes its own binding or
none, whatever stands around it, and the first one without a schema decides how the list fails. So
two lists in a row compile to the bindings and the text of the one, and then of the other.
-/

namespace SchemaGuards

namespace Declaration

/-- Interfaces and aliases declare a type; the other statements declare none. -/
def declares : Declaration → Bool
  | interface _ _ _ _ => true
  | typeAlias _ _ _ => true
  | other _ _ => false

theorem binding?_of_not_declares {d : Declaration} (h : d.declares = false) (naming : Naming) :
    d.binding? naming = .ok none := by
  cases d with
  | interface name typeParameters bases members => cases h
  | typeAlias name typeParameters type => cases h
  | other kind line => rfl

/-- The first declaration that does not compile is refused for the given reason. -/
def FirstRefused (naming : Naming) (declarations : List Declaration) (reason : Unsupported) :
    Prop :=
  ∃ before d after, declarations = before ++ d :: after ∧
    (∀ x ∈ before, ∃ made, x.binding? naming = .ok made) ∧ d.binding? naming = .error reason

end Declaration

namespace Module

open Declaration

variable {naming : Naming} {declarations : List Declaration}

theorem bindingsOf_append (naming : Naming) (first second : List Declaration) :
    bindingsOf naming (first ++ second) = (do
      let earlier ← bindingsOf naming first
      let later ← bindingsOf naming second
      pure (earlier ++ later)) := by
  induction first with
  | nil =>
      rw [List.nil_append]
      cases bindingsOf naming second <;> rfl
  | cons d rest ih =>
      rw [List.cons_append, bindingsOf, bindingsOf, ih]
      cases d.binding? naming with
      | error reason => rfl
      | ok made =>
          cases bindingsOf naming rest with
          | error reason => rfl
          | ok earlier =>
              cases bindingsOf naming second with
              | error reason => rfl
              | ok later =>
                  apply congrArg Except.ok
                  exact (List.append_assoc made.toList earlier later).symm

/-- Statements that declare no type make no difference. -/
theorem bindingsOf_filter_declares (naming : Naming) (declarations : List Declaration) :
    bindingsOf naming (declarations.filter declares) = bindingsOf naming declarations := by
  induction declarations with
  | nil => rfl
  | cons d rest ih =>
      cases hd : d.declares with
      | true => rw [List.filter_cons_of_pos hd, bindingsOf, bindingsOf, ih]
      | false =>
          rw [List.filter_cons_of_neg (by simp [hd]), ih, bindingsOf,
            binding?_of_not_declares hd]
          cases bindingsOf naming rest <;> rfl

/-- A list of declarations fails as its first failing declaration does. -/
theorem bindingsOf_eq_error_iff {reason : Unsupported} :
    bindingsOf naming declarations = .error reason ↔
      FirstRefused naming declarations reason := by
  constructor
  · intro failed
    induction declarations with
    | nil => cases failed
    | cons d rest ih =>
        cases hd : d.binding? naming with
        | error reason' =>
            rw [bindingsOf, hd] at failed
            obtain rfl : reason' = reason := Except.error.inj failed
            exact ⟨[], d, rest, rfl, List.forall_mem_nil _, hd⟩
        | ok made =>
            cases hrest : bindingsOf naming rest with
            | ok others =>
                rw [bindingsOf, hd, hrest] at failed
                cases failed
            | error reason' =>
                rw [bindingsOf, hd, hrest] at failed
                obtain rfl : reason' = reason := Except.error.inj failed
                obtain ⟨before, x, after, rfl, earlier, refused⟩ := ih hrest
                refine ⟨d :: before, x, after, rfl, ?_, refused⟩
                exact List.forall_mem_cons.mpr ⟨⟨made, hd⟩, earlier⟩
  · rintro ⟨before, d, after, rfl, earlier, refused⟩
    obtain ⟨bindings, compiled⟩ := exists_bindingsOf earlier
    rw [bindingsOf_append, compiled, bindingsOf, refused]
    rfl

/-- What two lists of declarations compile to in a row, by what each compiles to alone: the first
failure is that of the whole, and two modules are joined without the header of the second. -/
inductive Joined :
    Except Unsupported Module → Except Unsupported Module → Except Unsupported Module → Prop
  | first {reason second} : Joined (.error reason) second (.error reason)
  | second {m₁ reason} : Joined (.ok m₁) (.error reason) (.error reason)
  | both {m₁ m₂ m : Module} {body : String} (path : m.importPath = m₁.importPath)
      (bindings : m.bindings = m₁.bindings ++ m₂.bindings)
      (header : m₂.text = String.ofList (headerChars m₂.importPath) ++ body)
      (text : m.text = m₁.text ++ body) : Joined (.ok m₁) (.ok m₂) (.ok m)

/-- The text of a module is its header and the texts of its bindings. -/
theorem text_eq (m : Module) :
    m.text = String.ofList (headerChars m.importPath) ++
      String.ofList (m.bindings.flatMap bindingChars) :=
  String.ofList_append

/-- More bindings are written behind the others. -/
theorem text_append (path : String) (earlier later : List Binding) :
    text ⟨path, earlier ++ later⟩ =
      text ⟨path, earlier⟩ ++ String.ofList (later.flatMap bindingChars) := by
  rw [text_eq, text_eq, List.flatMap_append, String.ofList_append, String.append_assoc]

theorem ofDeclarations_joined (naming : Naming) (label : String)
    (first second : List Declaration) :
    Joined (ofDeclarations naming label first) (ofDeclarations naming label second)
      (ofDeclarations naming label (first ++ second)) := by
  rw [ofDeclarations, ofDeclarations, ofDeclarations, bindingsOf_append]
  cases bindingsOf naming first with
  | error reason => exact .first
  | ok earlier =>
      cases bindingsOf naming second with
      | error reason => exact .second
      | ok later =>
          exact .both rfl rfl (text_eq _) (text_append _ earlier later)

/-- Compilation is all or nothing, and goes declaration by declaration. Two lists in a row fail
as the first one that fails, and otherwise have the bindings and the text of the one and then of
the other. A list fails exactly when one of its declarations does, as the first of these, and
otherwise has one binding for each declared type, in order and under its own name. Statements that
declare no type may be put in and taken out anywhere. -/
theorem compiled_piecewise (naming : Naming) (label : String) :
    (∀ first second : List Declaration,
      Joined (ofDeclarations naming label first) (ofDeclarations naming label second)
        (ofDeclarations naming label (first ++ second))) ∧
    (∀ declarations reason, ofDeclarations naming label declarations = .error reason ↔
      FirstRefused naming declarations reason) ∧
    (∀ declarations m, ofDeclarations naming label declarations = .ok m →
      List.Forall₂ (MakesBinding naming) (declarations.filterMap declared?) m.bindings) ∧
    ∀ declarations declarations' : List Declaration,
      declarations.filter declares = declarations'.filter declares →
      ofDeclarations naming label declarations = ofDeclarations naming label declarations' := by
  refine ⟨ofDeclarations_joined naming label, ?_, ?_, ?_⟩
  · intro declarations reason
    rw [← bindingsOf_eq_error_iff, ofDeclarations]
    cases bindingsOf naming declarations <;> simp [Except.map]
  · intro declarations m compiled
    exact forall₂_of_bindingsOf (bindingsOf_of_ofDeclarations compiled)
  · intro declarations declarations' same
    rw [ofDeclarations, ofDeclarations, ← bindingsOf_filter_declares naming declarations, same,
      bindingsOf_filter_declares]

/-- A declared tag, and a class beside it. -/
def tags : List Declaration := [.typeAlias "Tag" [] (.keyword .string), .other "class" 2]

/-- A box with a tag, behind an import. -/
def boxes : List Declaration :=
  [.other "import" 1, .interface "Box" [] []
    [.property (.identifier "tag") false (some (.reference ⟨["Tag"]⟩ []))]]

/-- The tag and the box compile in a row, also without the statements beside them; a generic
declaration between them fails the whole list. -/
theorem compiled_piecewise_boxes :
    (∃ m₁ m₂ m, ofDeclarations ⟨"V"⟩ "a.ts" tags = .ok m₁ ∧
      ofDeclarations ⟨"V"⟩ "a.ts" boxes = .ok m₂ ∧
      ofDeclarations ⟨"V"⟩ "a.ts" (tags ++ boxes) = .ok m ∧
      m.bindings = m₁.bindings ++ m₂.bindings ∧
      m.bindings.map Binding.name = ["TagV", "BoxV"] ∧
      ofDeclarations ⟨"V"⟩ "a.ts" (tags.take 1 ++ boxes.drop 1) = .ok m) ∧
    ofDeclarations ⟨"V"⟩ "a.ts" (tags ++ .typeAlias "Id" ["T"] (.keyword .any) :: boxes) =
      .error (.generic "Id" ["T"]) := by
  obtain ⟨joined, refused, -, same⟩ := compiled_piecewise ⟨"V"⟩ "a.ts"
  constructor
  · obtain ⟨m₁, h₁⟩ : ∃ m, ofDeclarations ⟨"V"⟩ "a.ts" tags = .ok m := ⟨_, rfl⟩
    obtain ⟨m₂, h₂⟩ : ∃ m, ofDeclarations ⟨"V"⟩ "a.ts" boxes = .ok m := ⟨_, rfl⟩
    obtain ⟨m, h, names⟩ : ∃ m, ofDeclarations ⟨"V"⟩ "a.ts" (tags ++ boxes) = .ok m ∧
        m.bindings.map Binding.name = ["TagV", "BoxV"] := by decide +kernel
    have together := joined tags boxes
    rw [h₁, h₂, h] at together
    cases together with
    | both path bindings header text =>
        refine ⟨m₁, m₂, m, h₁, h₂, h, bindings, names, ?_⟩
        exact (same _ (tags ++ boxes) rfl).trans h
  · apply (refused _ _).mpr
    refine ⟨tags, .typeAlias "Id" ["T"] (.keyword .any), boxes, rfl, ?_, rfl⟩
    exact List.forall_mem_cons.mpr ⟨⟨_, rfl⟩, List.forall_mem_cons.mpr ⟨⟨_, rfl⟩, nofun⟩⟩

end Module

end SchemaGuards
