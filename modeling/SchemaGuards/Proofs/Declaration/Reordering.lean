import SchemaGuards.Proofs.Declaration.Meaning
import SchemaGuards.Proofs.Json.Reordering
import SchemaGuards.Proofs.Schema.Reordering

/-!
# Order and acceptance

The order of the members of unions, object types and interfaces does not decide whether
declarations compile, and together with the order of the keys of a document it does not decide what
a guard accepts. It decides which failure is told: the first one.

## Implementation notes

Two checks of reordered modules are not in step, since each stops at its first failure. What they
accept is compared through the documents that the declared types describe, where no order is left.
-/

namespace SchemaGuards

namespace Declaration

/-- Two declarations differ only by the order of members of unions, object types and interfaces. -/
inductive Reordered : Declaration → Declaration → Prop
  | interface (name typeParameters bases) {members members'}
      (order : Rearranged TypeExpr.ReorderedMember members members') :
      Reordered (.interface name typeParameters bases members)
        (.interface name typeParameters bases members')
  | typeAlias (name typeParameters) {type type'} (h : type.Reordered type') :
      Reordered (.typeAlias name typeParameters type) (.typeAlias name typeParameters type')
  | other (kind line) : Reordered (.other kind line) (.other kind line)

variable {naming : Naming} {d d' : Declaration} {declarations declarations' : List Declaration}
  {type type' : TypeExpr} {document document' : Json} {name : String}

theorem Reordered.symm (h : d.Reordered d') : d'.Reordered d := by
  cases h with
  | interface name typeParameters bases order =>
      cases (TypeExpr.Reordered.object order).symm with
      | object back => exact .interface name typeParameters bases back
  | typeAlias name typeParameters h => exact .typeAlias name typeParameters h.symm
  | other kind line => exact .other kind line

/-- A declaration compiles if it compiles with members in another order. -/
theorem binding?_reordered (h : d.Reordered d') :
    Result.Together (Option.Rel fun _ _ => True) (d.binding? naming) (d'.binding? naming) := by
  cases h with
  | interface name typeParameters bases order =>
      rw [binding?, binding?]
      split
      · exact .error
      · split
        · exact .error
        · have inside := Result.Together.of_exists_ok_iff
            (TypeExpr.exists_fields_reordered naming order)
          exact inside.bind fun _ _ _ => .ok (.some trivial)
  | typeAlias name typeParameters h =>
      rw [binding?, binding?]
      split
      · exact .error
      · have inside := Result.Together.of_exists_ok_iff
          (TypeExpr.exists_schema_reordered naming h false)
        exact inside.bind fun _ _ _ => .ok (.some trivial)
  | other kind line => exact .ok .none

/-- What a name is declared as it is declared as in another order as well. -/
theorem DeclaredAs.exists_reordered (each : List.Forall₂ Reordered declarations declarations')
    (declared : DeclaredAs declarations name type) :
    ∃ type', DeclaredAs declarations' name type' ∧ type.Reordered type' := by
  have both : List.Forall₂ (fun p p' => p'.1 = p.1 ∧ p.2.Reordered p'.2)
      (declarations.filterMap declared?) (declarations'.filterMap declared?) := by
    clear declared
    induction each with
    | nil => exact .nil
    | cons h _ ih =>
        cases h with
        | interface name typeParameters bases order => exact .cons ⟨rfl, .object order⟩ ih
        | typeAlias name typeParameters h => exact .cons ⟨rfl, h⟩ ih
        | other kind line => exact ih
  obtain ⟨⟨name', type'⟩, last, hname, h⟩ :=
    declared.exists_forall₂ (q := fun p => p.1 = name) both fun p p' h => by rw [h.1]
  obtain rfl : name' = name := hname
  exact ⟨type', last, h⟩

theorem isOfKind_reordered (h : document.Reordered document') (kind : Primitive) :
    Check.isOfKind kind document' = Check.isOfKind kind document := by
  cases h with
  | list | object => cases kind <;> rfl
  | _ => rfl

/-- A type that may be `null` may be so in another order. -/
theorem isOrNull_reordered (h : type.Reordered type') (isOrNull : type.IsOrNull) :
    type'.IsOrNull := by
  obtain ⟨types, other, rfl, shape⟩ := isOrNull
  cases h with
  | union order =>
      obtain ⟨other', shape', -⟩ := shape.exists_reordered order
      exact ⟨_, other', rfl, shape'⟩

theorem mayBeMissing_reordered {p p' : Property} (h : TypeExpr.ReorderedProperty p p')
    (missing : p.MayBeMissing) : p'.MayBeMissing :=
  missing.imp h.optional.trans (isOrNull_reordered h.type)

/-- An object is described with properties and keys in another order, if its values are. -/
theorem satisfies_object_reordered {members members' : List Member}
    {entries entries' : List (String × Json)}
    (order : Rearranged TypeExpr.ReorderedMember members members')
    (distinct : (entries.map (·.1)).Nodup) (keys : Rearranged Json.ReorderedEntry entries entries')
    (known : ∀ e ∈ entries, ∃ p ∈ Member.kept members, p.name = e.1)
    (inside : ∀ p ∈ Member.kept members, ∀ document,
      Json.lookup? p.name entries = some document → ∀ {type' document'},
        p.type.Reordered type' → document.Reordered document' →
          Satisfies declarations type' document')
    (missing : ∀ p ∈ Member.kept members,
      Json.lookup? p.name entries = none → p.MayBeMissing) :
    Satisfies declarations (.object members') (.object entries') := by
  have kept := TypeExpr.kept_reordered order
  refine .object (fun e' he' => ?_) (fun p' hp' document' found' => ?_) fun p' hp' absent' => ?_
  · obtain ⟨e, he, hentry⟩ := keys.exists_left e' he'
    obtain ⟨p, hp, hname⟩ := known e he
    obtain ⟨p', hp', h⟩ := kept.exists_right p hp
    obtain ⟨key, -⟩ := hentry
    exact ⟨p', hp', h.name.trans hname⟩
  · obtain ⟨p, hp, h⟩ := kept.exists_left p' hp'
    rw [h.name] at found'
    obtain ⟨document, found, hdocument⟩ := Json.exists_lookup?_reordered distinct keys found'
    exact inside p hp document found h.type hdocument
  · obtain ⟨p, hp, h⟩ := kept.exists_left p' hp'
    rw [h.name, Json.lookup?_eq_none_reordered keys] at absent'
    exact mayBeMissing_reordered h (missing p hp absent')

/-- A document that a type describes is described with members and keys in another order. -/
theorem Satisfies.reordered (each : List.Forall₂ Reordered declarations declarations')
    (h : Satisfies declarations type document) :
    ∀ {type' document'}, type.Reordered type' → document.Reordered document' →
      Satisfies declarations' type' document' := by
  induction h with
  | keyword named holds =>
      intro type' document' htype hdocument
      cases htype
      exact .keyword named ((isOfKind_reordered hdocument _).trans holds)
  | null shape =>
      intro type' document' htype hdocument
      cases hdocument
      cases htype with
      | union order =>
          obtain ⟨other', shape', -⟩ := shape.exists_reordered order
          exact .null shape'
  | orNull shape _ ih =>
      intro type' document' htype hdocument
      cases htype with
      | union order =>
          obtain ⟨other', shape', hother⟩ := shape.exists_reordered order
          exact .orNull shape' (ih hother hdocument)
  | @choice values s listed =>
      intro type' document' htype hdocument
      cases hdocument
      cases htype with
      | @union _ types' order =>
          have isChoice : TypeExpr.unlessChoice types' = [] :=
            TypeExpr.unlessChoice_reordered order (TypeExpr.unlessChoice_eq_nil_iff.mpr ⟨_, rfl⟩)
          obtain ⟨values', rfl⟩ := TypeExpr.unlessChoice_eq_nil_iff.mp isChoice
          obtain ⟨t', ht', h⟩ := order.exists_right _ (List.mem_map.mpr ⟨s, listed, rfl⟩)
          cases h
          obtain ⟨s', listed', hs⟩ := List.mem_map.mp ht'
          cases hs
          exact .choice listed'
  | array _ ih =>
      intro type' document' htype hdocument
      cases htype with
      | array hitem =>
          cases hdocument with
          | list elements =>
              refine .array fun e' he' => ?_
              obtain ⟨e, he, h⟩ := exists_left_of_forall₂ elements he'
              exact ih e he hitem h
  | object known _ missing ih =>
      intro type' document' htype hdocument
      cases htype with
      | object order =>
          cases hdocument with
          | object distinct keys =>
              exact satisfies_object_reordered order distinct keys known ih missing
  | reference declared _ ih =>
      intro type' document' htype hdocument
      cases htype with
      | reference _ noArguments =>
          cases noArguments
          obtain ⟨type', declared', h⟩ := declared.exists_reordered each
          exact .reference declared' (ih h hdocument)

end Declaration

namespace Module

open Declaration

variable {naming : Naming} {declarations declarations' : List Declaration}
  {document document' : Json} {name : String}

/-- A declared type describes a document if it does with members and keys in another order. -/
theorem describes_reordered (each : List.Forall₂ Reordered declarations declarations')
    (h : document.Reordered document') :
    (∃ type, DeclaredAs declarations name type ∧ Satisfies declarations type document) →
      ∃ type, DeclaredAs declarations' name type ∧ Satisfies declarations' type document' := by
  rintro ⟨type, declared, describes⟩
  obtain ⟨type', declared', htype⟩ := declared.exists_reordered each
  exact ⟨type', declared', describes.reordered each htype h⟩

/-- Declarations that differ only by the order of members of unions, object types and interfaces
compile together or not at all, and their guards accept the same documents, up to the order of
keys. -/
theorem accepts_reordered (naming : Naming) (label : String)
    (declarations declarations' : List Declaration)
    (each : List.Forall₂ Reordered declarations declarations') :
    ((∃ m, ofDeclarations naming label declarations = .ok m) ↔
      ∃ m', ofDeclarations naming label declarations' = .ok m') ∧
    ∀ m m', ofDeclarations naming label declarations = .ok m →
      ofDeclarations naming label declarations' = .ok m' →
        ∀ name (document document' : Json), document.Reordered document' →
          (m.accepts name document = .ok true ↔ m'.accepts name document' = .ok true) := by
  have compiled : Result.Together (fun _ _ => True) (ofDeclarations naming label declarations)
      (ofDeclarations naming label declarations') :=
    (bindingsOf_together each fun _ _ => binding?_reordered).map fun _ _ _ => trivial
  refine ⟨compiled.exists_ok_iff, fun m m' hm hm' name document document' h => ?_⟩
  rw [accepts_eq_true_iff_satisfies (bindingsOf_of_ofDeclarations hm),
    accepts_eq_true_iff_satisfies (bindingsOf_of_ofDeclarations hm')]
  have back : List.Forall₂ Reordered declarations' declarations :=
    each.flip.imp fun _ _ h => h.symm
  exact ⟨describes_reordered each h, describes_reordered back h.symm⟩

/-- The members of a switch: it is on or off, and there is a next one or none. -/
def switchMembers : List Member :=
  [.property (.identifier "state") false
      (some (.union [.literal (.string "on"), .literal (.string "off")])),
    .property (.identifier "next") false
      (some (.union [.reference ⟨["Switch"]⟩ [], .keyword .null]))]

/-- The members of a switch, in the opposite order at each place. -/
def reversedMembers : List Member :=
  [.property (.identifier "next") false
      (some (.union [.keyword .null, .reference ⟨["Switch"]⟩ []])),
    .property (.identifier "state") false
      (some (.union [.literal (.string "off"), .literal (.string "on")]))]

/-- Two switches in a row are accepted with members in either order and keys in either order. -/
theorem accepts_reordered_switches :
    let switches : List Declaration := [.interface "Switch" [] [] switchMembers]
    let reversed : List Declaration := [.interface "Switch" [] [] reversedMembers]
    let row := Json.object [("state", .text "on"),
      ("next", .object [("state", .text "off"), ("next", .null)])]
    let reversedRow := Json.object [("next", .object [("next", .null), ("state", .text "off")]),
      ("state", .text "on")]
    List.Forall₂ Reordered switches reversed ∧ row.Reordered reversedRow ∧
      ∃ m m', ofDeclarations ⟨"V"⟩ "input" switches = .ok m ∧
        ofDeclarations ⟨"V"⟩ "input" reversed = .ok m' ∧
        m.accepts "Switch" row = .ok true ∧ m'.accepts "Switch" reversedRow = .ok true := by
  intro switches reversed row reversedRow
  have each : List.Forall₂ Reordered switches reversed := by
    have state : TypeExpr.Reordered (.union [.literal (.string "on"), .literal (.string "off")])
        (.union [.literal (.string "off"), .literal (.string "on")]) :=
      .union (.reorder (.cons (.literal _) (.cons (.literal _) .nil)) (.swap _ _ _))
    have next : TypeExpr.Reordered (.union [.reference ⟨["Switch"]⟩ [], .keyword .null])
        (.union [.keyword .null, .reference ⟨["Switch"]⟩ []]) :=
      .union (.reorder (.cons (.reference _ .nil) (.cons (.keyword _) .nil)) (.swap _ _ _))
    have members : Rearranged TypeExpr.ReorderedMember switchMembers reversedMembers :=
      .reorder (.cons (.typed _ _ state) (.cons (.typed _ _ next) .nil)) (.swap _ _ _)
    exact .cons (.interface _ _ _ members) .nil
  have keys : row.Reordered reversedRow := by
    have last : Json.Reordered (.object [("state", .text "off"), ("next", .null)])
        (.object [("next", .null), ("state", .text "off")]) :=
      .object (by decide) (.reorder (.cons (.mk _ (.text _)) (.cons (.mk _ .null) .nil))
        (.swap _ _ _))
    exact .object (by decide) (.reorder (.cons (.mk _ (.text _)) (.cons (.mk _ last) .nil))
      (.swap _ _ _))
  have declared : DeclaredAs switches "Switch" (.object switchMembers) := ⟨[], [], rfl, rfl, nofun⟩
  have kept : Member.kept switchMembers =
      [⟨"state", false, .union [.literal (.string "on"), .literal (.string "off")]⟩,
        ⟨"next", false, .union [.reference ⟨["Switch"]⟩ [], .keyword .null]⟩] := rfl
  have described {state : String} {next : Json} (listed : state ∈ ["on", "off"])
      (h : Satisfies switches (.union [.reference ⟨["Switch"]⟩ [], .keyword .null]) next) :
      Satisfies switches (.object switchMembers)
        (.object [("state", .text state), ("next", next)]) := by
    have hstate : Satisfies switches (.union [.literal (.string "on"), .literal (.string "off")])
        (.text state) := .choice listed
    refine .object ?_ ?_ ?_
    · simp [kept]
    · simpa [kept, Json.lookup?] using ⟨hstate, h⟩
    · simp [kept, Json.lookup?]
  obtain ⟨compiles, agree⟩ := accepts_reordered ⟨"V"⟩ "input" switches reversed each
  obtain ⟨m, hm⟩ : ∃ m, ofDeclarations ⟨"V"⟩ "input" switches = .ok m := ⟨_, rfl⟩
  obtain ⟨m', hm'⟩ := compiles.mp ⟨m, hm⟩
  have accepted : m.accepts "Switch" row = .ok true := by
    rw [accepts_eq_true_iff_satisfies (bindingsOf_of_ofDeclarations hm)]
    have last : Satisfies switches (.object switchMembers)
        (.object [("state", .text "off"), ("next", .null)]) :=
      described (by decide) (.null .second)
    exact ⟨_, declared, described (by decide) (.orNull .second (.reference declared last))⟩
  exact ⟨each, keys, m, m', hm, hm', accepted, (agree m m' hm hm' _ _ _ keys).mp accepted⟩

end Module

end SchemaGuards
