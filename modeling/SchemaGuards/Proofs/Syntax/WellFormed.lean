import SchemaGuards.Proofs.Syntax.Returns
import Mathlib.Tactic.SplitIfs

/-!
# Types that the grammar makes

A union that is read has several parts, a name has a word, and a property that is named by a
number has the text of a floating point number as its name. This holds of every type in the
declarations of a module, at every depth.
-/

namespace SchemaGuards

/-- A name that the grammar makes: a number literal names a property by the text of its value. -/
def PropertyName.WellFormed : PropertyName → Prop
  | .number text => ∃ source, (Decimal.literalValue source).text = text
  | _ => True

/-- A type expression that the grammar makes. -/
inductive TypeExpr.WellFormed : TypeExpr → Prop
  | keyword (k) : WellFormed (.keyword k)
  | literal (l) : WellFormed (.literal l)
  | union {types} (several : 2 ≤ types.length) (each : ∀ t ∈ types, WellFormed t) :
      WellFormed (.union types)
  | array {item} (h : WellFormed item) : WellFormed (.array item)
  | object {members}
      (named : ∀ name optional type, .property name optional type ∈ members → name.WellFormed)
      (typed : ∀ name optional type, .property name optional (some type) ∈ members →
        WellFormed type) : WellFormed (.object members)
  | reference {name arguments} (named : name.parts ≠ []) (each : ∀ t ∈ arguments, WellFormed t) :
      WellFormed (.reference name arguments)
  | other (kind source) : WellFormed (.other kind source)

/-- A member that the grammar makes. -/
def Member.WellFormed : Member → Prop
  | .property name _ type => name.WellFormed ∧ ∀ t ∈ type, t.WellFormed
  | _ => True

theorem TypeExpr.wellFormed_object {members : List Member} (h : ∀ m ∈ members, m.WellFormed) :
    (TypeExpr.object members).WellFormed :=
  .object (fun _ _ _ hm => (h _ hm).1) fun _ _ _ hm => (h _ hm).2 _ rfl

/-- A declaration that the grammar makes. -/
def Declaration.WellFormed : Declaration → Prop
  | .interface _ _ _ members => ∀ m ∈ members, m.WellFormed
  | .typeAlias _ _ type => type.WellFormed
  | .other _ _ => True

namespace Syntax

/-- A statement that the grammar makes. -/
def Item.WellFormed : Item → Prop
  | .declaration value => value.WellFormed
  | _ => True

/-- A rule for types makes well formed ones. -/
@[reducible] def Parse.ReturnsTypes (p : Parse TypeNode) : Prop :=
  Parse.Returns p fun node => node.type.WellFormed

/-- The rules that make types and statements make well formed ones. -/
structure Grammar.WellFormed (g : Grammar) : Prop where
  type : Parse.ReturnsTypes g.type
  plainType : Parse.ReturnsTypes g.plainType
  operatorType : Parse.ReturnsTypes g.operatorType
  moduleItem : Parse.Returns g.moduleItem Item.WellFormed

namespace Parse

variable {g : Grammar}

/-! ## Types -/

theorem otherType_wellFormed (kind : String) (start : Nat) : ReturnsTypes (otherType kind start) :=
  returns_bind fun _ => returns_bind fun source => returns_pure (.other kind source)

theorem unexpected_wellFormed (due : String) : ReturnsTypes (unexpected due) :=
  returns_unexpected due

theorem delimited_returns {α : Type} {P : α → Prop} {item : Parse α} (h : Returns item P)
    (atClose : Parse Bool) : Returns (delimited atClose item) fun items => ∀ a ∈ items, P a := by
  refine Returns.iterate (fun a ha => absurd ha List.not_mem_nil) fun items hitems => ?_
  refine returns_bind fun closed => ?_
  split
  · exact returns_pure hitems
  refine h.bind fun a ha => ?_
  have hmore : ∀ b ∈ items ++ [a], P b := by
    intro b hb
    rcases List.mem_append.mp hb with hb | hb
    · exact hitems b hb
    · exact List.mem_singleton.mp hb ▸ ha
  refine returns_bind fun comma => ?_
  split
  · exact returns_pure hmore
  refine returns_bind fun closed => ?_
  split
  · exact returns_pure hmore
  · exact returns_bind fun _ => returns_pure hmore

theorem annotationType?_wellFormed (hg : g.WellFormed) :
    Returns (annotationType? g) fun found => ∀ node ∈ found, node.type.WellFormed := by
  refine returns_bind fun colon => ?_
  split
  · have htype : ReturnsTypes (annotationType g) := .typeMode (returns_bind fun _ => hg.type)
    exact htype.found
  · exact returns_none

theorem typeArguments?_wellFormed (hg : g.WellFormed) :
    Returns (typeArguments? g) fun found => ∀ nodes ∈ found, ∀ node ∈ nodes,
      node.type.WellFormed := by
  refine returns_bind fun angle => ?_
  split
  · have harguments : Returns (typeArguments g) fun nodes => ∀ node ∈ nodes,
        node.type.WellFormed := by
      refine .typeMode (returns_bind fun split => ?_)
      extract_lets types
      have htypes : ∀ r, Returns (types r) fun nodes => ∀ node ∈ nodes, node.type.WellFormed :=
        fun _ => (delimited_returns hg.type _).bind fun nodes hnodes =>
          returns_bind fun _ => returns_pure hnodes
      exact returns_optional htypes
    exact harguments.found
  · exact returns_none

theorem functionType_wellFormed (isConstructor : Bool) :
    ReturnsTypes (functionType g isConstructor) := by
  refine returns_bind fun start => ?_
  extract_lets ending
  have hending : ∀ r, ReturnsTypes (ending r) := fun _ => returns_bind fun _ =>
    returns_bind fun _ => returns_bind fun _ => returns_bind fun _ => otherType_wellFormed _ start
  split
  · exact returns_bind fun _ => returns_bind hending
  · exact hending ()

theorem templateType_wellFormed : ReturnsTypes (templateType g) :=
  returns_bind fun start => returns_bind fun _ => returns_bind fun _ => returns_bind fun _ =>
    otherType_wellFormed _ start

theorem literalType_wellFormed : ReturnsTypes literalType := by
  refine returns_bind fun start => returns_bind fun token => ?_
  split
  · exact returns_bind fun _ => returns_bind fun _ => returns_pure (.literal _)
  · exact returns_bind fun _ => returns_bind fun _ => returns_bind fun _ => returns_pure (.literal _)
  · exact returns_bind fun _ => otherType_wellFormed _ start
  · exact returns_bind fun _ => returns_bind fun _ => returns_pure (.literal _)
  · exact unexpected_wellFormed _

theorem negativeType_wellFormed : ReturnsTypes negativeType := by
  refine returns_bind fun start => returns_bind fun _ => returns_bind fun token => ?_
  split
  · exact returns_bind fun _ => returns_bind fun _ => returns_bind fun _ => returns_pure (.literal _)
  · exact returns_bind fun _ => otherType_wellFormed _ start
  · exact unexpected_wellFormed _

/-- A dotted name has a first part. -/
theorem entityName_returns (allowsReserved : Bool) :
    Returns (entityName allowsReserved) fun name => name.parts ≠ [] := by
  refine returns_bind fun first => ?_
  extract_lets ending
  have hending : ∀ r, Returns (ending r) fun name => name.parts ≠ [] := by
    intro _
    have htail : Returns (entityTail allowsReserved [first]) fun parts => parts ≠ [] := by
      refine .iterate (List.cons_ne_nil first []) fun parts hparts => ?_
      refine returns_bind fun point => ?_
      split
      · exact returns_pure hparts
      refine returns_bind fun start => returns_bind fun hash => returns_bind fun word => ?_
      split
      · exact returns_bind fun _ => returns_pure hparts
      have hmore (part : String) : parts ++ [part] ≠ [] :=
        List.append_ne_nil_of_left_ne_nil hparts _
      split
      · exact returns_bind fun part => returns_pure (hmore part)
      · exact returns_bind fun part => returns_pure (hmore part)
    exact htail.bind fun parts hparts => returns_pure hparts
  split
  · exact returns_bind fun _ => returns_bind hending
  · exact hending ()

theorem referenceType_wellFormed (hg : g.WellFormed) : ReturnsTypes (referenceType g) := by
  refine returns_bind fun start => returns_bind fun modified => ?_
  refine (entityName_returns true).bind fun name hname => ?_
  have harguments : Returns (do if ← onFreshLine then return none else typeArguments? g)
      fun found => ∀ nodes ∈ found, ∀ node ∈ nodes, node.type.WellFormed := by
    exact returns_unless (typeArguments?_wellFormed hg)
  refine harguments.bind fun found hfound => ?_
  have hreference : (TypeExpr.reference name ((found.getD []).map (·.type))).WellFormed := by
    refine .reference hname ?_
    intro t ht
    obtain ⟨node, hnode, rfl⟩ := List.mem_map.mp ht
    cases found with
    | none => exact absurd hnode List.not_mem_nil
    | some nodes => exact hfound nodes rfl node hnode
  extract_lets ending
  have hending : ∀ r, ReturnsTypes (ending r) := fun _ => returns_bind fun _ =>
    returns_pure hreference
  exact returns_optional hending

theorem importType_wellFormed : ReturnsTypes (importType g) := by
  refine returns_bind fun start => returns_bind fun _ => returns_bind fun _ => returns_bind fun _ =>
    returns_bind fun argument => returns_bind fun token => ?_
  extract_lets last ending
  have hlast : ∀ r, ReturnsTypes (last r) := fun _ => returns_bind fun _ =>
    otherType_wellFormed _ start
  have hending : ∀ r, ReturnsTypes (ending r) := by
    intro _
    refine returns_bind fun _ => returns_bind fun point => ?_
    split
    · exact returns_bind fun _ => hlast ()
    · exact hlast ()
  split
  · exact returns_bind hending
  · exact returns_bind fun _ => returns_bind hending

theorem queryType_wellFormed : ReturnsTypes (queryType g) := by
  refine returns_bind fun start => returns_bind fun _ => returns_bind fun loads => ?_
  extract_lets last ending
  have hlast : ∀ r, ReturnsTypes (last r) := fun _ => otherType_wellFormed _ start
  have hending : ∀ r, ReturnsTypes (ending r) := by
    intro _
    refine returns_bind fun fresh => ?_
    split
    · exact returns_bind fun _ => hlast ()
    · exact hlast ()
  split
  · exact returns_bind fun _ => hending ()
  · exact returns_bind fun _ => hending ()

theorem receiverType_wellFormed : ReturnsTypes (receiverType g) := by
  refine returns_bind fun start => returns_bind fun _ => returns_bind fun predicate => ?_
  split
  · exact returns_bind fun _ => returns_bind fun _ => otherType_wellFormed _ start
  · exact returns_bind fun _ => returns_pure (.keyword .this)

theorem receiverAssertion_wellFormed : ReturnsTypes (receiverAssertion g) := by
  refine returns_bind fun start => returns_bind fun _ => returns_bind fun _ =>
    returns_bind fun predicate => ?_
  extract_lets last
  have hlast : ∀ r, ReturnsTypes (last r) := fun _ => otherType_wellFormed _ start
  split
  · exact returns_bind fun _ => hlast ()
  · exact hlast ()

theorem tupleType_wellFormed : ReturnsTypes (tupleType g) := by
  refine returns_bind fun start => returns_bind fun _ => returns_bind fun elements =>
    returns_bind fun _ => ?_
  extract_lets last
  have hlast : ∀ r, ReturnsTypes (last r) := fun _ => otherType_wellFormed _ start
  exact returns_optional hlast

theorem groupedType_wellFormed (hg : g.WellFormed) : ReturnsTypes (groupedType g) :=
  returns_bind fun _ => returns_bind fun _ => hg.type.bind fun _ hinner => returns_bind fun _ =>
    returns_bind fun _ => returns_pure hinner

theorem mappedType_wellFormed : ReturnsTypes (mappedType g) := by
  refine returns_bind fun start => returns_bind fun _ => returns_bind fun _ => returns_bind fun _ =>
    returns_bind fun _ => returns_bind fun range => ?_
  extract_lets last ending
  have hlast : ∀ r, ReturnsTypes (last r) := fun _ => returns_bind fun _ => returns_bind fun _ =>
    returns_bind fun _ => returns_bind fun _ => returns_bind fun _ => otherType_wellFormed _ start
  have hending : ∀ r, ReturnsTypes (ending r) := by
    intro _
    refine returns_bind fun renamed => ?_
    split
    · exact returns_bind fun _ => hlast ()
    · exact hlast ()
  split
  · exact hending ()
  · exact returns_bind fun _ => returns_bind hending

theorem wordType_wellFormed (hg : g.WellFormed) (text : String) :
    ReturnsTypes (wordType g text) := by
  refine returns_bind fun start => returns_bind fun asserts => ?_
  split
  · exact receiverAssertion_wellFormed
  refine returns_bind fun point => ?_
  split
  · refine returns_bind fun _ => ?_
    split
    · exact returns_bind fun _ => returns_pure (.keyword _)
    · exact otherType_wellFormed _ start
  · exact referenceType_wellFormed hg

theorem primaryType_wellFormed (hg : g.WellFormed) {members : Parse TypeNode}
    (hmembers : ReturnsTypes members) : ReturnsTypes (primaryType g members) := by
  refine returns_bind fun token => ?_
  split
  · split_ifs
    · exact literalType_wellFormed
    · exact importType_wellFormed
    · exact receiverType_wellFormed
    · exact queryType_wellFormed
    · exact wordType_wellFormed hg _
    · exact unexpected_wellFormed _
  · exact referenceType_wellFormed hg
  · exact literalType_wellFormed
  · exact literalType_wellFormed
  · exact literalType_wellFormed
  · split
    · exact templateType_wellFormed
    · exact negativeType_wellFormed
    · refine returns_bind fun mapped => ?_
      split
      · exact mappedType_wellFormed
      · exact hmembers
    · exact tupleType_wellFormed
    · exact groupedType_wellFormed hg
    · exact unexpected_wellFormed _
  · exact unexpected_wellFormed _

theorem bracketedTypes_wellFormed {first : TypeNode} (h : first.type.WellFormed) :
    ReturnsTypes (bracketedTypes g first) := by
  refine .iterate h fun node hnode => returns_bind fun fresh => ?_
  split
  · exact returns_pure hnode
  refine returns_bind fun opens => ?_
  split
  · exact returns_pure hnode
  refine returns_bind fun closes => ?_
  split
  · exact returns_bind fun _ => returns_pure (.array hnode)
  · exact returns_bind fun _ => returns_bind fun _ =>
      (otherType_wellFormed _ _).bind fun _ hother => returns_pure hother

theorem operatorTypeRule_wellFormed (hg : g.WellFormed) {members : Parse TypeNode}
    (hmembers : ReturnsTypes members) : ReturnsTypes (operatorTypeRule g members) := by
  refine returns_bind fun start => returns_bind fun operator => ?_
  split
  · exact returns_bind fun _ => returns_bind fun _ => otherType_wellFormed _ start
  refine returns_bind fun infers => ?_
  split
  · exact returns_bind fun _ => returns_bind fun _ => otherType_wellFormed _ start
  · exact returns_bind fun _ => (primaryType_wellFormed hg hmembers).bind fun _ hnode =>
      bracketedTypes_wellFormed hnode

/-- The parts of joined types, of which there is at least one. -/
theorem joinedTypes_returns {part : Parse TypeNode} (h : ReturnsTypes part) (mark : String) :
    Returns (joinedTypes mark part) fun result => result.2 ≠ [] ∧
      ∀ node ∈ result.2, node.type.WellFormed := by
  refine returns_bind fun start => returns_bind fun _ => h.bind fun first hfirst => ?_
  have htypes : Returns (iterate (fun (types : List TypeNode) => do
      if ← eatMark mark then return (types ++ [← part], true) else return (types, false)) [first])
      fun types => types ≠ [] ∧ ∀ node ∈ types, node.type.WellFormed := by
    refine .iterate ⟨List.cons_ne_nil first [], ?_⟩ fun types ⟨hne, htypes⟩ => ?_
    · intro node hnode
      exact List.mem_singleton.mp hnode ▸ hfirst
    refine returns_bind fun joined => ?_
    split
    · refine h.bind fun node hnode => returns_pure ⟨by simp, ?_⟩
      intro other hother
      rcases List.mem_append.mp hother with hother | hother
      · exact htypes other hother
      · exact List.mem_singleton.mp hother ▸ hnode
    · exact returns_pure ⟨hne, htypes⟩
  exact htypes.bind fun types htypes => returns_pure htypes

theorem intersectionType_wellFormed (hg : g.WellFormed) : ReturnsTypes (intersectionType g) := by
  refine (joinedTypes_returns hg.operatorType "&").bind fun result hresult => ?_
  split
  · exact returns_pure (hresult.2 _ (List.mem_singleton_self _))
  · exact otherType_wellFormed _ _

theorem unionType_wellFormed (hg : g.WellFormed) : ReturnsTypes (unionType g) := by
  refine (joinedTypes_returns (intersectionType_wellFormed hg) "|").bind fun result hresult => ?_
  split
  · exact returns_pure (hresult.2 _ (List.mem_singleton_self _))
  · next start types hsingle =>
      obtain ⟨hne, heach⟩ := hresult
      refine returns_bind fun _ => returns_pure (.union ?_ ?_)
      · rw [List.length_map]
        match types, hne, hsingle with
        | [single], _, hsingle => exact absurd rfl (hsingle single)
        | _ :: _ :: _, _, _ => simp
      · intro t ht
        obtain ⟨node, hnode, rfl⟩ := List.mem_map.mp ht
        exact heach node hnode

theorem plainTypeRule_wellFormed (hg : g.WellFormed) : ReturnsTypes (plainTypeRule g) := by
  refine returns_bind fun function => ?_
  split
  · exact functionType_wellFormed false
  refine returns_bind fun constructor => ?_
  split
  · exact functionType_wellFormed true
  · exact unionType_wellFormed hg

theorem typeRule_wellFormed (hg : g.WellFormed) : ReturnsTypes (typeRule g) := by
  refine .within (returns_bind fun start => hg.plainType.bind fun node hnode =>
    returns_bind fun fresh => ?_) _
  split
  · exact returns_pure hnode
  refine returns_bind fun conditional => ?_
  split
  · exact returns_pure hnode
  · exact returns_bind fun _ => returns_bind fun _ => returns_bind fun _ => returns_bind fun _ =>
      returns_bind fun _ => otherType_wellFormed _ start

/-! ## Members -/

theorem literalName_wellFormed (e : Expr) : (literalName e).WellFormed := by
  cases e with
  | number source _ => exact ⟨source.toList, rfl⟩
  | _ => exact trivial

theorem memberKey_wellFormed : Returns (memberKey g) PropertyName.WellFormed := by
  refine returns_bind fun computed => ?_
  split
  · exact returns_bind fun _ => returns_bind fun _ => returns_pure trivial
  refine returns_bind fun token => ?_
  split
  · exact returns_bind fun e => returns_pure (literalName_wellFormed e)
  · exact returns_bind fun e => returns_pure (literalName_wellFormed e)
  · exact returns_bind fun _ => returns_bind fun _ => returns_bind fun _ => returns_pure trivial
  · exact returns_bind fun _ => returns_pure trivial

theorem signatureMember_wellFormed (isConstructor : Bool) :
    Returns (signatureMember g isConstructor) Member.WellFormed := by
  have hsignature : (if isConstructor then Member.constructSignature
      else Member.callSignature).WellFormed := by
    cases isConstructor <;> exact trivial
  unfold signatureMember
  extract_lets ending
  have hending : ∀ r, Returns (ending r) Member.WellFormed := fun _ => returns_bind fun _ =>
    returns_bind fun _ => returns_bind fun _ => returns_pure hsignature
  exact returns_optional hending

theorem accessor?_wellFormed :
    Returns (accessor? g) fun found => ∀ m ∈ found, m.WellFormed := by
  refine .attempt (returns_bind fun isGetter => ?_)
  extract_lets ending
  have hending : ∀ r, Returns (ending r) fun found => ∀ m ∈ found, m.WellFormed := by
    intro _
    refine returns_bind fun name => returns_bind fun _ => returns_bind fun _ => ?_
    extract_lets last
    have hlast : ∀ r, Returns (last r) fun found => ∀ m ∈ found, m.WellFormed :=
      fun _ => returns_bind fun _ => returns_some trivial
    split
    · exact returns_bind fun _ => returns_bind fun _ => hlast ()
    · refine returns_bind fun parameters => ?_
      exact returns_optional hlast
  exact returns_optional hending

theorem propertyOrMethod_wellFormed (hg : g.WellFormed) (isReadonly : Bool) :
    Returns (propertyOrMethod g isReadonly) Member.WellFormed := by
  refine memberKey_wellFormed.bind fun name hname => returns_bind fun optional =>
    returns_bind fun isMethod => ?_
  split
  · exact returns_bind fun _ => returns_bind fun _ => returns_bind fun _ => returns_pure trivial
  · refine (annotationType?_wellFormed hg).bind fun node hnode => returns_bind fun _ =>
      returns_pure ⟨hname, ?_⟩
    intro t ht
    obtain ⟨node, rfl, rfl⟩ := Option.map_eq_some_iff.mp ht
    exact hnode node rfl

theorem member_wellFormed (hg : g.WellFormed) : Returns (member g) Member.WellFormed := by
  refine returns_bind fun signature => ?_
  split
  · exact signatureMember_wellFormed false
  refine returns_bind fun constructs => ?_
  split
  · exact signatureMember_wellFormed true
  refine returns_bind fun isReadonly => returns_bind fun index => ?_
  split
  · exact returns_pure trivial
  refine accessor?_wellFormed.bind fun found hfound => ?_
  cases found with
  | some accessor => exact returns_pure (hfound accessor rfl)
  | none => exact propertyOrMethod_wellFormed hg isReadonly

theorem members_wellFormed (hg : g.WellFormed) :
    Returns (members g) fun members => ∀ m ∈ members, m.WellFormed := by
  refine returns_bind fun _ => ?_
  exact (Returns.gather (returns_unless (member_wellFormed hg).found)).bind fun _ hmembers =>
    returns_bind fun _ => returns_pure hmembers

theorem objectType_wellFormed (hg : g.WellFormed) : ReturnsTypes (objectType g) :=
  returns_bind fun _ => (members_wellFormed hg).bind fun _ hmembers => returns_bind fun _ =>
    returns_pure (TypeExpr.wellFormed_object hmembers)

end Parse

end Syntax

end SchemaGuards
