import SchemaGuards.Proofs.Syntax.WellFormed

/-!
# Declarations that the grammar makes

Of all statements only interfaces and aliases hold types. These are well formed wherever they stand
in a module: on their own, behind `export` and behind `declare`.
-/

namespace SchemaGuards.Syntax

namespace Parse

variable {g : Grammar}

theorem interfaceTail_wellFormed (hg : g.WellFormed) :
    Returns (interfaceTail g) Declaration.WellFormed := by
  refine returns_bind fun start => returns_bind fun name => ?_
  extract_lets ending
  have hending : ∀ r, Returns (ending r) Declaration.WellFormed := by
    intro _
    refine returns_bind fun parameters => returns_bind fun extended => returns_bind fun repeated => ?_
    extract_lets last
    have hlast : ∀ r, Returns (last r) Declaration.WellFormed := fun _ =>
      (Returns.typeMode (members_wellFormed hg)).bind fun _ hmembers => returns_pure hmembers
    split
    · exact returns_bind fun _ => returns_bind hlast
    · exact hlast ()
  exact returns_optional hending

theorem aliasTail_wellFormed (hg : g.WellFormed) : Returns (aliasTail g) Declaration.WellFormed := by
  refine returns_bind fun name => returns_bind fun parameters => ?_
  refine Returns.bind (P := fun node => node.type.WellFormed) (.typeMode ?_) fun node hnode =>
    returns_bind fun _ => returns_pure hnode
  refine returns_bind fun equals => ?_
  split
  · exact returns_bind fun _ => returns_bind fun _ => hg.type
  · exact hg.type

theorem interfaceItem_wellFormed (hg : g.WellFormed) :
    Returns (interfaceItem g) Item.WellFormed :=
  (interfaceTail_wellFormed hg).bind fun _ h => returns_pure h

/-- A statement that may be found is well formed. -/
@[reducible] def FindsItems (p : Parse (Option Item)) : Prop :=
  Returns p fun found => ∀ item ∈ found, item.WellFormed

theorem itemAt_wellFormed (kind : String) (start : Nat) : FindsItems (itemAt kind start) :=
  returns_some trivial

theorem wordDeclaration?_wellFormed (hg : g.WellFormed) (start : Nat) (word : String)
    (committed : Bool) : FindsItems (wordDeclaration? g start word committed) := by
  unfold wordDeclaration?
  extract_lets take
  split
  · exact returns_unless (returns_bind fun _ => returns_bind fun _ => itemAt_wellFormed _ start)
  · exact returns_unless (returns_bind fun _ => returns_bind fun _ => itemAt_wellFormed _ start)
  · exact returns_unless (returns_bind fun _ => (interfaceItem_wellFormed hg).found)
  · refine returns_unless (returns_bind fun _ => returns_bind fun token => ?_)
    split
    · exact returns_bind fun _ => itemAt_wellFormed _ start
    · exact returns_unless (returns_bind fun _ => itemAt_wellFormed _ start)
  · exact returns_unless (returns_bind fun _ => returns_bind fun _ => itemAt_wellFormed _ start)
  · exact returns_unless (returns_bind fun _ =>
      (aliasTail_wellFormed hg).bind fun _ h => returns_some h)
  · exact returns_none

theorem declared?_wellFormed (hg : g.WellFormed) (start : Nat) :
    FindsItems (declared? g start) := by
  refine returns_bind fun s => ?_
  extract_lets ending
  have hending : ∀ r, FindsItems (ending r) := by
    intro _
    refine .within (returns_bind fun token => ?_) _
    split
    · exact returns_bind fun _ => itemAt_wellFormed _ start
    · exact returns_bind fun _ => itemAt_wellFormed _ start
    · exact returns_bind fun _ => itemAt_wellFormed _ start
    · exact returns_bind fun _ => itemAt_wellFormed _ start
    · refine returns_bind fun isEnum => ?_
      split
      · exact returns_bind fun _ => returns_bind fun _ => returns_bind fun _ =>
          returns_bind fun _ => itemAt_wellFormed _ start
      · exact returns_bind fun _ => itemAt_wellFormed _ start
    · exact returns_bind fun _ => itemAt_wellFormed _ start
    · split
      · exact wordDeclaration?_wellFormed hg start _ true
      · exact returns_none
  split
  · exact returns_bind fun _ => returns_bind hending
  · exact hending ()

theorem namedDeclaration?_wellFormed (hg : g.WellFormed) (start : Nat) (name : String) :
    FindsItems (namedDeclaration? g start name) := by
  unfold namedDeclaration?
  split
  · exact returns_unless (declared?_wellFormed hg start)
  · exact returns_unless (returns_bind fun _ => itemAt_wellFormed _ start)
  · exact wordDeclaration?_wellFormed hg start name false

theorem namedStatement_wellFormed (hg : g.WellFormed) (start : Nat) (name : String) (e : Expr) :
    Returns (namedStatement g start name e) Item.WellFormed := by
  refine returns_bind fun fresh => ?_
  split
  · exact returns_bind fun _ => returns_bind fun _ => returns_pure trivial
  refine returns_bind fun isModified => ?_
  split
  · exact returns_bind fun _ => interfaceItem_wellFormed hg
  refine (namedDeclaration?_wellFormed hg start name).bind fun found hfound => ?_
  cases found with
  | some item => exact returns_pure (hfound item rfl)
  | none =>
      have hending : Returns (do endExpression g e; return Item.other "statement" start)
          Item.WellFormed := returns_bind fun _ => returns_pure trivial
      dsimp only
      split
      · exact returns_bind fun _ => hending
      · exact hending

theorem expressionStatement_wellFormed (hg : g.WellFormed) :
    Returns (expressionStatement g) Item.WellFormed := by
  refine returns_bind fun start => returns_bind fun e => ?_
  split
  · refine returns_bind fun labelled => ?_
    split
    · exact returns_bind fun _ => returns_pure trivial
    · exact namedStatement_wellFormed hg start _ _
  · exact returns_bind fun _ => returns_bind fun _ => returns_pure trivial
  · exact returns_bind fun _ => returns_pure trivial

theorem awaitStatement?_wellFormed (declares isTop : Bool) (start : Nat) :
    FindsItems (awaitStatement? g declares isTop start) := by
  refine returns_bind fun withResources => returns_bind fun awaits => ?_
  split
  · exact returns_bind fun _ => returns_bind fun _ => returns_bind fun _ =>
      itemAt_wellFormed _ start
  split
  · exact returns_bind fun _ => itemAt_wellFormed _ start
  · exact returns_none

theorem keywordStatement?_wellFormed (hg : g.WellFormed) (declares isTop : Bool) (start : Nat)
    (word : String) : FindsItems (keywordStatement? g declares isTop start word) := by
  unfold keywordStatement?
  extract_lets statement function class'
  have hstatement : ∀ action, FindsItems (statement action) :=
    fun _ => returns_bind fun _ => itemAt_wellFormed _ start
  have hfunction : ∀ r, FindsItems (function r) :=
    fun _ => returns_bind fun _ => itemAt_wellFormed _ start
  have hclass : ∀ r, FindsItems (class' r) :=
    fun _ => returns_bind fun _ => itemAt_wellFormed _ start
  split
  any_goals exact hstatement _
  · exact awaitStatement?_wellFormed declares isTop start
  · exact returns_optional hfunction
  · exact returns_optional hclass
  · exact returns_bind fun _ => itemAt_wellFormed _ start
  · refine returns_bind fun isEnum => ?_
    split
    · exact returns_bind fun _ => returns_bind fun _ => returns_bind fun _ =>
        returns_bind fun _ => itemAt_wellFormed _ start
    split
    · exact returns_bind fun _ => itemAt_wellFormed _ start
    · exact returns_none
  · exact returns_when (returns_bind fun _ => itemAt_wellFormed _ start)
  · exact returns_when (returns_bind fun _ => returns_bind fun _ =>
      (interfaceItem_wellFormed hg).found)
  · exact returns_when (returns_bind fun _ => returns_bind fun _ => returns_bind fun _ =>
      itemAt_wellFormed _ start)
  · exact returns_when (returns_bind fun _ => returns_bind fun _ =>
      (aliasTail_wellFormed hg).bind fun _ h => returns_some h)
  · exact returns_when (returns_bind fun _ => itemAt_wellFormed _ start)
  · exact returns_when (returns_bind fun _ => itemAt_wellFormed _ start)
  · exact returns_none

theorem innerStatement_wellFormed (hg : g.WellFormed) (declares isTop : Bool) :
    Returns (innerStatement g declares isTop) Item.WellFormed := by
  refine .within (returns_bind fun start => returns_bind fun token => ?_) _
  split
  · refine (keywordStatement?_wellFormed hg declares isTop start _).bind fun found hfound => ?_
    cases found with
    | some item => exact returns_pure (hfound item rfl)
    | none => exact expressionStatement_wellFormed hg
  · exact returns_bind fun _ => returns_pure trivial
  · exact returns_bind fun _ => returns_pure trivial
  · exact expressionStatement_wellFormed hg

/-! ## Imports and exports -/

theorem importItem_wellFormed : Returns (importItem g) Item.WellFormed := by
  refine returns_bind fun start => returns_bind fun loads => ?_
  split
  · exact returns_bind fun _ => returns_bind fun _ => returns_bind fun _ => returns_pure trivial
  refine returns_bind fun _ => returns_bind fun token => ?_
  split
  · exact returns_bind fun _ => returns_pure trivial
  refine returns_bind fun head => ?_
  split
  · exact returns_bind fun _ => returns_pure trivial
  · exact returns_bind fun _ => returns_bind fun _ => returns_bind fun _ => returns_pure trivial

theorem defaultExport_wellFormed (hg : g.WellFormed) (start : Nat) :
    Returns (defaultExport g start) Item.WellFormed := by
  unfold defaultExport
  extract_lets item ending
  have hending : ∀ r, Returns (ending r) Item.WellFormed := by
    intro _
    refine returns_bind fun interface => ?_
    split
    · exact interfaceItem_wellFormed hg
    refine returns_bind fun isClass => ?_
    split
    · exact returns_bind fun _ => returns_pure trivial
    refine returns_bind fun isAsync => returns_bind fun isFunction => ?_
    split
    · exact returns_bind fun _ => returns_pure trivial
    · exact returns_bind fun _ => returns_bind fun _ => returns_pure trivial
  refine returns_bind fun isClass => ?_
  split
  · exact returns_bind fun _ => returns_bind fun _ => returns_bind fun _ => returns_pure trivial
  refine returns_bind fun isInterface => ?_
  split
  · exact returns_bind fun _ => returns_bind hending
  · exact hending ()

theorem plainExport_wellFormed (start : Nat) : Returns (plainExport g start) Item.WellFormed := by
  refine returns_bind fun isClass => ?_
  split
  · exact returns_bind fun _ => returns_pure trivial
  refine returns_bind fun isAsync => returns_bind fun isFunction => ?_
  split
  · exact returns_bind fun _ => returns_pure trivial
  refine returns_bind fun isEnum => ?_
  split
  · exact returns_bind fun _ => returns_bind fun _ => returns_bind fun _ => returns_bind fun _ =>
      returns_pure trivial
  refine returns_bind fun isVariable => ?_
  split
  · exact returns_bind fun _ => returns_bind fun _ => returns_pure trivial
  refine returns_bind fun all => ?_
  split
  · exact returns_bind fun _ => returns_pure trivial
  · exact returns_bind fun _ => returns_pure trivial

theorem specialExport?_wellFormed (start : Nat) : FindsItems (specialExport? g start) := by
  refine returns_bind fun imports => ?_
  split
  · refine returns_bind fun typed => ?_
    split
    · exact returns_bind fun _ => returns_bind fun _ => returns_bind fun _ => returns_some trivial
    · exact returns_bind fun _ => returns_bind fun _ => returns_some trivial
  refine returns_bind fun equals => ?_
  split
  · exact returns_bind fun _ => returns_bind fun _ => returns_some trivial
  refine returns_bind fun renames => ?_
  split
  · exact returns_bind fun _ => returns_bind fun _ => returns_bind fun _ => returns_some trivial
  · exact returns_none

theorem exportedDeclaration?_wellFormed (hg : g.WellFormed) (start : Nat) :
    FindsItems (exportedDeclaration? g start) := by
  refine returns_bind fun declares => ?_
  extract_lets ending
  have hending : ∀ r, FindsItems (ending r) := by
    intro _
    refine returns_bind fun word => ?_
    split
    · exact .attempt (wordDeclaration?_wellFormed hg start _ true)
    · exact returns_none
  split
  · refine (declared?_wellFormed hg start).bind fun found hfound => ?_
    cases found with
    | some item => exact returns_some (hfound item rfl)
    | none => exact hending ()
  · exact hending ()

theorem exportItem_wellFormed (hg : g.WellFormed) : Returns (exportItem g) Item.WellFormed := by
  refine returns_bind fun start => returns_bind fun _ => returns_bind fun _ => ?_
  refine (exportedDeclaration?_wellFormed hg start).bind fun found hfound => ?_
  cases found with
  | some item => exact returns_pure (hfound item rfl)
  | none =>
      refine (specialExport?_wellFormed start).bind fun found hfound => ?_
      cases found with
      | some item => exact returns_pure (hfound item rfl)
      | none =>
          refine returns_bind fun onlyTypes => ?_
          split
          · refine returns_bind fun all => ?_
            split
            · exact returns_bind fun _ => returns_pure trivial
            · exact returns_bind fun _ => returns_pure trivial
          refine returns_bind fun default => ?_
          split
          · exact defaultExport_wellFormed hg start
          · exact plainExport_wellFormed start

theorem moduleItemRule_wellFormed (hg : g.WellFormed) :
    Returns (moduleItemRule g) Item.WellFormed := by
  refine returns_bind fun imports => ?_
  split
  · exact importItem_wellFormed
  refine returns_bind fun exports => ?_
  split
  · exact exportItem_wellFormed hg
  · exact innerStatement_wellFormed hg true true

end Parse

/-- The rules of each depth make well formed types, since those of the depth below do. -/
theorem Grammar.upTo_wellFormed (depth : Nat) : (Grammar.upTo depth).WellFormed := by
  induction depth with
  | zero =>
      exact ⟨Parse.returns_fail .exhausted, Parse.returns_fail .exhausted,
        Parse.returns_fail .exhausted, Parse.returns_fail .exhausted⟩
  | succ depth ih =>
      exact ⟨Parse.typeRule_wellFormed ih, Parse.plainTypeRule_wellFormed ih,
        Parse.operatorTypeRule_wellFormed ih (Parse.objectType_wellFormed ih),
        Parse.moduleItemRule_wellFormed ih⟩

/-- The declarations of a source text that is read are well formed. -/
theorem parseModule_wellFormed {source : String} {declarations : List Declaration}
    (h : parseModule source = .ok declarations) : ∀ d ∈ declarations, d.WellFormed := by
  unfold parseModule parseModuleFrom at h
  extract_lets cs failed grammar at h
  have hitems : Parse.Returns (Parse.moduleItems grammar) fun items =>
      ∀ item ∈ items, item.WellFormed :=
    .gather (Parse.returns_unless (Grammar.upTo_wellFormed _).moduleItem.found)
  cases hrun : Parse.moduleItems grammar (State.initial cs 1) with
  | error fault s =>
      rw [hrun] at h
      cases h
  | ok items s =>
      rw [hrun] at h
      dsimp only at h
      split at h
      · cases h
      · cases h
        intro d hd
        obtain ⟨item, hitem, rfl⟩ := List.mem_map.mp hd
        have := hitems _ _ _ hrun item hitem
        cases item with
        | declaration value => exact this
        | text written start => exact trivial
        | other kind start => exact trivial

end SchemaGuards.Syntax
