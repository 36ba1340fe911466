import SchemaGuards.Syntax.Module

/-!
# What parsers return

A property of each value that a parser may return, whatever the tokens are. It carries over to
sequences, attempts and loops, so that it is known of a rule once it is known of the rules that
it refers to.
-/

namespace SchemaGuards.Syntax.Parse

variable {α β : Type} {p : Parse α} {f : α → Parse β} {P : α → Prop} {Q : β → Prop}

/-- Each value that a parser returns has a property. -/
def Returns (p : Parse α) (P : α → Prop) : Prop := ∀ s a s', p s = .ok a s' → P a

theorem returns_pure {a : α} (h : P a) : Returns (pure a) P := by
  rintro s _ _ ⟨⟩
  exact h

theorem Returns.bind (hp : Returns p P) (hf : ∀ a, P a → Returns (f a) Q) :
    Returns (p >>= f) Q := by
  intro s b s' hrun
  change EStateM.bind p f s = _ at hrun
  rw [EStateM.bind] at hrun
  cases hfirst : p s with
  | ok a now =>
      rw [hfirst] at hrun
      exact hf a (hp s a now hfirst) now b s' hrun
  | error fault now =>
      rw [hfirst] at hrun
      cases hrun

/-- What an action gives before the last one may be anything. -/
theorem returns_bind (hf : ∀ a, Returns (f a) Q) : Returns (p >>= f) Q :=
  Returns.bind (P := fun _ => True) (fun _ _ _ _ => trivial) fun a _ => hf a

theorem returns_none : Returns (pure (none : Option α)) fun found => ∀ a ∈ found, P a :=
  returns_pure (by rintro _ ⟨⟩)

theorem returns_some {a : α} (h : P a) : Returns (pure (some a)) fun found => ∀ a ∈ found, P a :=
  returns_pure (by rintro _ ⟨⟩; exact h)

/-- What a parser returns is found. -/
theorem Returns.found (h : Returns p P) :
    Returns (do return some (← p)) fun found => ∀ a ∈ found, P a :=
  h.bind fun _ ha => returns_some ha

/-- An action that may be left out has the same behind it. -/
theorem returns_optional {c : Prop} [Decidable c] {p : Parse PUnit} {f : PUnit → Parse β}
    (hf : ∀ r, Returns (f r) Q) : Returns (if c then p >>= f else f ⟨⟩) Q := by
  split
  · exact returns_bind hf
  · exact hf ⟨⟩

/-- Nothing is found when a test says so. -/
theorem returns_unless {test : Parse β} {c : β → Prop} [DecidablePred c] {item : Parse (Option α)}
    (h : Returns item fun found => ∀ a ∈ found, P a) :
    Returns (do let b ← test; if c b then return none else item) fun found => ∀ a ∈ found, P a := by
  refine returns_bind fun b => ?_
  split
  · exact returns_none
  · exact h

/-- Nothing is found unless a test says so. -/
theorem returns_when {test : Parse β} {c : β → Prop} [DecidablePred c] {item : Parse (Option α)}
    (h : Returns item fun found => ∀ a ∈ found, P a) :
    Returns (do let b ← test; if c b then item else return none) fun found => ∀ a ∈ found, P a := by
  refine returns_bind fun b => ?_
  split
  · exact h
  · exact returns_none

theorem returns_throw (fault : Fault) : Returns (throw fault : Parse α) P := by
  rintro s _ _ ⟨⟩

theorem returns_failAt (cause : Cause) (offset : Nat) : Returns (failAt cause offset : Parse α) P :=
  returns_bind fun earlier => by
    cases earlier with
    | none => exact returns_throw _
    | some fault => exact returns_bind fun _ => returns_throw _

theorem returns_fail (cause : Cause) : Returns (fail cause : Parse α) P :=
  returns_bind fun span => returns_failAt cause span.lo

theorem returns_unexpected (due : String) : Returns (unexpected due : Parse α) P :=
  returns_bind fun found => returns_fail (.unexpected found due)

theorem Returns.within (h : Returns p P) (change : Mode → Mode) : Returns (within change p) P := by
  intro s a s' hrun
  unfold Parse.within at hrun
  split at hrun
  · next hp =>
      cases hrun
      exact h _ _ _ hp
  · cases hrun

theorem Returns.typeMode (h : Returns p P) : Returns (typeMode p) P := h.within _

/-- An attempt finds what its parser finds. -/
theorem Returns.attempt {p : Parse (Option α)} (h : Returns p fun found => ∀ a ∈ found, P a) :
    Returns (attempt p) fun found => ∀ a ∈ found, P a := by
  intro s found s' hrun
  unfold Parse.attempt at hrun
  split at hrun
  · next hp =>
      cases hrun
      exact h _ _ _ hp
  · cases hrun
    rintro a ⟨⟩

/-- A property that each step keeps holds of the last value. -/
theorem Returns.iterate {step : α → Parse (α × Bool)} {a : α} (h : P a)
    (keeps : ∀ a, P a → Returns (step a) fun result => P result.1) :
    Returns (iterate step a) P := by
  refine returns_bind fun s => ?_
  generalize s.budget = budget
  induction budget generalizing a with
  | zero => exact returns_fail .exhausted
  | succ budget ih =>
      refine (keeps a h).bind fun result hresult => ?_
      obtain ⟨a, more⟩ := result
      cases more with
      | false => exact returns_pure hresult
      | true => exact ih hresult

/-- What is gathered has the property of each single find. -/
theorem Returns.gather {item : Parse (Option α)} (h : Returns item fun found => ∀ a ∈ found, P a) :
    Returns (gather item) fun found => ∀ a ∈ found, P a := by
  refine returns_bind fun s => ?_
  generalize s.budget = budget
  induction budget with
  | zero => exact returns_fail .exhausted
  | succ budget ih =>
      refine h.bind fun found hfound => ?_
      cases found with
      | none => exact returns_pure fun a ha => absurd ha List.not_mem_nil
      | some a =>
          refine ih.bind fun more hmore => returns_pure ?_
          intro b hb
          rcases List.mem_cons.mp hb with rfl | hb
          · exact hfound b rfl
          · exact hmore b hb

end SchemaGuards.Syntax.Parse
