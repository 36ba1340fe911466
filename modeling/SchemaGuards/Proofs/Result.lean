import Mathlib.Data.List.Forall2

/-!
# Results of steps that may fail

When a sequence of steps that may fail succeeds, and how it fails.
-/

namespace SchemaGuards.Result

variable {α β ε : Type}

theorem bind_eq_ok_iff {x : Except ε α} {f : α → Except ε β} {b : β} :
    x >>= f = .ok b ↔ ∃ a, x = .ok a ∧ f a = .ok b := by
  cases x <;> simp [bind, Except.bind]

theorem map_eq_ok_iff {x : Except ε α} {f : α → β} {b : β} :
    x.map f = .ok b ↔ ∃ a, x = .ok a ∧ f a = b := by
  cases x <;> simp [Except.map]

/-- Whether a step succeeds with a result of some property can be decided by taking it. -/
instance decidableExistsOk {x : Except ε α} {p : α → Prop} [DecidablePred p] :
    Decidable (∃ a, x = .ok a ∧ p a) :=
  match x with
  | .error _ => isFalse fun ⟨_, h, _⟩ => nomatch h
  | .ok a => decidable_of_iff (p a) ⟨fun h => ⟨a, rfl, h⟩, fun ⟨_, h, hp⟩ => Except.ok.inj h ▸ hp⟩

/-- Two results are both there and related, or both missing, for whatever reasons. -/
inductive Together {ε' : Type} (r : α → β → Prop) : Except ε α → Except ε' β → Prop
  | ok {a b} (h : r a b) : Together r (.ok a) (.ok b)
  | error {e e'} : Together r (.error e) (.error e')

section Together

variable {ε' γ δ : Type} {r : α → β → Prop} {s : γ → δ → Prop} {x : Except ε α} {y : Except ε' β}

theorem Together.refl {r : α → α → Prop} (same : ∀ a, r a a) (x : Except ε α) : Together r x x := by
  cases x with
  | ok a => exact .ok (same a)
  | error e => exact .error

theorem Together.imp {r' : α → β → Prop} (h : Together r x y) (each : ∀ a b, r a b → r' a b) :
    Together r' x y := by
  cases h with
  | ok h => exact .ok (each _ _ h)
  | error => exact .error

theorem Together.exists_ok_iff (h : Together r x y) : (∃ a, x = .ok a) ↔ ∃ b, y = .ok b := by
  cases h with
  | ok h => exact ⟨fun _ => ⟨_, rfl⟩, fun _ => ⟨_, rfl⟩⟩
  | error => exact ⟨nofun, nofun⟩

theorem Together.of_exists_ok_iff (h : (∃ a, x = .ok a) ↔ ∃ b, y = .ok b) :
    Together (fun _ _ => True) x y := by
  cases x with
  | ok a =>
      obtain ⟨b, rfl⟩ := h.mp ⟨a, rfl⟩
      exact .ok trivial
  | error e =>
      cases y with
      | ok b =>
          obtain ⟨a, ha⟩ := h.mpr ⟨b, rfl⟩
          cases ha
      | error e' => exact .error

theorem Together.of_ok {a : α} {b : β} (h : Together r x y) (hx : x = .ok a) (hy : y = .ok b) :
    r a b := by
  cases h with
  | ok h => exact Except.ok.inj hx ▸ Except.ok.inj hy ▸ h
  | error => cases hx

theorem Together.bind {f : α → Except ε γ} {g : β → Except ε' δ} (h : Together r x y)
    (next : ∀ a b, r a b → Together s (f a) (g b)) : Together s (x >>= f) (y >>= g) := by
  cases h with
  | ok h => exact next _ _ h
  | error => exact .error

theorem Together.map {f : α → γ} {g : β → δ} (h : Together r x y)
    (each : ∀ a b, r a b → s (f a) (g b)) : Together s (x.map f) (y.map g) := by
  cases h with
  | ok h => exact .ok (each _ _ h)
  | error => exact .error

/-- Traversals of related elements succeed together, with related results. -/
theorem Together.mapM {items : List α} {items' : List β} {f : α → Except ε γ}
    {g : β → Except ε' δ} (related : List.Forall₂ r items items')
    (step : ∀ a ∈ items, ∀ b, r a b → Together s (f a) (g b)) :
    Together (List.Forall₂ s) (items.mapM f) (items'.mapM g) := by
  induction related with
  | nil => exact .ok .nil
  | cons h _ ih =>
      rw [List.mapM_cons, List.mapM_cons]
      refine (step _ (.head _) _ h).bind fun c d hc => ?_
      exact (ih fun a ha => step a (.tail _ ha)).bind fun _ _ hothers => .ok (.cons hc hothers)

end Together

/-- A traversal gives the results of its steps, in order. -/
theorem mapM_eq_ok_iff {items : List α} {results : List β} {f : α → Except ε β} :
    items.mapM f = .ok results ↔ List.Forall₂ (fun a b => f a = .ok b) items results := by
  induction items generalizing results with
  | nil => simp [pure, Except.pure, eq_comm]
  | cons a rest ih =>
      rw [List.mapM_cons, bind_eq_ok_iff, List.forall₂_cons_left_iff]
      constructor
      · rintro ⟨b, hb, hrest⟩
        obtain ⟨others, hothers, hresults⟩ := bind_eq_ok_iff.mp hrest
        exact ⟨b, others, hb, ih.mp hothers, (Except.ok.inj hresults).symm⟩
      · rintro ⟨b, others, hb, hothers, rfl⟩
        exact ⟨b, hb, bind_eq_ok_iff.mpr ⟨others, ih.mpr hothers, rfl⟩⟩

/-- Steps with mapped results make a traversal with mapped results. -/
theorem mapM_eq_map {γ : Type} {g : β → γ} {items : List α} {f : α → Except ε β}
    {f' : α → Except ε γ} (h : ∀ a ∈ items, f' a = (f a).map g) :
    items.mapM f' = (items.mapM f).map (List.map g) := by
  induction items with
  | nil => rfl
  | cons a rest ih =>
      obtain ⟨ha, hrest⟩ := List.forall_mem_cons.mp h
      rw [List.mapM_cons, List.mapM_cons, ha, ih hrest]
      cases f a with
      | error e => rfl
      | ok b => cases rest.mapM f <;> rfl

/-- A traversal succeeds exactly when it succeeds at every element. -/
theorem forM_eq_ok_iff {items : List α} {f : α → Except ε Unit} :
    items.forM f = .ok () ↔ ∀ x ∈ items, f x = .ok () := by
  induction items with
  | nil => simp [List.forM, pure, Except.pure]
  | cons x rest ih =>
      change (f x >>= fun _ => rest.forM f) = .ok () ↔ _
      cases hx : f x with
      | error e => simp [hx, bind, Except.bind]
      | ok u => simpa [hx, bind, Except.bind] using ih

/-- A traversal fails as one of the elements does. -/
theorem exists_of_forM_eq_error {items : List α} {f : α → Except ε Unit} {e : ε}
    (h : items.forM f = .error e) : ∃ x ∈ items, f x = .error e := by
  induction items with
  | nil => cases h
  | cons x rest ih =>
      change (f x >>= fun _ => rest.forM f) = .error e at h
      cases hx : f x with
      | error e' =>
          rw [hx] at h
          exact ⟨x, .head _, hx.trans h⟩
      | ok u =>
          rw [hx] at h
          obtain ⟨y, hy, he⟩ := ih h
          exact ⟨y, .tail _ hy, he⟩

/-- Two traversals of related elements are related, where the answers of the steps are and steps in
a row keep it so. -/
theorem forM_related {ε' : Type} {R : Except ε Unit → Except ε' Unit → Prop} {S : α → β → Prop}
    {items : List α} {items' : List β} {f : α → Except ε Unit} {g : β → Except ε' Unit}
    (done : R (.ok ()) (.ok ()))
    (bind : ∀ x x' y y', R x x' → R y y' → R (x >>= fun _ => y) (x' >>= fun _ => y'))
    (related : List.Forall₂ S items items')
    (step : ∀ a ∈ items, ∀ b, S a b → R (f a) (g b)) : R (items.forM f) (items'.forM g) := by
  induction related with
  | nil => exact done
  | cons h _ ih =>
      exact bind _ _ _ _ (step _ (.head _) _ h) (ih fun a ha => step a (.tail _ ha))

/-- Traversals with the same steps are the same. -/
theorem forM_congr {items : List α} {f g : α → Except ε Unit} (h : ∀ x ∈ items, f x = g x) :
    items.forM f = items.forM g := by
  refine forM_related (S := Eq) rfl ?_ (List.forall₂_same.mpr fun _ _ => rfl) ?_
  · rintro x _ y _ rfl rfl
    rfl
  · rintro x hx _ rfl
    exact h x hx

theorem forM_map (g : α → β) (f : β → Except ε Unit) (items : List α) :
    (items.map g).forM f = items.forM fun x => f (g x) := by
  induction items with
  | nil => rfl
  | cons x rest ih =>
      change (f (g x) >>= fun _ => (rest.map g).forM f) = _
      rw [ih]
      rfl

end SchemaGuards.Result
