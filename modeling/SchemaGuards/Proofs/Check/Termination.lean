import SchemaGuards.Proofs.Check.Chain
import Mathlib.Data.Finset.Card

/-!
# A check always ends

Neither the schema nor the value gets smaller at every call. What bounds a check is the
chain: the names on it are distinct and bound, so on one value only so many references can
be followed, and then the check stops or goes on with a part of the value.

## Implementation notes

A run is a list of moves from a call to a call behind it. A move is read off the call that
makes it, since all calls of a call go on in the same way.
-/

namespace SchemaGuards

namespace Json

/-- A value is an element or an entry of another value. -/
inductive IsPart : Json → Json → Prop
  | element {elements value} (h : value ∈ elements) : IsPart value (.list elements)
  | entry {entries key value} (h : (key, value) ∈ entries) : IsPart value (.object entries)

theorem IsPart.sizeOf_lt {part whole : Json} (h : IsPart part whole) :
    sizeOf part < sizeOf whole := by
  cases h with
  | element h =>
      have := List.sizeOf_lt_of_mem h
      simp +arith
      omega
  | entry h =>
      have := List.sizeOf_lt_of_mem h
      simp only [Prod.mk.sizeOf_spec] at this
      simp +arith
      omega

end Json

namespace Check

/-- How a call goes on: with an inner schema on the same value, with the target of a
reference on the same value, or with the parts of the value. -/
inductive Move where
  | inner
  | reference
  | part
  deriving DecidableEq, Repr

namespace Call

/-- The move of the calls that a call makes. -/
def move (c : Call) : Move :=
  match c.schema with
  | .nullable _ => .inner
  | .reference _ _ => .reference
  | _ => .part

/-- A run from a call to one that it leads to, with the moves on the way. -/
inductive Run (bindings : List Binding) : Call → List Move → Call → Prop
  | nil {c} : Run bindings c [] c
  | cons {c d e moves} (step : d ∈ c.next bindings) (rest : Run bindings d moves e) :
      Run bindings c (c.move :: moves) e

variable {bindings : List Binding} {c d : Call} {moves : List Move}

/-- What holds of the chain holds along a whole run. -/
theorem Run.wellChained (h : Run bindings c moves d) (hc : c.WellChained bindings) :
    d.WellChained bindings := by
  induction h with
  | nil => exact hc
  | cons step _ ih => exact ih (hc.of_calls (mem_next_iff.mp step))

/-- While a run stays on a value, the chain grows by the references followed. -/
theorem Run.length_chain (h : Run bindings c moves d) (stays : .part ∉ moves) :
    d.chain.length = c.chain.length + moves.count .reference := by
  induction h with
  | nil => simp
  | @cons c d e moves step rest ih =>
      obtain ⟨hmove, hrest⟩ := not_or.mp (List.mem_cons.not.mp stays)
      have hlen := ih hrest
      cases mem_next_iff.mp step with
      | inner present => simpa [move] using hlen
      | reference fresh bound =>
          simp only [List.length_cons, move, List.count_cons_self] at hlen ⊢
          omega
      | element found => exact absurd rfl hmove
      | field declared => exact absurd rfl hmove

theorem WellChained.bound (hc : c.WellChained bindings) {name : String}
    (hn : name ∈ c.chain) : ∃ b ∈ bindings, b.name = name := by
  obtain ⟨target, _, bound, _⟩ := hc.leads name hn
  exact ⟨target, bound.mem, bound.name_eq⟩

/-- There are no more names on the chain than there are names of bindings. -/
theorem WellChained.length_le (hc : c.WellChained bindings) :
    c.chain.length ≤ (bindings.map Binding.name).toFinset.card := by
  rw [← List.toFinset_card_of_nodup hc.nodup]
  apply Finset.card_le_card
  intro name hn
  simpa using hc.bound (List.mem_toFinset.mp hn)

/-- A step into the value is to a part of it, or to a field that it lacks. -/
theorem part_of_mem_next (h : d ∈ c.next bindings) (hmove : c.move = .part) :
    d.value = none ∨ ∃ whole part, c.value = some whole ∧ d.value = some part ∧
      part.IsPart whole := by
  cases mem_next_iff.mp h with
  | inner present => cases hmove
  | reference fresh bound => cases hmove
  | element found =>
      exact Or.inr ⟨_, _, rfl, rfl, .element (List.mem_of_getElem? found)⟩
  | @field _ _ _ _ entries field declared =>
      cases hv : Json.lookup? field.1 entries with
      | none => exact Or.inl rfl
      | some value => exact Or.inr ⟨_, _, rfl, rfl, .entry (Json.mem_of_lookup? hv)⟩

end Call

end Check

namespace Module

open Check Call

/-- Every check ends. A call answers from the calls it makes, in order, and then by its own
test; the call relation is well founded; and wherever the check of a document gets, the
names on the chain are distinct and bound. From there at most as many references are
followed as names are left, before the check stops or goes on with a smaller part of the
value or with a missing field. -/
theorem check_terminates (m : Module) :
    (∀ c : Call, c.answer m.bindings =
      ((c.next m.bindings).forM (answer m.bindings) >>= fun _ => c.own m.bindings)) ∧
    (WellFounded fun d c : Call => d ∈ c.next m.bindings) ∧
    ∀ name target document, Bound m.bindings name target →
      m.validateBinding name document = (start name target document).answer m.bindings ∧
      ∀ moves c, Run m.bindings (start name target document) moves c →
        c.chain.Nodup ∧ (∀ n ∈ c.chain, ∃ b ∈ m.bindings, b.name = n) ∧
        (∀ moves' d, Run m.bindings c moves' d → .part ∉ moves' →
          c.chain.length + moves'.count .reference ≤
            (m.bindings.map Binding.name).toFinset.card) ∧
        (c.move = .part → ∀ d ∈ c.next m.bindings, d.value = none ∨
          ∃ whole part, c.value = some whole ∧ d.value = some part ∧ part.IsPart whole ∧
            sizeOf part < sizeOf whole) := by
  refine ⟨answer_eq m.bindings, ?_, fun name target document bound => ?_⟩
  · simpa only [mem_next_iff] using calls_wellFounded m.bindings
  · refine ⟨validateBinding_eq_answer bound document, fun moves c run => ?_⟩
    have hc := run.wellChained (wellChained_start bound document)
    refine ⟨hc.nodup, fun n hn => hc.bound hn, fun moves' d run' stays => ?_, ?_⟩
    · rw [← run'.length_chain stays]
      exact (run'.wellChained hc).length_le
    · intro hmove d hd
      rcases part_of_mem_next hd hmove with hnone | ⟨whole, part, hw, hp, hpart⟩
      · exact Or.inl hnone
      · exact Or.inr ⟨whole, part, hw, hp, hpart, hpart.sizeOf_lt⟩

/-- Two aliases of one another, the first of them bound twice. -/
def twoAliases : Module :=
  ⟨"./input", [⟨"A", "isA", "A", .primitive .string false⟩,
    ⟨"A", "isA", "A", .nullable (.reference "B" false)⟩,
    ⟨"B", "isB", "B", .reference "A" false⟩]⟩

/-- A check against two aliases of one another follows one more reference and ends there. -/
theorem check_terminates_twoAliases :
    ∃ target moves c, Bound twoAliases.bindings "A" target ∧
      Run twoAliases.bindings (start "A" target (.bool true)) moves c ∧
      c.chain = ["B", "A"] ∧ c.chain.Nodup ∧
      ∀ moves' d, Run twoAliases.bindings c moves' d → .part ∉ moves' →
        moves'.count .reference = 0 := by
  have bound : Bound twoAliases.bindings "A" ⟨"A", "isA", "A", .nullable (.reference "B" false)⟩ :=
    binding?_eq_some_iff.mp rfl
  have inner : ⟨["A"], [], .reference "B" false, some (.bool true)⟩ ∈
      next twoAliases.bindings
        ⟨["A"], [], .nullable (.reference "B" false), some (.bool true)⟩ :=
    .head _
  have follow : ⟨["B", "A"], [], .reference "A" false, some (.bool true)⟩ ∈
      next twoAliases.bindings ⟨["A"], [], .reference "B" false, some (.bool true)⟩ :=
    .head _
  have run := Run.cons inner (.cons follow .nil)
  obtain ⟨nodup, -, followed, -⟩ :=
    ((check_terminates twoAliases).2.2 "A" _ (.bool true) bound).2 _ _ run
  refine ⟨_, _, _, bound, run, rfl, nodup, fun moves' d run' stays => ?_⟩
  have hcard : (twoAliases.bindings.map Binding.name).toFinset.card = 2 := by decide
  have := followed moves' d run' stays
  simp only [hcard, List.length_cons, List.length_nil] at this
  omega

end Module

end SchemaGuards
