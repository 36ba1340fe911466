import SchemaGuards.Command.Run
import SchemaGuards.Proofs.Check.Calls
import SchemaGuards.Proofs.Command.Files

/-!
# What a run touches

A run brings one text or one answer. The text goes to the output file or is printed, and then
the run ends well; the answer is printed. Whatever else happens, no file is new or changed and
nothing is printed. Folders around the output file may be new.

## Implementation notes

Each piece of a plan has one statement about its runs. Where a plan goes on with whatever an
operation answers, the statement is about the run of the rest in the world that the operation
leaves behind.
-/

namespace SchemaGuards.Command

open FileTree

/-- What a command line leaves of the files and the standard input, and what comes of it. -/
def World.command (world : World) (words : List String) : World × Outcome :=
  (Request.ofWords words).plan.run world

namespace Draft

end Draft

/-- What is wanted of a source text when no document is checked: the generated text, or the
schemas as JSON. -/
def Arguments.wanted (a : Arguments) (source : String) : Except CompileFault String :=
  if a.dumpIr then
    (Module.ofSource ⟨a.suffix⟩ a.origin.label source).map fun m => m.record.pretty ++ "\n"
  else Module.textOfSource ⟨a.suffix⟩ a.origin.label source

/-- The source can be read and compiles, the document can be read after it, and the guard of
the given type answers. -/
def Arguments.Answers (a : Arguments) (world : World) (answer : Bool) : Prop :=
  ∃ typeName value source m text document, a.check? = some typeName ∧ a.value? = some value ∧
    (world.read a.origin).2 = .ok source ∧
    Module.ofSource ⟨a.suffix⟩ a.origin.label source = .ok m ∧
    ((world.read a.origin).1.read (Origin.ofWord value)).2 = .ok text ∧
    Json.read text = .ok document ∧ m.accepts typeName document = .ok answer

namespace Plan

variable {world : World} {path text : String}

end Plan

/-- The outcome tells an answer: the word is printed and the status goes with it. -/
def Outcome.Tells (outcome : Outcome) : Bool → Prop
  | true => outcome.printed = "true\n" ∧ outcome.status = 0
  | false => outcome.printed = "false\n" ∧ outcome.status = 1

theorem Outcome.Tells.unique {outcome : Outcome} {answer other : Bool} (h : outcome.Tells answer)
    (h' : outcome.Tells other) : answer = other := by
  cases answer <;> cases other <;> simp_all [Tells]

namespace Arguments

variable {a : Arguments} {before : World}

theorem Answers.unique {answer other : Bool} (h : a.Answers before answer)
    (h' : a.Answers before other) : answer = other := by
  obtain ⟨_, _, _, _, _, _, hc, hv, hs, hm, ht, hd, ha⟩ := h
  simpa [Answers, hc, hv, hs, hm, ht, hd, ha] using h'

variable (before)

end Arguments

end SchemaGuards.Command
