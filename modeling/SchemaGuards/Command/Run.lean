import SchemaGuards.Command.FileTree
import SchemaGuards.Command.Plan

/-!
# Runs on file trees

Carrying out a plan on a file tree and a standard input, as a function. The standard input
can be read once: whoever reads it again finds nothing left.
-/

namespace SchemaGuards.Command

/-- What a run finds and leaves behind. -/
structure World where
  files : FileTree
  input : Content
  deriving Repr

namespace World

/-- Read a text. Reading the standard input uses it up, whatever comes of it. -/
def read (world : World) : Origin → World × Except FileFault String
  | .input => ({ world with input := .text "" }, world.input.read)
  | .file path => (world, (world.files.fetch path).bind Content.read)

/-- Make a folder. A folder that cannot be made leaves everything as it was. -/
def makeFolder (world : World) (path : String) : World × Except FileFault Unit :=
  match world.files.makeFolder path with
  | .ok files => ({ world with files }, .ok ())
  | .error fault => (world, .error fault)

/-- Write a file. A write that fails leaves everything as it was. -/
def write (world : World) (path text : String) : World × Except FileFault Unit :=
  match world.files.write path text with
  | .ok files => ({ world with files }, .ok ())
  | .error fault => (world, .error fault)

end World

/-- Carry out a plan. -/
def Plan.run (world : World) : Plan → World × Outcome
  | .read origin next =>
    let (world, result) := world.read origin
    (next result).run world
  | .makeFolder path next =>
    let (world, result) := world.makeFolder path
    (next result).run world
  | .write path text next =>
    let (world, result) := world.write path text
    (next result).run world
  | .finish outcome => (world, outcome)

end SchemaGuards.Command
