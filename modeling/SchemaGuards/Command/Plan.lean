import SchemaGuards.Check.Basic
import SchemaGuards.Command.Arguments
import SchemaGuards.Command.FileFault
import SchemaGuards.Command.Path
import SchemaGuards.Json.Reader
import SchemaGuards.Module.Source

/-!
# Plans of runs

What a command line does, as a tree of steps: a step reads a text, makes a folder or writes a
file, and each answer that it can get leads to the rest of the plan. A plan ends with what the
run prints and its exit status. The texts and the order of the steps are all decided
here; whoever carries out a plan only answers it.

## Implementation notes

Nothing is written before everything that can fail without it has gone well: a plan has at
most one write, right before its end. A document is checked instead of writing anything.
-/

namespace SchemaGuards.Command

/-- Where a text is read from. -/
inductive Origin where
  | input
  | file (path : String)
  deriving Repr, DecidableEq

namespace Origin

/-- A dash stands for the standard input. -/
def ofWord (word : String) : Origin := if word = "-" then input else file word

/-- What failed when a text cannot be read. -/
def complaint : Origin → String
  | input => "failed to read stdin"
  | file path => s!"failed to read source file ({path})"

/-- The label of a source text, by the name of its file. -/
def label : Origin → String
  | input => Module.defaultLabel
  | file path => (Path.fileName? path).getD Module.defaultLabel

end Origin

/-- What a run prints, and its exit status. -/
structure Outcome where
  status : Nat
  printed : String
  complaints : String
  deriving Repr, DecidableEq

namespace Outcome

/-- The run did what was asked and prints a text. -/
def done (printed : String) : Outcome := ⟨0, printed, ""⟩

/-- The run failed, for causes that are told from the outermost one on. -/
def failed (causes : List String) : Outcome :=
  ⟨1, "", "error: " ++ String.intercalate ": " causes ++ "\n"⟩

/-- The document does not satisfy the guard. -/
def rejected (violation : String) : Outcome := ⟨1, "false\n", violation ++ "\n"⟩

end Outcome

/-- The steps of a run. -/
inductive Plan where
  | read (origin : Origin) (next : Except FileFault String → Plan)
  | makeFolder (path : String) (next : Except FileFault Unit → Plan)
  | write (path text : String) (next : Except FileFault Unit → Plan)
  | finish (outcome : Outcome)

namespace Plan

/-- Read a text, or fail. -/
def reading (origin : Origin) (next : String → Plan) : Plan :=
  .read origin fun
    | .error fault => .finish (.failed [origin.complaint, fault.message])
    | .ok text => next text

/-- Write a text to a file in a folder that is there, or fail. -/
def writing (path text : String) : Plan :=
  .write path text fun
    | .error fault =>
      .finish (.failed [s!"failed to write output file ({path})", fault.message])
    | .ok () => .finish (.done "")

/-- Have the first of some folders, each of which stands in the next one. A folder is made
after those around it when it cannot be made without them. -/
def furnishing : List String → (Except FileFault Unit → Plan) → Plan
  | [], next => next (.ok ())
  | path :: outer, next =>
    .makeFolder path fun
      | .error .missing => furnishing outer fun
        | .error fault => next (.error fault)
        | .ok () => .makeFolder path next
      | result => next result

/-- Write a text to a file and make the folders around it when they are missing, or fail. -/
def delivering (path text : String) : Plan :=
  let folder := Path.folder path
  if folder = "" then writing path text
  else
    furnishing (Path.upward folder) fun
      | .error fault =>
        .finish (.failed [s!"failed to create output directory ({folder})", fault.message])
      | .ok () => writing path text

end Plan

/-- What the check of a document comes to. -/
def verdict (m : Module) (typeName : String) (document : Json) : Outcome :=
  match m.validate typeName document with
  | .ok () => .done "true\n"
  | .error failure =>
    if failure.isViolation then .rejected failure.message else .failed [failure.message]

namespace Arguments

variable (a : Arguments)

/-- Where the source text is read from. -/
def origin : Origin := Origin.ofWord a.input

/-- The module of a source text, or the outcome that tells why there is none. -/
def compile (source : String) : Except Outcome Module :=
  (Module.ofSource ⟨a.suffix⟩ a.origin.label source).mapError fun fault =>
    .failed (s!"failed to compile {a.input}" :: fault.causes)

/-- The text that is generated for a module. -/
def product (m : Module) : String :=
  if a.dumpIr then m.record.pretty ++ "\n" else m.text

/-- Check a document with the guard of a type. -/
def checkPlan (m : Module) (typeName value : String) : Plan :=
  Plan.reading (Origin.ofWord value) fun text =>
    match Json.read text with
    | .error fault =>
      .finish (.failed [s!"failed to parse JSON document ({value})", fault.message])
    | .ok document => .finish (verdict m typeName document)

/-- Print a text, or write it to the output file. -/
def deliver (text : String) : Plan :=
  match a.output? with
  | none => .finish (.done text)
  | some path => Plan.delivering path text

/-- What is left to do with a source text. -/
def sourcePlan (source : String) : Plan :=
  match a.compile source with
  | .error outcome => .finish outcome
  | .ok m =>
    match a.check?, a.value? with
    | some typeName, some value => checkPlan m typeName value
    | _, _ => a.deliver (a.product m)

/-- The whole run. -/
def plan : Plan :=
  if a.noOp then .finish ⟨0, "", a.listing⟩ else Plan.reading a.origin a.sourcePlan

end Arguments

/-- The name of the program. -/
def programName : String := "ts-joi-gen"

/-- The version of the program. -/
def versionText : String := programName ++ " 0.1.0\n"

/-- How the program is called. -/
def usageText : String := "Usage: " ++ programName ++ " [-s SUFFIX] INPUT [OUTPUT]\n"

/-- What the program can do. -/
def helpText : String :=
  "generate Joi schemas and type guards from TypeScript interfaces and type aliases\n\n" ++
  usageText ++
  "\nArguments:\n" ++
  "  <INPUT>   input .ts file, or '-' for stdin\n" ++
  "  [OUTPUT]  output .ts file (stdout if omitted)\n" ++
  "\nOptions:\n" ++
  "  -s, --suffix <SUFFIX>  appended to every generated schema and guard name [default: ]\n" ++
  "      --dump-ir          print the lowered schema IR as JSON instead of generated source\n" ++
  "      --check <TYPE>     validate the JSON document given by --value with the guard of " ++
  "this declaration\n" ++
  "      --value <PATH>     JSON document checked by --check ('-' for stdin)\n" ++
  "      --no-op            debugging\n" ++
  "  -h, --help             Print help\n" ++
  "  -V, --version          Print version\n"

/-- What the program tells about a command line that it refuses. -/
def refusalText (fault : UsageFault) : String :=
  "error: " ++ fault.message ++ "\n\n" ++ usageText ++ "\nFor more information, try '--help'.\n"

/-- The plan for what a command line comes to. -/
def Request.plan : Request → Plan
  | .run arguments => arguments.plan
  | .version => .finish (.done versionText)
  | .help => .finish (.done helpText)
  | .refused fault => .finish ⟨2, "", refusalText fault⟩

end SchemaGuards.Command
