import SchemaGuards.Text.Escaped

/-!
# Arguments

The words of a command line, read from left to right. A word that asks for the version or
for help answers at once, and so does the first word that is wrong; what the words as a
whole must satisfy is looked at after the last one.

## Implementation notes

A draft holds what the words read so far have given. An option takes its value from its own
word, after `=` or, in the short form, right behind the letter, or else from the next word.
-/

namespace SchemaGuards.Command

/-- What a command line asks for. -/
structure Arguments where
  /-- Added to every generated name. -/
  suffix : String
  /-- The source file, or `-`. -/
  input : String
  /-- The file for the generated text. -/
  output? : Option String
  /-- Write the schemas as JSON instead of generated text. -/
  dumpIr : Bool
  /-- The type whose guard checks a document. -/
  check? : Option String
  /-- The document to check, or `-`. -/
  value? : Option String
  /-- Only list the arguments. -/
  noOp : Bool
  deriving Repr, DecidableEq

/-- The options that take a value. -/
inductive Setting where
  | suffix
  | check
  | value
  deriving Repr, DecidableEq

/-- The options that take none. -/
inductive Switch where
  | dumpIr
  | noOp
  deriving Repr, DecidableEq

/-- How a setting is told to the user. -/
def Setting.usage : Setting → String
  | suffix => "--suffix <SUFFIX>"
  | check => "--check <TYPE>"
  | value => "--value <PATH>"

/-- How a switch is told to the user. -/
def Switch.usage : Switch → String
  | dumpIr => "--dump-ir"
  | noOp => "--no-op"

/-- Why a command line is refused. -/
inductive UsageFault where
  | unexpected (word : String)
  | repeated (usage : String)
  | noValue (setting : Setting)
  | badSuffix (word : String)
  | noOutput
  | absent (usage : String)
  | conflict
  deriving Repr, DecidableEq

/-- The wording of a refusal. -/
def UsageFault.message : UsageFault → String
  | unexpected word => s!"unexpected argument '{word}' found"
  | repeated usage => s!"the argument '{usage}' cannot be used multiple times"
  | noValue setting =>
    s!"a value is required for '{setting.usage}' but none was supplied"
  | badSuffix word =>
    s!"invalid value '{word}' for '{Setting.suffix.usage}': " ++
      s!"`{word}` cannot be part of a JavaScript identifier"
  | noOutput => "a value is required for '[OUTPUT]' but none was supplied"
  | absent usage => s!"the following required arguments were not provided:\n  {usage}"
  | conflict =>
    s!"the argument '{Switch.dumpIr.usage}' cannot be used with '{Setting.check.usage}'"

/-- What a command line comes to. -/
inductive Request where
  | run (arguments : Arguments)
  | version
  | help
  | refused (fault : UsageFault)
  deriving Repr, DecidableEq

/-- What one word of a command line is. -/
inductive Word where
  | plain
  /-- The end of the options. -/
  | divider
  | setting (setting : Setting) (attached? : Option String)
  | switch (switch : Switch)
  | version
  | help
  | unknown
  deriving Repr, DecidableEq

namespace Word

/-- The name and the value of a long option, without the dashes. -/
def long (cs : List Char) : Word :=
  let name := String.ofList (cs.takeWhile (· ≠ '='))
  let attached? := match cs.dropWhile (· ≠ '=') with
    | [] => none
    | _ :: value => some (String.ofList value)
  match name, attached? with
  | "suffix", _ => setting .suffix attached?
  | "check", _ => setting .check attached?
  | "value", _ => setting .value attached?
  | "dump-ir", none => switch .dumpIr
  | "no-op", none => switch .noOp
  | "version", none => version
  | "help", none => help
  | _, _ => unknown

/-- A short option by its letter and the text behind it. -/
def short (letter : Char) (behind : List Char) : Word :=
  match letter, behind with
  | 's', [] => setting .suffix none
  | 's', '=' :: value => setting .suffix (some (String.ofList value))
  | 's', value => setting .suffix (some (String.ofList value))
  | 'V', _ => version
  | 'h', _ => help
  | _, _ => unknown

/-- What a word is. A dash alone is no option. -/
def ofText (text : String) : Word :=
  match text.toList with
  | ['-', '-'] => divider
  | '-' :: '-' :: name => long name
  | '-' :: letter :: behind => short letter behind
  | _ => plain

end Word

/-- A suffix may hold the ASCII characters of an identifier. -/
def isSuffix (text : String) : Bool :=
  text.toList.all fun c => c.isAlphanum || c = '_' || c = '$'

/-- What the words read so far have given. -/
structure Draft where
  suffix? : Option String
  input? : Option String
  output? : Option String
  dumpIr : Bool
  check? : Option String
  value? : Option String
  noOp : Bool
  deriving Repr, DecidableEq

namespace Draft

/-- Nothing is given. -/
def blank : Draft := ⟨none, none, none, false, none, none, false⟩

/-- Give a value to a setting that has none. -/
def set (draft : Draft) (setting : Setting) (value : String) : Except UsageFault Draft :=
  match setting with
  | .suffix =>
    if draft.suffix?.isSome then .error (.repeated setting.usage)
    else if isSuffix value then .ok { draft with suffix? := some value }
    else .error (.badSuffix value)
  | .check =>
    if draft.check?.isSome then .error (.repeated setting.usage)
    else .ok { draft with check? := some value }
  | .value =>
    if draft.value?.isSome then .error (.repeated setting.usage)
    else .ok { draft with value? := some value }

/-- Turn on a switch that is off. -/
def turnOn (draft : Draft) (switch : Switch) : Except UsageFault Draft :=
  match switch with
  | .dumpIr =>
    if draft.dumpIr then .error (.repeated switch.usage)
    else .ok { draft with dumpIr := true }
  | .noOp =>
    if draft.noOp then .error (.repeated switch.usage)
    else .ok { draft with noOp := true }

/-- The first plain word is the input, the second one the output. -/
def place (draft : Draft) (text : String) : Except UsageFault Draft :=
  match draft.input?, draft.output? with
  | none, _ => .ok { draft with input? := some text }
  | some _, none =>
    if text = "" then .error .noOutput else .ok { draft with output? := some text }
  | some _, some _ => .error (.unexpected text)

/-- What the words as a whole ask for. -/
def request (draft : Draft) : Request :=
  match draft.input? with
  | none => .refused (.absent "<INPUT>")
  | some input =>
    if draft.dumpIr && draft.check?.isSome then .refused .conflict
    else if draft.check?.isSome && draft.value?.isNone then
      .refused (.absent Setting.value.usage)
    else if draft.value?.isSome && draft.check?.isNone then
      .refused (.absent Setting.check.usage)
    else
      .run ⟨draft.suffix?.getD "", input, draft.output?, draft.dumpIr, draft.check?,
        draft.value?, draft.noOp⟩

/-- Read words behind the end of the options. -/
def readPlain (draft : Draft) : List String → Request
  | [] => draft.request
  | text :: rest =>
    match draft.place text with
    | .ok draft => draft.readPlain rest
    | .error fault => .refused fault

/-- Read the words of a command line. -/
def read (draft : Draft) : List String → Request
  | [] => draft.request
  | text :: rest =>
    match Word.ofText text with
    | .plain =>
      match draft.place text with
      | .ok draft => draft.read rest
      | .error fault => .refused fault
    | .divider => draft.readPlain rest
    | .switch switch =>
      match draft.turnOn switch with
      | .ok draft => draft.read rest
      | .error fault => .refused fault
    | .setting setting (some value) =>
      match draft.set setting value with
      | .ok draft => draft.read rest
      | .error fault => .refused fault
    | .setting setting none =>
      match rest with
      | [] => .refused (.noValue setting)
      | value :: rest =>
        if Word.ofText value = .plain then
          match draft.set setting value with
          | .ok draft => draft.read rest
          | .error fault => .refused fault
        else .refused (.noValue setting)
    | .version => .version
    | .help => .help
    | .unknown => .refused (.unexpected text)

end Draft

/-- What a command line asks for. -/
def Request.ofWords (words : List String) : Request := Draft.blank.read words

namespace Arguments

/-- A character of a quoted path. Both quotes are escaped there. -/
def pathChar (c : Char) : List Char :=
  if c = '\'' then ['\\', '\''] else Text.escapedChar '"' c

/-- A path between double quotes. -/
def quotedPath (path : String) : String :=
  String.ofList ('"' :: (path.toList.flatMap pathChar ++ ['"']))

/-- How an optional text is listed, by its quoted form. -/
def listed : Option String → String
  | none => "None"
  | some quoted => "Some(\n        " ++ quoted ++ ",\n    )"

/-- All arguments and their values, one a line. -/
def listing (a : Arguments) : String :=
  "CommandLineInterface \x7b\n" ++
  "    suffix: " ++ Text.escaped a.suffix ++ ",\n" ++
  "    input: " ++ Text.escaped a.input ++ ",\n" ++
  "    output: " ++ listed (a.output?.map quotedPath) ++ ",\n" ++
  "    dump_ir: " ++ toString a.dumpIr ++ ",\n" ++
  "    check: " ++ listed (a.check?.map Text.escaped) ++ ",\n" ++
  "    value: " ++ listed (a.value?.map Text.escaped) ++ ",\n" ++
  "    no_op: " ++ toString a.noOp ++ ",\n" ++
  "\x7d\n"

end Arguments

example : Request.ofWords ["-s", "V", "m.ts", "--", "-o"] =
    .run ⟨"V", "m.ts", some "-o", false, none, none, false⟩ := by decide +kernel

example : Request.ofWords ["--check", "--version"] = .refused (.noValue .check) := by
  decide +kernel

end SchemaGuards.Command
