/-!
# Import paths

The path under which generated code imports the types of a source module: the label of the
module without its source extension, made relative when it is a bare name.
-/

namespace SchemaGuards

/-- The text before a given ending. -/
def beforeSuffix? (ending cs : List Char) : Option (List Char) :=
  if ending.isSuffixOf cs then some (cs.take (cs.length - ending.length)) else none

/-- A file name without `.ts` or `.tsx`, and then without a `.d` before that. -/
def withoutExtension (cs : List Char) : List Char :=
  match (beforeSuffix? ".ts".toList cs).or (beforeSuffix? ".tsx".toList cs) with
  | some stem => (beforeSuffix? ".d".toList stem).getD stem
  | none => cs

/-- A path that starts with a dot or a slash is kept, any other one is a bare name. -/
def isAnchored : List Char → Bool
  | '.' :: _ => true
  | '/' :: _ => true
  | _ => false

/-- The import path for a module label. -/
def importPath (label : String) : String :=
  let stem := withoutExtension label.toList
  String.ofList (if isAnchored stem then stem else '.' :: '/' :: stem)

example : importPath "types.d.ts" = "./types" := by decide +kernel

example : importPath "../shared/model.ts" = "../shared/model" := by decide +kernel

end SchemaGuards
