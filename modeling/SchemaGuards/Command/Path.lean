/-!
# Paths of files

A path is text with steps between slashes. Empty steps never matter, and a single dot
matters only as the first step of a path, so paths that differ in nothing else lead to the
same place. The text of a folder around a file is still the text that was given.

## Implementation notes

The steps after the first one are kept from the last to the first: the name of a file and
the folders around it are found from the end of its path.
-/

namespace SchemaGuards.Path

/-- The steps of a path, empty ones included. -/
def split : List Char → List (List Char)
  | [] => [[]]
  | c :: cs =>
    if c = '/' then [] :: split cs
    else
      match split cs with
      | [] => [[c]]
      | step :: steps => (c :: step) :: steps

/-- Steps with a slash between each two. -/
def join : List (List Char) → List Char
  | [] => []
  | [step] => step
  | step :: steps => step ++ '/' :: join steps

theorem split_ne_nil (cs : List Char) : split cs ≠ [] := by
  cases cs with
  | nil => simp [split]
  | cons c cs =>
    unfold split
    split
    · simp
    · split <;> simp

/-- A step after the first one that leads nowhere else. -/
def isIdle (step : List Char) : Bool := step = [] || step = ['.']

/-- The first step of a path, and the others from the last to the first. -/
def inward (path : String) : List Char × List (List Char) :=
  match split path.toList with
  | [] => ([], [])
  | first :: rest => (first, rest.reverse)

/-- The last step of a path that matters. -/
def lastStep (path : String) : List Char :=
  let (first, rest) := inward path
  (rest.find? fun step => !isIdle step).getD first

/-- The name of the file that a path leads to, if its last step is a name. -/
def fileName? (path : String) : Option String :=
  let step := lastStep path
  if isIdle step || step = ['.', '.'] then none else some (String.ofList step)

/-- The paths from a first step along steps that are given from the last to the first,
the longest path first. A path that starts with a slash ends with the top folder. -/
def enclosing (first : List Char) : List (List Char) → List String
  | [] => [if first = [] then "/" else String.ofList first]
  | step :: outer =>
    if isIdle step then enclosing first outer
    else String.ofList (join (first :: (step :: outer).reverse)) :: enclosing first outer

/-- A path and the folders around it, inside out, as far as the text tells them. -/
def upward (path : String) : List String :=
  if path = "" then []
  else
    let (first, rest) := inward path
    enclosing first rest

/-- The folder around a file, or no text where the path tells none. -/
def folder (path : String) : String := (upward path).tail.headD ""

example : fileName? "./src/types.ts/" = some "types.ts" := by decide +kernel

example : fileName? "src/.." = none := by decide +kernel

example : upward "/a//b/./c" = ["/a//b/./c", "/a//b", "/a", "/"] := by decide +kernel

example : (folder "./out.ts", folder "out.ts", folder "gen/out.ts") = (".", "", "gen") := by
  decide +kernel

end SchemaGuards.Path
