import SchemaGuards.Command.FileFault
import SchemaGuards.Command.Path

/-!
# File trees

A model of the files that a run can see: a finite table from places to files and folders.
Reading, writing and making folders behave as on a system with plain files and folders,
down to which fault is told when several apply.

## Implementation notes

A place lists the names that lead to it from the innermost one outwards, so stepping into a
folder is a new head and stepping out of it drops one. Places are relative to the folder in
which the run takes place; a place outside of it starts with as many `..` as needed, and the
top folder is the place that holds nothing but a slash.
-/

namespace SchemaGuards

/-- What a file holds. -/
inductive Content where
  | text (value : String)
  /-- Bytes that are no text. -/
  | bytes (value : List UInt8)
  deriving Repr, DecidableEq

/-- The text that a file holds. -/
def Content.read : Content → Except FileFault String
  | text value => .ok value
  | bytes _ => .error .notText

/-- A place in a file tree, innermost name first. -/
abbrev Place := List String

namespace Place

/-- The top folder. -/
def top : Place := ["/"]

/-- The place that one step leads to. -/
def step (place : Place) (name : String) : Place :=
  if name = "." then place
  else if name = ".." then
    match place with
    | [] => [".."]
    | inner :: outer =>
      if inner = ".." then ".." :: inner :: outer
      else if inner = "/" then inner :: outer
      else outer
  else name :: place

/-- The folder of the run, the folders around it and the top folder are always there. -/
def isGround (place : Place) : Bool := place.all (· == "..") || place == top

end Place

/-- What can be at a place. -/
inductive Node where
  | folder
  | file (content : Content)
  deriving Repr, DecidableEq

/-- The files and folders that a run can see. The first entry for a place counts. -/
structure FileTree where
  nodes : List (Place × Node)
  deriving Repr

namespace FileTree

/-- What is at a place, if anything. -/
def node? (tree : FileTree) (place : Place) : Option Node :=
  if place.isGround then some .folder else tree.nodes.lookup place

/-- What the file at a place holds, if there is one. -/
def content? (tree : FileTree) (place : Place) : Option Content :=
  match tree.node? place with
  | some (.file content) => some content
  | _ => none

/-- Put a file or a folder at a place. -/
def put (tree : FileTree) (place : Place) (node : Node) : FileTree :=
  ⟨(place, node) :: tree.nodes⟩

/-- A step leads on from folders only. -/
def enter (tree : FileTree) (place : Place) : Except FileFault Unit :=
  match tree.node? place with
  | some .folder => .ok ()
  | some (.file _) => .error .notFolder
  | none => .error .missing

/-- The place that steps lead to. There need not be anything at its end. -/
def walk (tree : FileTree) (place : Place) : List String → Except FileFault Place
  | [] => .ok place
  | name :: rest => do
    tree.enter place
    tree.walk (place.step name) rest

/-- The place that a path leads to. -/
def locate (tree : FileTree) (path : String) : Except FileFault Place :=
  let steps := Path.split path.toList
  let start : Place := if steps.head? = some [] then Place.top else []
  if path = "" then .error .missing
  else tree.walk start ((steps.filter fun step => step ≠ []).map String.ofList)

/-- A path that ends with a slash can only lead to a folder. -/
def asksFolder (path : String) : Bool := path.toList.getLast? == some '/'

/-- The content of the file that a path leads to. -/
def fetch (tree : FileTree) (path : String) : Except FileFault Content := do
  match tree.node? (← tree.locate path) with
  | none => .error .missing
  | some .folder => .error .isFolder
  | some (.file content) => if asksFolder path then .error .notFolder else .ok content

/-- Replace the content of the file that a path leads to, or make the file. -/
def write (tree : FileTree) (path text : String) : Except FileFault FileTree := do
  let place ← tree.locate path
  if asksFolder path || tree.node? place = some .folder then .error .isFolder
  else .ok (tree.put place (.file (.text text)))

/-- Have a folder where a path leads to. One that is there already will do. -/
def makeFolder (tree : FileTree) (path : String) : Except FileFault FileTree := do
  let place ← tree.locate path
  match tree.node? place with
  | some .folder => .ok tree
  | some (.file _) => .error .occupied
  | none => .ok (tree.put place .folder)

example : ((⟨[(["a", "d"], .file (.text "x")), (["d"], .folder)]⟩ : FileTree).fetch
    "./d/../d/a").toOption = some (.text "x") := by decide +kernel

example : ((⟨[(["m"], .file (.text "x"))]⟩ : FileTree).fetch "m/../m").toOption = none := by
  decide +kernel

end FileTree

end SchemaGuards
