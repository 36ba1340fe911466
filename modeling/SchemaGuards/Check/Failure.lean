import SchemaGuards.Schema.Basic
import SchemaGuards.Text.Escaped

/-!
# Failures of a check

A check fails because a value breaks the schema at some place of the document, or because
the module lacks or loops on a name. A violation keeps the path to its place; the label in
its wording is that path in dotted form.
-/

namespace SchemaGuards.Check

/-- A step from a value into one of its parts. -/
inductive Segment where
  | key (name : String)
  | index (position : Nat)
  deriving DecidableEq, Repr

/-- One step of a label; a key has a dot before it unless nothing precedes it. -/
def extendLabel (label : List Char) : Segment → List Char
  | .key name => if label.isEmpty then name.toList else label ++ '.' :: name.toList
  | .index position => label ++ '[' :: (Nat.toDigits 10 position ++ [']'])

/-- The label of a path from the root; the root itself is called `value`. -/
def labelChars (path : List Segment) : List Char :=
  if path.isEmpty then "value".toList else path.foldl extendLabel []

/-- What is wrong with a value, or with the lack of one. -/
inductive Reason where
  | required
  | notAllowed
  | emptyString
  | notArray
  /-- The value is not of a primitive kind. -/
  | notPrimitive (kind : Primitive)
  /-- The value is none of the listed strings. -/
  | notListed (values : List String)
  deriving DecidableEq, Repr

/-- The wording of what a primitive expects. Kinds that no document can hold are just
not allowed. -/
def expectation : Primitive → String
  | .number => "must be a number"
  | .object => "must be of type object"
  | .boolean => "must be a boolean"
  | .string => "must be a string"
  | .null => "must be null"
  | .symbol => "must be a symbol"
  | .this | .void | .undefined | .never | .any => "is not allowed"

/-- The wording of a reason. -/
def Reason.message : Reason → String
  | required => "is required"
  | notAllowed => "is not allowed"
  | emptyString => "is not allowed to be empty"
  | notArray => "must be an array"
  | notPrimitive kind => expectation kind
  | notListed values => "must be one of [" ++ ", ".intercalate (values.map Text.escaped) ++ "]"

/-- Why a check fails. -/
inductive Failure where
  /-- No declaration of the module has the name. -/
  | unknownType (name : String)
  /-- A reference names no binding. -/
  | unknownBinding (name : String)
  /-- References lead back to the name without a step into the value. -/
  | circular (name : String)
  /-- The value at a path breaks the schema. -/
  | violation (path : List Segment) (reason : Reason)
  deriving DecidableEq, Repr

namespace Failure

/-- The failure is a violation. -/
def isViolation : Failure → Bool
  | violation _ _ => true
  | _ => false

/-- The wording of a failure. -/
def message : Failure → String
  | unknownType name => s!"no declaration named `{name}`"
  | unknownBinding name => s!"reference to unknown schema `{name}`"
  | circular name => s!"circular reference through `{name}`"
  | violation path reason => s!"\"{String.ofList (labelChars path)}\" {reason.message}"

end Failure

end SchemaGuards.Check
