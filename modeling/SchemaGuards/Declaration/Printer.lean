import SchemaGuards.Declaration.Basic
import SchemaGuards.Text.Escaped

/-!
# Writing type expressions

A type expression is written back in the notation of declarations: unions with bars,
arrays with brackets after their item, which is put into parentheses where it would not
bind, object types with a semicolon after each member. Members that are no properties and
computed names are only hinted at.
-/

namespace SchemaGuards

namespace PropertyName

/-- The written name of a property. -/
def chars : PropertyName → List Char
  | identifier name => name.toList
  | string value => Text.escapedChars value.toList
  | number text => text.toList
  | computed => ['[', '…', ']']

end PropertyName

namespace Literal

/-- The written form of a literal type. -/
def chars : Literal → List Char
  | string value => Text.escapedChars value.toList
  | number source => source.toList
  | boolean true => "true".toList
  | boolean false => "false".toList

end Literal

namespace TypeExpr

/-- An array item in need of parentheses. -/
def bindsLoosely : TypeExpr → Bool
  | union _ => true
  | other _ _ => true
  | _ => false

/-- Put a written form into parentheses if asked to. -/
def parenthesized (needed : Bool) (cs : List Char) : List Char :=
  if needed then '(' :: (cs ++ [')']) else cs

mutual

/-- The characters of a written type expression. -/
def chars : TypeExpr → List Char
  | keyword k => k.word.toList
  | literal l => l.chars
  | union types => charsJoined [' ', '|', ' '] types
  | array item => parenthesized item.bindsLoosely (chars item) ++ ['[', ']']
  | object members =>
    if members.isEmpty then ['\x7b', '\x7d']
    else '\x7b' :: ' ' :: (charsOfMembers members ++ ['\x7d'])
  | reference name arguments =>
    name.text.toList ++
      if arguments.isEmpty then [] else '<' :: (charsJoined [',', ' '] arguments ++ ['>'])
  | other _ source => source.toList

/-- Written type expressions with a separator between them. -/
def charsJoined (separator : List Char) : List TypeExpr → List Char
  | [] => []
  | [e] => chars e
  | e :: rest => chars e ++ separator ++ charsJoined separator rest

/-- Written members, each with its semicolon and a blank. -/
def charsOfMembers : List Member → List Char
  | [] => []
  | m :: rest => charsOfMember m ++ [';', ' '] ++ charsOfMembers rest

/-- A written member. -/
def charsOfMember : Member → List Char
  | .property name optional type =>
    name.chars ++ (if optional then ['?'] else []) ++
      match type with
      | some e => ':' :: ' ' :: chars e
      | none => []
  | .method _ => "method(…)".toList
  | .indexSignature => "[…]: …".toList
  | .callSignature => "(…): …".toList
  | .constructSignature => "new (…): …".toList

end

/-- A written type expression. -/
def text (e : TypeExpr) : String := String.ofList e.chars

end TypeExpr

end SchemaGuards
