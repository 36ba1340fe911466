import SchemaGuards.Json.Basic
import SchemaGuards.Text.Escaped

/-!
# Writing JSON

String literals escape the quote, the backslash and the controls below the space, the
common ones by a letter and the others by four hexadecimal digits; every other character
stands for itself. Values are written on one line or laid out with two blanks a level.
-/

namespace SchemaGuards.Json

/-- The characters of one character inside a string literal. -/
def quotedChar (c : Char) : List Char :=
  if c = '"' then ['\\', '"']
  else if c = '\\' then ['\\', '\\']
  else if c = '\x08' then ['\\', 'b']
  else if c = '\x0c' then ['\\', 'f']
  else if c = '\n' then ['\\', 'n']
  else if c = '\r' then ['\\', 'r']
  else if c = '\t' then ['\\', 't']
  else if c.toNat < 0x20 then
    ['\\', 'u', '0', '0'] ++
      [Nat.digitChar (c.toNat / 16), Nat.digitChar (c.toNat % 16)]
  else [c]

/-- The characters of a string literal, quotes included. -/
def quotedChars (cs : List Char) : List Char :=
  '"' :: (cs.flatMap quotedChar ++ ['"'])

mutual

/-- A value on one line, without blanks. -/
def compact : Json → List Char
  | null => "null".toList
  | bool true => "true".toList
  | bool false => "false".toList
  | number literal => literal.toList
  | text value => quotedChars value.toList
  | list items => '[' :: (compactItems items ++ [']'])
  | object entries => '\x7b' :: (compactEntries entries ++ ['\x7d'])

/-- Items separated by commas. -/
def compactItems : List Json → List Char
  | [] => []
  | [item] => compact item
  | item :: rest => compact item ++ ',' :: compactItems rest

/-- Entries separated by commas. -/
def compactEntries : List (String × Json) → List Char
  | [] => []
  | [(key, value)] => quotedChars key.toList ++ ':' :: compact value
  | (key, value) :: rest =>
    quotedChars key.toList ++ ':' :: (compact value ++ ',' :: compactEntries rest)

end

/-- The start of a line at a level of nesting. -/
def lineStart (level : Nat) : List Char := '\n' :: List.replicate (2 * level) ' '

mutual

/-- A value laid out over lines; the value itself starts on a line of the given level. -/
def layout (level : Nat) : Json → List Char
  | null => "null".toList
  | bool true => "true".toList
  | bool false => "false".toList
  | number literal => literal.toList
  | text value => quotedChars value.toList
  | list items =>
    if items.isEmpty then ['[', ']']
    else '[' :: (layoutItems (level + 1) items ++ lineStart level ++ [']'])
  | object entries =>
    if entries.isEmpty then ['\x7b', '\x7d']
    else '\x7b' :: (layoutEntries (level + 1) entries ++ lineStart level ++ ['\x7d'])

/-- The items of a list, each on a line of its own. -/
def layoutItems (level : Nat) : List Json → List Char
  | [] => []
  | [item] => lineStart level ++ layout level item
  | item :: rest => lineStart level ++ layout level item ++ ',' :: layoutItems level rest

/-- The entries of an object, each on a line of its own. -/
def layoutEntries (level : Nat) : List (String × Json) → List Char
  | [] => []
  | [(key, value)] =>
    lineStart level ++ quotedChars key.toList ++ ':' :: ' ' :: layout level value
  | (key, value) :: rest =>
    lineStart level ++ quotedChars key.toList ++ ':' :: ' ' :: (layout level value ++
      ',' :: layoutEntries level rest)

end

/-- A value laid out over lines, two blanks a level. -/
def pretty (value : Json) : String := String.ofList (layout 0 value)

end SchemaGuards.Json
