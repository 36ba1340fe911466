import SchemaGuards.Text.Visible

/-!
# Text in double quotes

Diagnostics show a string between double quotes in a form in which every character
can be seen: the quote, the backslash and the common controls have short escapes, every
other character that is not visible is written by its code point, and the rest stands
for itself.
-/

namespace SchemaGuards.Text

/-- The digits of a number in base sixteen, in lower case and without padding. -/
def hexDigits (n : Nat) : List Char := Nat.toDigits 16 n

/-- The written form of one character between a pair of the given quote. -/
def escapedChar (quote c : Char) : List Char :=
  if c = '\x00' then ['\\', '0']
  else if c = '\t' then ['\\', 't']
  else if c = '\r' then ['\\', 'r']
  else if c = '\n' then ['\\', 'n']
  else if c = '\\' || c = quote then ['\\', c]
  else if isVisible c then [c]
  else ['\\', 'u', '\x7b'] ++ hexDigits c.toNat ++ ['\x7d']

/-- The characters of a quoted text, quotes included. -/
def escapedChars (cs : List Char) : List Char :=
  '"' :: (cs.flatMap (escapedChar '"') ++ ['"'])

/-- A text between double quotes, in visible characters. -/
def escaped (s : String) : String := String.ofList (escapedChars s.toList)

/-- One character between single quotes, in visible characters. -/
def escapedSingle (c : Char) : String :=
  String.ofList ('\'' :: (escapedChar '\'' c ++ ['\'']))

example : escapedChars ['a', '"', '\n', '\\', '\''] =
    ['"', 'a', '\\', '"', '\\', 'n', '\\', '\\', '\'', '"'] := by decide

example : escapedChar '"' '\x01' = ['\\', 'u', '\x7b', '1', '\x7d'] := by decide +kernel

end SchemaGuards.Text
