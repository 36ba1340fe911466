import SchemaGuards.Decimal.Literal
import SchemaGuards.Syntax.Fault

/-!
# Tokens

The words, marks and literals that a source text is made of. A lexeme is a token with the
span of characters that writes it.
-/

namespace SchemaGuards.Syntax

/-- A stretch of the source, by the numbers of characters before its ends. -/
structure Span where
  lo : Nat
  hi : Nat
  deriving DecidableEq, Repr, Inhabited

/-- The characters of a span. -/
def Span.slice (span : Span) (source : List Char) : List Char :=
  (source.drop span.lo).take (span.hi - span.lo)

/-- A token. Literals keep their source text, strings also their value. -/
inductive Token where
  /-- A name or a reserved word, with its escapes decoded. -/
  | word (text : String)
  /-- A word whose first character is written as an escape: a name, whatever it spells. -/
  | escapedWord (text : String)
  /-- Punctuation or an operator. -/
  | mark (text : String)
  | string (value source : String)
  | number (source : String)
  | bigint (source : String)
  /-- A chunk of a template, with the last fault of its escapes. -/
  | chunk (source : String) (fault : Option Fault)
  | regex (source flags : String)
  /-- No token can be read here; the reading reached a place after so many characters. -/
  | broken (fault : Fault) (reached : Nat)
  deriving DecidableEq, Repr

/-- A token in its place; `fresh` tells that a line break stands before it. -/
structure Lexeme where
  token : Token
  span : Span
  fresh : Bool
  deriving DecidableEq, Repr

namespace Token

/-- The digits of a big integer without mark and separators, in decimal. -/
def bigintText (source : String) : String :=
  match (source.toList.filter (· != '_')).dropLast with
  | '0' :: radix :: digits =>
    if radix = 'x' || radix = 'X' then toString (Decimal.ofDigits 16 digits)
    else if radix = 'o' || radix = 'O' then toString (Decimal.ofDigits 8 digits)
    else if radix = 'b' || radix = 'B' then toString (Decimal.ofDigits 2 digits)
    else toString (Decimal.ofDigits 10 (radix :: digits))
  | digits => toString (Decimal.ofDigits 10 digits)

/-- How a diagnostic names a token, given where it counts a place that has some number of
characters before it. -/
def shown (count : Nat → Nat) : Token → String
  | word text => text
  | escapedWord text => text
  | mark text => text
  | string value source => s!"string literal ({value}, {source})"
  | number source =>
    s!"numeric literal ({(Decimal.literalValue source.toList).text}, {source})"
  | bigint source => s!"bigint literal ({bigintText source}, {source})"
  | chunk source _ => s!"template token ({source})"
  | regex source flags => s!"regexp literal ({source}, {flags})"
  | broken fault reached =>
    let lo := count fault.offset
    let hi := match fault.cause.extent? with
      | some length => lo + length
      | none => count reached
    s!"<lexing error: Error \x7b error: ({lo}..{hi}#0, {fault.cause.tag}) \x7d>"

/-- The text of a word. -/
def wordText? : Token → Option String
  | word text => some text
  | escapedWord text => some text
  | _ => none

end Token

/-- Words that are no names: keywords, literal words and the words kept for strict code. -/
def reservedWords : List String :=
  ["await", "break", "case", "catch", "class", "const", "continue", "debugger", "default",
    "delete", "do", "else", "enum", "export", "extends", "false", "finally", "for", "function",
    "if", "implements", "import", "in", "instanceof", "interface", "let", "new", "null",
    "package", "private", "protected", "public", "return", "super", "switch", "this", "throw",
    "true", "try", "typeof", "var", "void", "while", "with", "yield"]

/-- A word that is no name. -/
def isReserved (word : String) : Bool := reservedWords.contains word

/-- Words that no variable of strict code may have. -/
def strictWords : List String :=
  ["enum", "implements", "interface", "let", "package", "private", "protected", "public",
    "static", "yield"]

/-- Words that are keywords wherever a name is read. -/
def keywords : List String :=
  reservedWords.filter fun word =>
    word ∉ ["enum", "implements", "interface", "package", "private", "protected", "public"]

namespace Token

/-- A word that may name something. -/
def isName : Token → Bool
  | word text => !isReserved text
  | escapedWord _ => true
  | _ => false

/-- A word of any kind. -/
def isWord (token : Token) : Bool := token.wordText?.isSome

end Token

end SchemaGuards.Syntax
