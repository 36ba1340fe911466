import SchemaGuards.Text.CodeRange

/-!
# Blank characters

The characters with the Unicode property `White_Space`. Numbers in checked documents
may be padded with them, and declarations may be laid out with them.
-/

namespace SchemaGuards.Text

/-- The ranges of the Unicode property `White_Space`. -/
def blankRanges : CodeRanges :=
  [(0x9, 0xd), (0x20, 0x20), (0x85, 0x85), (0xa0, 0xa0), (0x1680, 0x1680), (0x2000, 0x200a),
  (0x2028, 0x2029), (0x202f, 0x202f), (0x205f, 0x205f), (0x3000, 0x3000)]

/-- A character with the Unicode property `White_Space`. -/
def isBlank (c : Char) : Bool := blankRanges.holds c

end SchemaGuards.Text
