import StructBuilder.Unicode.Ranges

/-!
White space in the sense of Unicode, which contains the blanks of ASCII, and the
slightly larger class that separates the tokens of a source text.
-/

namespace StructBuilder.Unicode

def whitespaceRanges : Ranges :=
  [
    (0x9, 0xd), (0x20, 0x20), (0x85, 0x85), (0xa0, 0xa0), (0x1680, 0x1680), (0x2000, 0x200a),
    (0x2028, 0x2029), (0x202f, 0x202f), (0x205f, 0x205f), (0x3000, 0x3000) ]

def isWhitespace (c : Char) : Bool :=
  whitespaceRanges.mem c.toNat

/-- The two direction marks separate tokens although they are not white space. -/
def isBlank (c : Char) : Bool :=
  isWhitespace c || c == '\u200e' || c == '\u200f'

end StructBuilder.Unicode
