import Checksum.Text.Ranges

/-!
# White space

The 25 characters with the Unicode property White_Space, and the removal of them from both ends of a
text. A zero-width space or a byte order mark is not among them.
-/

namespace Checksum.Text

def whiteSpace : Ranges :=
  [(0x9, 0xd), (0x20, 0x20), (0x85, 0x85), (0xa0, 0xa0), (0x1680, 0x1680), (0x2000, 0x200a),
    (0x2028, 0x2029), (0x202f, 0x202f), (0x205f, 0x205f), (0x3000, 0x3000)]

def isBlank (c : Char) : Bool := whiteSpace.has c

/-- Drops the blanks in front of the first and behind the last other character. -/
def trim (cs : List Char) : List Char :=
  (((cs.dropWhile isBlank).reverse).dropWhile isBlank).reverse

end Checksum.Text
