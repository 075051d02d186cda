import Provision.Text.CharRanges

/-!
# Blank characters

The property White_Space of the Unicode standard, and the removal of such characters at both
ends of a text.
-/

namespace Provision.Unicode

/-- The ranges of the property White_Space. -/
def blankRanges : CharRanges :=
  [ (0x9, 0xD), (0x20, 0x20), (0x85, 0x85), (0xA0, 0xA0), (0x1680, 0x1680), (0x2000, 0x200A),
    (0x2028, 0x2029), (0x202F, 0x202F), (0x205F, 0x205F), (0x3000, 0x3000)]

/-- The character is white space. -/
def isBlank (c : Char) : Bool :=
  blankRanges.contains c

/-- The text without the blank characters at its ends. -/
def trim (s : List Char) : List Char :=
  ((s.dropWhile isBlank).reverse.dropWhile isBlank).reverse

end Provision.Unicode
