import FixtureProbe.Text.CharRange

/-!
# White space

The characters that are blank in every script, and texts without blanks around them.
-/

namespace FixtureProbe

def spaces : CharRanges :=
  [(0x9, 0xD), (0x20, 0x20), (0x85, 0x85), (0xA0, 0xA0), (0x1680, 0x1680), (0x2000, 0x200A),
   (0x2028, 0x2029), (0x202F, 0x202F), (0x205F, 0x205F), (0x3000, 0x3000)]

def isSpace (c : Char) : Bool :=
  spaces.holds c

def trimmed (text : List Char) : List Char :=
  ((text.dropWhile isSpace).reverse.dropWhile isSpace).reverse

end FixtureProbe
