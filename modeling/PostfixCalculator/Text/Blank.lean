import PostfixCalculator.Text.Range

/-!
# Blank characters

The characters that separate pieces of text: the spaces, tabs and line ends of
every script, and the four information separators U+001C to U+001F.
-/
namespace PostfixCalculator.Text

def blankTable : RangeTable := [
    (0x9, 0xD), (0x1C, 0x20), (0x85, 0x85), (0xA0, 0xA0), (0x1680, 0x1680),
    (0x2000, 0x200A), (0x2028, 0x2029), (0x202F, 0x202F), (0x205F, 0x205F), (0x3000, 0x3000)]

def isBlank (c : Char) : Bool := blankTable.has c

/-- Removes blank characters at the front. -/
def dropBlank (text : List Char) : List Char := text.dropWhile isBlank

/-- Removes blank characters at both ends. -/
def trimBlank (text : List Char) : List Char :=
  (dropBlank (dropBlank text).reverse).reverse

/-- The blanks of the first 128 code points that a number may be wrapped in. -/
def isAsciiBlank (c : Char) : Bool := c == ' ' || (9 ≤ c.toNat && c.toNat ≤ 13)

end PostfixCalculator.Text
