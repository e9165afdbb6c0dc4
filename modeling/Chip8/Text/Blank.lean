/-! # Blanks around numbers

The characters that may surround a number in a text: the blanks of ASCII that move the print
position, and the white space of Unicode outside ASCII.
-/

namespace Chip8.Text

/-- Whether a character may stand before or behind a number. -/
def isBlank (c : Char) : Bool :=
  let n := c.toNat
  n == 0x20 || (0x09 ≤ n && n ≤ 0x0D) || n == 0x85 || n == 0xA0 || n == 0x1680
    || (0x2000 ≤ n && n ≤ 0x200A) || n == 0x2028 || n == 0x2029 || n == 0x202F || n == 0x205F
    || n == 0x3000

def trimBlanks (cs : List Char) : List Char :=
  ((cs.dropWhile isBlank).reverse.dropWhile isBlank).reverse

end Chip8.Text
