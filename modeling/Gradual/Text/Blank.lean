/-! Blank characters: the white space of Unicode together with the four information separators. -/
namespace Gradual.Text

def isBlank (c : Char) : Bool :=
  let n := c.toNat
  (0x9 ≤ n && n ≤ 0xd) || (0x1c ≤ n && n ≤ 0x20) || n == 0x85 || n == 0xa0 || n == 0x1680 ||
    (0x2000 ≤ n && n ≤ 0x200a) || n == 0x2028 || n == 0x2029 || n == 0x202f || n == 0x205f ||
    n == 0x3000

def stripStart (text : List Char) : List Char := text.dropWhile isBlank

def stripEnd (text : List Char) : List Char := (text.reverse.dropWhile isBlank).reverse

/-- The text without the blanks at both its ends. -/
def strip (text : List Char) : List Char := stripEnd (stripStart text)

end Gradual.Text
