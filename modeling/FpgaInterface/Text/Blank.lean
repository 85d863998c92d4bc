/-!
# Blank characters

* `isBlank`: the white space of a text, Unicode's included;
* `trimStart`, `trimEnd`, `trim`: a text without the blanks at its ends.

The zero-width space and the byte order mark are no blanks; the four ASCII separators are.
-/

namespace FpgaInterface.Text

/-- White space: the ASCII controls from tab to carriage return, the ASCII separators, the space,
the next-line control and Unicode's space, line and paragraph separators. -/
def isBlank (c : Char) : Bool :=
  let n := c.toNat
  (0x09 ≤ n && n ≤ 0x0d) || (0x1c ≤ n && n ≤ 0x20) || n == 0x85 || n == 0xa0 || n == 0x1680 ||
    (0x2000 ≤ n && n ≤ 0x200a) || n == 0x2028 || n == 0x2029 || n == 0x202f || n == 0x205f ||
    n == 0x3000

def trimStart (cs : List Char) : List Char := cs.dropWhile isBlank

def trimEnd (cs : List Char) : List Char := (cs.reverse.dropWhile isBlank).reverse

def trim (cs : List Char) : List Char := trimEnd (trimStart cs)

end FpgaInterface.Text
