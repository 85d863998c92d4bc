/-!
# Lines of a text

* `isLineBreak`: the characters that end a line;
* `lines`: the lines of a text, without their ends.

A carriage return followed by a newline ends one line. The end of the text ends a line only if that
line holds a character: `"a\n"` and `"a"` are one line each, the empty text is none.
-/

namespace FpgaInterface.Text

/-- The characters that end a line: newline, carriage return, vertical tab, form feed, the file,
group and record separators, the next-line control and Unicode's line and paragraph separators. -/
def isLineBreak (c : Char) : Bool :=
  let n := c.toNat
  (0x0a ≤ n && n ≤ 0x0d) || (0x1c ≤ n && n ≤ 0x1e) || n == 0x85 || n == 0x2028 || n == 0x2029

/-- The lines of a text that follows the characters `line`, held in reverse. -/
def linesFrom (line : List Char) : List Char → List (List Char)
  | [] => if line.isEmpty then [] else [line.reverse]
  | '\r' :: '\n' :: rest => line.reverse :: linesFrom [] rest
  | c :: rest =>
    if isLineBreak c then line.reverse :: linesFrom [] rest else linesFrom (c :: line) rest

def lines (cs : List Char) : List (List Char) := linesFrom [] cs

example : lines "a\r\nb\x0bc".toList = ["a".toList, "b".toList, "c".toList] := by decide +kernel
example : lines "\n\n".toList = [[], []] := by decide +kernel

end FpgaInterface.Text
