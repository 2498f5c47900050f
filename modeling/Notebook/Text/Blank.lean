/-!
# White space

`isBlank` is the property of characters that separates words and is trimmed off the edges of a
text: the twenty-five characters of `White_Space`. Zero-width characters such as U+200B and
U+FEFF are not among them.
-/

namespace Notebook

/-- Tab to carriage return, space, the two Latin-1 controls and spaces, and the typographic
spaces and separators. -/
def isBlank (c : Char) : Bool :=
  let n := c.toNat
  (9 ≤ n && n ≤ 13) || n == 0x20 || n == 0x85 || n == 0xA0 || n == 0x1680 ||
    (0x2000 ≤ n && n ≤ 0x200A) || n == 0x2028 || n == 0x2029 || n == 0x202F || n == 0x205F ||
    n == 0x3000

/-- White space inside a line: everything blank but the two line-break characters. -/
def isInlineBlank (c : Char) : Bool :=
  isBlank c && c != '\n' && c != '\r'

end Notebook
