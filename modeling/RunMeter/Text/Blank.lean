/-!
# White space

The white space of text is the Unicode property of that name, which is wider than the ASCII blanks:
it holds the no-break spaces, the typographic spaces and the line and paragraph separators. The file
holds the property and the trimming that goes with it.
-/

set_option autoImplicit false

namespace RunMeter.Text

/-- The Unicode property White_Space. -/
def isBlank (c : Char) : Bool :=
  let n := c.toNat
  (0x09 ≤ n && n ≤ 0x0d) || n == 0x20 || n == 0x85 || n == 0xa0 || n == 0x1680 ||
    (0x2000 ≤ n && n ≤ 0x200a) || n == 0x2028 || n == 0x2029 || n == 0x202f || n == 0x205f ||
    n == 0x3000

/-- The text without the white space at its end. -/
def trimEnd (text : List Char) : List Char := (text.reverse.dropWhile isBlank).reverse

/-- The text without the white space at either end. -/
def trim (text : List Char) : List Char := trimEnd (text.dropWhile isBlank)

end RunMeter.Text
