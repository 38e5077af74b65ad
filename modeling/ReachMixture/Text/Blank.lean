/-!
# Blanks

The characters that count as white space in every script, and texts without them
at their ends.
-/

namespace ReachMixture.Text

/-- White space: tabs and line breaks, the space, and the wide, narrow and
unbreakable spaces of other scripts. -/
def isBlank (c : Char) : Bool :=
  let n := c.toNat
  (9 ≤ n && n ≤ 13) || n == 0x20 || n == 0x85 || n == 0xA0 || n ==
    0x1680 || (0x2000 ≤ n && n ≤ 0x200A)
    || n == 0x2028 || n == 0x2029 || n == 0x202F || n == 0x205F || n == 0x3000

/-- `s` without the blanks in front. -/
def trimStart (s : List Char) : List Char := s.dropWhile isBlank

/-- `s` without the blanks behind. -/
def trimEnd (s : List Char) : List Char := (s.reverse.dropWhile isBlank).reverse

/-- `s` without the blanks at both ends. -/
def trim (s : List Char) : List Char := trimEnd (trimStart s)

end ReachMixture.Text
