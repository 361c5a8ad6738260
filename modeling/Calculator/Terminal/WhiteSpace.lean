/-!
# White space of all scripts

The characters that stand between words, in whatever script: blanks of any width, and the ends of
lines and paragraphs.
-/

set_option autoImplicit false

namespace Calculator.Terminal

/-- The characters with the white-space property. -/
def isWhiteSpace (c : Char) : Bool :=
  (9 ≤ c.toNat && c.toNat ≤ 13) || (0x2000 ≤ c.toNat && c.toNat ≤ 0x200a) ||
    [0x20, 0x85, 0xa0, 0x1680, 0x2028, 0x2029, 0x202f, 0x205f, 0x3000].contains c.toNat

/-- White space, or one of the four separators among the control characters. -/
def isSpacing (c : Char) : Bool :=
  isWhiteSpace c || (0x1c ≤ c.toNat && c.toNat ≤ 0x1f)

/-- A text without the white space at both ends. -/
def trimWhiteSpace (text : List Char) : List Char :=
  ((text.dropWhile isWhiteSpace).reverse.dropWhile isWhiteSpace).reverse

end Calculator.Terminal
