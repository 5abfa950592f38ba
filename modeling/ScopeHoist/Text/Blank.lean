/-!
# Blanks

White space in the widest sense, and what of it ends a line of a source.
-/

set_option autoImplicit false

namespace ScopeHoist

def isLineEnd (c : Char) : Bool :=
  c == '\n' || c == '\r' || c.toNat == 0x2028 || c.toNat == 0x2029

def isWhiteSpace (c : Char) : Bool :=
  let n := c.toNat
  (9 ≤ n && n ≤ 13) || n == 32 || n == 0x85 || n == 0xa0 || n == 0x1680
    || (0x2000 ≤ n && n ≤ 0x200a) || n == 0x2028 || n == 0x2029 || n == 0x202f || n == 0x205f
    || n == 0x3000

/-- White space or a byte order mark, which a source may hold between tokens. -/
def isBlank (c : Char) : Bool := isWhiteSpace c || c.toNat == 0xfeff

def trimmed (chars : List Char) : List Char :=
  ((chars.dropWhile isWhiteSpace).reverse.dropWhile isWhiteSpace).reverse

end ScopeHoist
