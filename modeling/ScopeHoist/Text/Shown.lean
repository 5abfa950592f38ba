import ScopeHoist.Text.Blank
import ScopeHoist.Text.Columns

/-!
# Shown text

How a message shows a value: between quotes, on one line, every character visible.
-/

set_option autoImplicit false

namespace ScopeHoist

/-- A character that a quoted value shows as its code point. -/
def isHidden (c : Char) : Bool :=
  let n := c.toNat
  n < 32 || n == 127 || (n > 127 && (columnsOf c == 0 || isWhiteSpace c
    || (0xe000 ≤ n && n ≤ 0xf8ff) || n ≥ 0xf0000))

def shownChar (quote c : Char) : List Char :=
  if c == quote || c == '\\' then ['\\', c]
  else if c == '\n' then ['\\', 'n']
  else if c == '\r' then ['\\', 'r']
  else if c == '\t' then ['\\', 't']
  else if c == '\x00' then ['\\', '0']
  else if isHidden c then "\\u\x7b".toList ++ Nat.toDigits 16 c.toNat ++ ['\x7d']
  else [c]

/-- A value in double quotes on one line. -/
def shown (value : String) : String :=
  String.ofList ('"' :: value.toList.flatMap (shownChar '"') ++ ['"'])

end ScopeHoist
