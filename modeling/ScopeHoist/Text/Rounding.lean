/-!
# Rounding

Division to the nearest whole number, and powers of the two bases that numbers are written in.
-/

set_option autoImplicit false

namespace ScopeHoist

/-- The nearest whole number to a ratio, a half going to the even one. -/
def divideEven (num den : Nat) : Nat :=
  let whole := num / den
  let rest := num % den
  if 2 * rest > den || (2 * rest == den && whole % 2 == 1) then whole + 1 else whole

def powerOfTwo (exponent : Nat) : Nat := Nat.pow 2 exponent

def powerOfTen (exponent : Nat) : Nat := Nat.pow 10 exponent

end ScopeHoist
