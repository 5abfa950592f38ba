import ScopeHoist.Text.Rounding

/-!
# Run statistics

Counts of one run, and its duration in nanoseconds. A duration is told in the largest unit that
it reaches, with two decimals; an exact half goes to the even neighbour, and rounding up never
moves on to the next unit.
-/

set_option autoImplicit false

namespace ScopeHoist

structure Stats where
  inputSize : Nat
  outputSize : Nat
  moduleCount : Nat
  externalCount : Nat
  minify : Bool
  treeshake : Bool
  deriving DecidableEq, Repr

/-- A number of hundredths, with two decimals. -/
def hundredths (n : Nat) : String :=
  toString (n / 100) ++ "." ++ (if n % 100 < 10 then "0" else "") ++ toString (n % 100)

def durationText (nanoseconds : Nat) : String :=
  if nanoseconds ≥ 1000000000 then hundredths (divideEven nanoseconds 10000000) ++ "s"
  else if nanoseconds ≥ 1000000 then hundredths (divideEven nanoseconds 10000) ++ "ms"
  else if nanoseconds ≥ 1000 then hundredths (divideEven nanoseconds 10) ++ "µs"
  else hundredths (100 * nanoseconds) ++ "ns"

def Stats.lines (stats : Stats) : List String := [
  "Modules:     " ++ toString stats.moduleCount,
  "Externals:   " ++ toString stats.externalCount,
  "Input size:  " ++ toString stats.inputSize ++ " bytes",
  "Output size: " ++ toString stats.outputSize ++ " bytes",
  "Minify:      " ++ toString stats.minify,
  "Treeshake:   " ++ toString stats.treeshake]

def Stats.text (stats : Stats) (nanoseconds : Nat) : String :=
  "\n".intercalate (stats.lines ++ ["Duration:    " ++ durationText nanoseconds])

end ScopeHoist
