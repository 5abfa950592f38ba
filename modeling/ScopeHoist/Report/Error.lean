import ScopeHoist.FileTree

/-!
# Failures

What ends a bundle run, by cause, and how each cause is told.
-/

set_option autoImplicit false

namespace ScopeHoist

inductive BundleError where
  | parse (path : Path) (message : String)
  | moduleNotFound (importer : Path) (specifier : String)
  /-- The modules under way from the entry on, and last the one that closes the circle. -/
  | circular (chain : List Path)
  | access (path : Path) (problem : PathProblem)
  deriving DecidableEq, Repr

def BundleError.message : BundleError → String
  | .parse path message => "Failed to parse " ++ path ++ ": " ++ message
  | .moduleNotFound importer specifier =>
    "Could not resolve module " ++ specifier ++ " from " ++ importer
  | .circular chain => "Circular dependency detected: " ++ " -> ".intercalate chain
  | .access path problem => "Failed to access " ++ path ++ ": " ++ problem.message

end ScopeHoist
