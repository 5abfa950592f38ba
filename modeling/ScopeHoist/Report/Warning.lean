import ScopeHoist.Path

/-!
# Warnings

Findings that do not end a run.
-/

set_option autoImplicit false

namespace ScopeHoist

inductive Warning where
  /-- More than one `export *` of an external could supply the name; one was chosen. -/
  | ambiguousStar (path : Path) (name : String) (sources : List String) (chosen : String)
  /-- An import asked for a name that its source does not export. -/
  | missingExport (importer : Path) (specifier name : String)
  deriving DecidableEq, Repr

def inDoubleQuotes (text : String) : String := "\"" ++ text ++ "\""

def Warning.message : Warning → String
  | .ambiguousStar path name sources chosen =>
    "Ambiguous external star export: " ++ inDoubleQuotes name ++ " in " ++ path
      ++ " could come from " ++ ", ".intercalate (sources.map inDoubleQuotes)
      ++ "; using " ++ inDoubleQuotes chosen
  | .missingExport importer specifier name =>
    inDoubleQuotes name ++ " is not exported by " ++ specifier ++ ", imported by " ++ importer

end ScopeHoist
