import ScopeHoist.FileTree
import ScopeHoist.Report.Error
import ScopeHoist.Report.Journal

/-!
# Specifiers

A specifier that starts with a dot or a slash names a file as seen from the importing module;
any other names an external package. The file may be written without its extension.
-/

set_option autoImplicit false

namespace ScopeHoist

inductive SpecifierKind where
  | relative
  | bare
  deriving DecidableEq, Repr

def specifierKind (specifier : String) : SpecifierKind :=
  match specifier.toList with
  | '.' :: _ => .relative
  | '/' :: _ => .relative
  | _ => .bare

/-- The canonical path of a path; one that has none stays as it is. -/
def canonicalOr (tree : FileTree) (path : Path) (journal : Journal) : Path × Journal :=
  match tree.canonical path with
  | .ok canonical => (canonical, journal)
  | .error problem =>
    (path, journal.add .warn ("Failed to canonicalize path " ++ path ++ ": " ++ problem.message))

def writtenPath (importer : Path) (specifier : String) : Path :=
  Path.join ((Path.parent importer).getD "") specifier

/-- The paths a specifier may mean, each with what was appended to it. -/
def candidatePaths (importer : Path) (specifier : String) (extensions : List String) :
    List (Path × Option String) :=
  let path := writtenPath importer specifier
  (path, none) :: extensions.map fun extension => (path ++ extension, some extension)

def resolutionRemark (specifier : String) (path : Path) : Option String → String
  | none => "Resolved " ++ specifier ++ " to " ++ path
  | some extension =>
    "Resolved " ++ specifier ++ " to " ++ path ++ " by appending " ++ extension

/-- The first of the paths a specifier may mean that is a file. -/
def resolveSpecifier (tree : FileTree) (extensions : List String) (importer : Path)
    (specifier : String) (journal : Journal) : Except BundleError Path × Journal :=
  match (candidatePaths importer specifier extensions).find? fun found => tree.isFile found.1 with
  | some (path, extension) =>
    let journal := journal.add .trace (resolutionRemark specifier path extension)
    let (path, journal) := canonicalOr tree path journal
    (.ok path, journal)
  | none => (.error (.moduleNotFound importer specifier), journal)

end ScopeHoist
