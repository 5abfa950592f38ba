import ScopeHoist.Config.File
import ScopeHoist.FileTree
import ScopeHoist.Text.Shown

/-!
# Loading settings

Settings come in layers: the standard ones, the user's file, the file of the project or another
one named in its place, and flags in the environment. Each goes on top of those before.
-/

set_option autoImplicit false

namespace ScopeHoist

inductive SettingsError where
  | unreadable (path : Path) (problem : PathProblem)
  | invalidFile (path : Path)
  | invalidText
  | invalidFlag (name value : String)
  deriving DecidableEq, Repr

def SettingsError.message : SettingsError → String
  | .unreadable path _ => "Failed to read config file " ++ path
  | .invalidFile path => "Invalid config file " ++ path
  | .invalidText => "Invalid rebundle config"
  | .invalidFlag name value => "Invalid value for " ++ name ++ ": " ++ shown value

/-- What lies behind an error, outermost first. -/
def SettingsError.causes : SettingsError → List String
  | .unreadable _ problem => [problem.message]
  | _ => []

def flagOf? (word : String) : Option Bool :=
  if ["1", "true", "yes", "on"].contains word then some true
  else if ["0", "false", "no", "off"].contains word then some false
  else none

/-- A flag from the environment, surrounding blanks and case aside. -/
def environmentFlag (name : String) (value : Option String) :
    Except SettingsError (Option Bool) :=
  match value with
  | none => .ok none
  | some text =>
    let word := String.ofList ((trimmed text.toList).map Char.toLower)
    match flagOf? word with
    | some on => .ok (some on)
    | none => .error (.invalidFlag name word)

structure Environment where
  minify : Option String
  treeshake : Option String

def Environment.layer (environment : Environment) : Except SettingsError Layer := do
  let minify ← environmentFlag "REBUNDLE_MINIFY" environment.minify
  let treeshake ← environmentFlag "REBUNDLE_TREESHAKE" environment.treeshake
  return { Layer.empty with minify, treeshake }

def fileLayer (path : Path) (text : Except PathProblem String) : Except SettingsError Layer :=
  match text with
  | .error problem => .error (.unreadable path problem)
  | .ok text =>
    match Layer.ofText? text with
    | some layer => .ok layer
    | none => .error (.invalidFile path)

def projectFile : Path := "rebundle.toml"

/-- The layer of the file named in place of the project's, or of the project's if there is one. -/
def projectLayer (tree : FileTree) (named : Option Path) : Except SettingsError Layer :=
  match named with
  | some path => fileLayer path (tree.read path)
  | none =>
    if tree.isFile projectFile then fileLayer projectFile (tree.read projectFile)
    else .ok .empty

def userLayer (tree : FileTree) (path : Option Path) : Except SettingsError Layer :=
  match path with
  | some path => if tree.isFile path then fileLayer path (tree.read path) else .ok .empty
  | none => .ok .empty

/-- The settings that all layers make together. -/
def Settings.load (tree : FileTree) (userFile named : Option Path) (environment : Environment) :
    Except SettingsError Settings := do
  let user ← userLayer tree userFile
  let project ← projectLayer tree named
  let flags ← environment.layer
  return ((Settings.standard.overlay user).overlay project).overlay flags

def Settings.ofText (text : String) : Except SettingsError Settings :=
  match Layer.ofText? text with
  | some layer => .ok (Settings.standard.overlay layer)
  | none => .error .invalidText

end ScopeHoist
