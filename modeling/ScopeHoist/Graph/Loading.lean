import ScopeHoist.Graph.Interface
import ScopeHoist.Graph.Specifier
import ScopeHoist.Parse.Program
import ScopeHoist.Scope.Program

/-!
# Loading modules

A walk down from the entry. Everything a module depends on is stored before the module itself gets
its interface and is stored. A file is loaded once, whatever it is called in the sources; a file
that is still under way when it is asked for closes a circle. Modules stored before a failure stay.
-/

set_option autoImplicit false

namespace ScopeHoist

/-- The specifiers of a program, each once, in the order of the source. -/
def Program.specifiers (program : Program) : List String :=
  (program.items.filterMap fun item =>
    match item with
    | .importFrom _ source _ => some source.value
    | .exportFrom _ source _ => some source.value
    | .exportStar source _ => some source.value
    | _ => none).eraseDups

/-- A byte order mark in front of a text is no part of the program. -/
def withoutMark : List Char → List Char
  | '\ufeff' :: rest => rest
  | chars => chars

/-- Steps that change a session and may fail; the session then is as far as they came. -/
abbrev Building := ExceptT BundleError InSession

namespace Building

def readSource (tree : FileTree) (path : Path) : Building String :=
  match tree.read path with
  | .ok text => return text
  | .error problem => throw (.access path problem)

/-- Parses a source and gives its identifiers their scopes. The comments go to the others of the
session, and the next source gets other positions. -/
def parseSource (path : Path) (text : String) : Building Program := do
  let chars := withoutMark text.toList
  let offset := (← get).nextOffset
  match Program.ofText? offset chars with
  | .ok (program, comments) =>
    modify fun session => { session with
      comments := session.comments.append comments
      nextOffset := offset + chars.length + 1 }
    return program.resolve
  | .error problem => throw (.parse path (problem.message chars))

def resolveFile (tree : FileTree) (importer : Path) (specifier : String) : Building Path := do
  let session ← get
  let (resolved, journal) :=
    resolveSpecifier tree session.options.extensions importer specifier session.journal
  set { session with journal }
  match resolved with
  | .ok path => return path
  | .error error => throw error

/-- Stores a module whose dependencies are stored. -/
def finish (path : Path) (isEntry : Bool) (text : String) (program : Program)
    (dependencies : Table Target) : InSession ModuleId := do
  let id := (← get).modules.length
  dependencies.values.forM (InSession.addDependent id)
  let module ← InSession.complete
    { Module.blank with
      id, path, isEntry, program, dependencies, sourceSize := text.utf8ByteSize }
  modify fun session => session.store module
  return id

/-- Loads a file and everything that it depends on. The files under way are all different, so that
a depth of more than there are files is never used up. -/
def load (tree : FileTree) : Nat → List Path → Bool → Path → Building ModuleId
  | 0, underWay, _, path => throw (.circular (underWay ++ [path]))
  | depth + 1, underWay, isEntry, path => do
    match (← get).moduleAt? path with
    | some id =>
      InSession.note .trace ("Reusing " ++ path)
      return id
    | none =>
      if underWay.contains path then throw (.circular (underWay ++ [path]))
      InSession.note .trace ("Loading " ++ path)
      let text ← readSource tree path
      let program ← parseSource path text
      let dependencies ← program.specifiers.mapM fun specifier => do
        match specifierKind specifier with
        | .relative =>
          let file ← resolveFile tree path specifier
          return (specifier, Target.module (← load tree depth (underWay ++ [path]) false file))
        | .bare => return (specifier, Target.external (← InSession.intern specifier))
      finish path isEntry text program dependencies

/-- Loads an entry and everything that it depends on. -/
def build (tree : FileTree) (entry : Path) : Building ModuleId := do
  let session ← get
  let (path, journal) := canonicalOr tree entry session.journal
  set { session with journal }
  InSession.note .debug ("Building module graph from " ++ path)
  let id ← load tree (tree.entries.length + 2) [] true path
  let session ← get
  InSession.note .debug
    ("Module graph complete: " ++ toString session.modules.length ++ " modules, "
      ++ toString session.externals.length ++ " externals")
  return id

end Building

end ScopeHoist
