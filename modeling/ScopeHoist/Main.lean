import ScopeHoist.CommandLine.Command

/-!
# Program

The command on real files. What the command may look at is first read into a file tree: a path is
looked at part by part, and every source names the next paths. The command itself runs on the tree.
-/

set_option autoImplicit false

namespace ScopeHoist

namespace FileTree

/-- The paths of a path's leading parts, the shortest first. -/
def leadingPaths (path : Path) : List Path :=
  let pieces := path.pieces
  ((List.range pieces.length).map fun n => "/".intercalate (pieces.take (n + 1))).filter
    fun part => !part.isEmpty

/-- Adds what is found at a path. -/
def look (tree : FileTree) (path : Path) : IO FileTree := do
  if (tree.lookup (tree.placeOf path)).isSome then return tree
  try
    return tree.addFile path (← IO.FS.readBinFile path)
  catch error =>
    match error with
    | .inappropriateType .. | .illegalOperation .. => return tree.addDirectory path
    | _ => return tree

def lookAlong (tree : FileTree) (path : Path) : IO FileTree :=
  (leadingPaths path).foldlM look tree

/-- Adds what is found at the paths that a specifier may mean, up to the first file. -/
def lookUntilFile (tree : FileTree) : List Path → IO FileTree
  | [] => return tree
  | path :: rest => do
    let tree ← tree.lookAlong path
    if tree.isFile path then return tree else tree.lookUntilFile rest

/-- The relative specifiers in a file. -/
def specifiersIn (tree : FileTree) (path : Path) : List String :=
  match tree.read path with
  | .ok text =>
    match Program.ofText? 1 (withoutMark text.toList) with
    | .ok (program, _) =>
      program.specifiers.filter fun specifier => specifierKind specifier == .relative
    | .error _ => []
  | .error _ => []

/-- Adds the files that the files at some paths depend on. -/
partial def lookThrough (tree : FileTree) (extensions : List String) (seen : List Path) :
    List Path → IO FileTree
  | [] => return tree
  | path :: rest => do
    match tree.canonical path with
    | .error _ => tree.lookThrough extensions seen rest
    | .ok path =>
      if seen.contains path then tree.lookThrough extensions seen rest
      else
        let candidates := (tree.specifiersIn path).map fun specifier =>
          (candidatePaths path specifier extensions).map Prod.fst
        let tree ← candidates.foldlM lookUntilFile tree
        tree.lookThrough extensions (path :: seen) (candidates.flatten ++ rest)

end FileTree

def readEnvironment : IO Environment :=
  return ⟨← IO.getEnv "REBUNDLE_MINIFY", ← IO.getEnv "REBUNDLE_TREESHAKE"⟩

def userFile? : IO (Option Path) := do
  let configured := (← IO.getEnv "XDG_CONFIG_HOME").filter Path.isAbsolute
  let fallback := (← IO.getEnv "HOME").map (Path.join · ".config")
  return (configured.or fallback).map (Path.join · "rebundle/rebundle.toml")

/-- The tree of everything that a command may look at. -/
def treeFor (userFile : Option Path) (environment : Environment) (arguments : Arguments) :
    IO FileTree := do
  let tree := FileTree.ofWorkingDir (← IO.currentDir).toString
  let configs := userFile.toList ++ [arguments.config.getD projectFile]
  let tree ← configs.foldlM FileTree.lookAlong tree
  match Settings.load tree userFile arguments.config environment with
  | .error _ => return tree
  | .ok settings =>
    let settings := arguments.overlay settings
    let ends := settings.entry.toList ++ settings.output.toList
    let tree ← ends.foldlM FileTree.lookAlong tree
    tree.lookThrough settings.options.extensions [] settings.entry.toList

/-- The file that a command writes, if it writes one. -/
def writtenFile? (tree : FileTree) (userFile : Option Path) (environment : Environment)
    (arguments : Arguments) : Option Path :=
  match Settings.load tree userFile arguments.config environment with
  | .ok settings => (arguments.overlay settings).output
  | .error _ => none

/-- Runs a command on real files, and writes its output file when it succeeds. -/
def runOnFiles (words : List String) : IO (Outcome × Nat) := do
  let start ← IO.monoNanosNow
  let environment ← readEnvironment
  let userFile ← userFile?
  let arguments :=
    match Request.ofArguments words with
    | .ok (.bundle arguments) => some arguments
    | _ => none
  match arguments with
  | none => return (runCommand (.ofWorkingDir "/") userFile environment words, 0)
  | some arguments =>
    let tree ← treeFor userFile environment arguments
    let outcome := runCommand tree userFile environment words
    if outcome.exitCode == 0 then
      match writtenFile? tree userFile environment arguments with
      | some path =>
        match outcome.tree.read path with
        | .ok code => IO.FS.writeFile path code
        | .error _ => pure ()
      | none => pure ()
    return (outcome, (← IO.monoNanosNow) - start)

end ScopeHoist

open ScopeHoist

def main (words : List String) : IO UInt32 := do
  let (outcome, nanoseconds) ← runOnFiles words
  let errors ← IO.getStderr
  outcome.remarkLines.forM fun line => errors.putStrLn line
  errors.putStr outcome.complaint
  let output ← IO.getStdout
  output.putStr outcome.output
  output.flush
  match outcome.stats with
  | some stats => errors.putStrLn (stats.text nanoseconds)
  | none => pure ()
  return UInt32.ofNat outcome.exitCode
