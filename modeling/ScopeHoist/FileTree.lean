import ScopeHoist.Path

/-!
# File trees

Directories and files below one root, with a working directory. A path is looked up component by
component: what stands before a slash has to be a directory that exists, also in front of `.` and
`..`. Each place has one canonical path.
-/

set_option autoImplicit false

namespace ScopeHoist

/-- Components from the root. -/
abbrev Place := List String

inductive Entry where
  | directory
  | file (bytes : ByteArray)

/-- Why a path could not be read or written. -/
inductive PathProblem where
  | notFound
  | notADirectory
  | isADirectory
  | notText
  deriving DecidableEq, Repr

def PathProblem.message : PathProblem → String
  | .notFound => "No such file or directory (os error 2)"
  | .notADirectory => "Not a directory (os error 20)"
  | .isADirectory => "Is a directory (os error 21)"
  | .notText => "stream did not contain valid UTF-8"

structure FileTree where
  entries : List (Place × Entry)
  workingDir : Place

namespace FileTree

def lookup (tree : FileTree) (place : Place) : Option Entry :=
  if place.isEmpty then some .directory else tree.entries.lookup place

def isDirectory (tree : FileTree) (place : Place) : Bool :=
  match tree.lookup place with
  | some .directory => true
  | _ => false

def walk (tree : FileTree) (place : Place) : List String → Except PathProblem Place
  | [] => .ok place
  | name :: rest =>
    if !tree.isDirectory place then .error .notADirectory
    else if name == "" || name == "." then tree.walk place rest
    else if name == ".." then tree.walk place.dropLast rest
    else
      match tree.lookup (place ++ [name]) with
      | none => .error .notFound
      | some _ => tree.walk (place ++ [name]) rest

def start (tree : FileTree) (path : Path) : Place :=
  if path.isAbsolute then [] else tree.workingDir

def find (tree : FileTree) (path : Path) : Except PathProblem Place :=
  if path.isEmpty then .error .notFound else tree.walk (tree.start path) path.pieces

def isFile (tree : FileTree) (path : Path) : Bool :=
  match tree.find path with
  | .ok place => (tree.lookup place).isSome && !tree.isDirectory place
  | .error _ => false

def pathOf (place : Place) : Path := "/" ++ "/".intercalate place

def canonical (tree : FileTree) (path : Path) : Except PathProblem Path :=
  (tree.find path).map pathOf

def read (tree : FileTree) (path : Path) : Except PathProblem String := do
  match tree.lookup (← tree.find path) with
  | some (.file bytes) =>
    match String.fromUTF8? bytes with
    | some text => .ok text
    | none => .error .notText
  | some .directory => .error .isADirectory
  | none => .error .notFound

def set (tree : FileTree) (place : Place) (entry : Entry) : FileTree :=
  { tree with entries := (place, entry) :: tree.entries.filter (·.1 != place) }

/-- Where a file of this path would be written: its directory has to exist, and it must not be
named as a directory. -/
def target (tree : FileTree) (path : Path) : Except PathProblem Place :=
  if path.isEmpty then .error .notFound
  else
    let back := path.pieces.reverse
    match back.dropWhile (· == "") with
    | [] => .error .isADirectory
    | name :: before => do
      let dir ← tree.walk (tree.start path) before.reverse
      if !tree.isDirectory dir then .error .notADirectory
      else if name == "." || name == ".." || back.head? == some "" then .error .isADirectory
      else if tree.isDirectory (dir ++ [name]) then .error .isADirectory
      else .ok (dir ++ [name])

def write (tree : FileTree) (path : Path) (text : String) : Except PathProblem FileTree :=
  (tree.target path).map fun place => tree.set place (.file text.toUTF8)

/-- The place a path names when nothing has to exist. -/
def placeOf (tree : FileTree) (path : Path) : Place :=
  path.pieces.foldl
    (fun place name =>
      if name == "" || name == "." then place
      else if name == ".." then place.dropLast
      else place ++ [name])
    (tree.start path)

def addDirectories (tree : FileTree) (above : Place) : Place → FileTree
  | [] => tree
  | name :: rest =>
    let place := above ++ [name]
    (if (tree.lookup place).isNone then tree.set place .directory else tree).addDirectories place
      rest

def addDirectory (tree : FileTree) (path : Path) : FileTree :=
  tree.addDirectories [] (tree.placeOf path)

/-- A file together with the directories above it. -/
def addFile (tree : FileTree) (path : Path) (bytes : ByteArray) : FileTree :=
  let place := tree.placeOf path
  (tree.addDirectories [] place.dropLast).set place (.file bytes)

/-- The tree that holds only its working directory. -/
def ofWorkingDir (path : Path) : FileTree :=
  FileTree.addDirectory ⟨[], FileTree.placeOf ⟨[], []⟩ path⟩ "."

end FileTree

end ScopeHoist
