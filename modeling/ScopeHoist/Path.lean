import ScopeHoist.Name.Legal

/-!
# Paths

File paths as text, with `/` between the components. A trailing `/` or `/.` names the same place,
and so does a component `.` inside; `..` is kept, since what it means depends on the file tree.
-/

set_option autoImplicit false

namespace ScopeHoist

abbrev Path := String

namespace Path

def isAbsolute (path : Path) : Bool := path.toList.head? == some '/'

def splitChars : List Char → List (List Char)
  | [] => [[]]
  | '/' :: rest => [] :: splitChars rest
  | c :: rest =>
    match splitChars rest with
    | [] => [[c]]
    | part :: parts => (c :: part) :: parts

/-- The texts between the slashes, empty ones included. -/
def pieces (path : Path) : List String := (splitChars path.toList).map String.ofList

/-- The text in front of the components: the root, or a leading `.` of a relative path. -/
def lead : List Char → List Char
  | '/' :: _ => ['/']
  | ['.'] => ['.']
  | '.' :: '/' :: _ => ['.']
  | _ => []

/-- Takes the last component off a reversed text of components: the component, and what stands
before it with its slash still there. -/
def splitLast (back : List Char) : List Char × List Char :=
  ((back.takeWhile (· != '/')).reverse, (back.dropWhile (· != '/')))

/-- Drops empty and `.` components from the end of a reversed text. -/
def trimBack : List Char → List Char
  | '/' :: rest => trimBack rest
  | ['.'] => []
  | '.' :: '/' :: rest => trimBack rest
  | back => back

def body (path : Path) : List Char :=
  path.toList.drop (lead path.toList).length

/-- The components after the lead, reversed as text, without empty and `.` ones at the end. -/
def trimmedBack (path : Path) : List Char := trimBack (body path).reverse

/-- The directory part, for a path that has a last component. -/
def parent (path : Path) : Option Path :=
  let front := lead path.toList
  match trimmedBack path with
  | [] => if front == ['.'] then some "" else none
  | back => some (String.ofList (front ++ (trimBack (splitLast back).2).reverse))

/-- The last component, unless it is `..`. -/
def fileName (path : Path) : Option String :=
  match trimmedBack path with
  | [] => none
  | back =>
    let name := String.ofList (splitLast back).1
    if name == ".." then none else some name

/-- The last component without its extension; a name whose only dot is the first is all stem. -/
def fileStem (path : Path) : Option String :=
  (fileName path).map fun name =>
    match name.toList.reverse.dropWhile (· != '.') with
    | '.' :: before => if before.isEmpty then name else String.ofList before.reverse
    | _ => name

/-- A path seen from a directory: an absolute one stands for itself. -/
def join (dir path : Path) : Path :=
  if isAbsolute path then path
  else if dir.isEmpty || dir.toList.getLast? == some '/' then dir ++ path
  else dir ++ "/" ++ path

/-- The name a module gives to its own default value and namespace object. -/
def identifierName (path : Path) : String := legalName ((fileStem path).getD "")

end Path

end ScopeHoist
