import ScopeHoist.Tree.Basic

/-!
# Renaming

Identifiers get new names by identity, so that one spelling in two scopes may become two. A
shorthand property whose identifier changes is written out, because its key must not change.
Imports and lists of exports stay as they are.
-/

set_option autoImplicit false

namespace ScopeHoist

/-- New names by identity. -/
abbrev Renames := List (Identity × String)

/-- The new name of an identifier, if it gets another one. -/
def newName? (renames : Renames) (id : Ident) : Option String :=
  ((renames.find? fun rename => rename.1 == id.identity).map Prod.snd).filter (· != id.name)

def Ident.rename (renames : Renames) (id : Ident) : Ident :=
  { id with name := (newName? renames id).getD id.name }

/-- A property of a renamed identifier with its old name as the key. -/
def expanded (id : Ident) (span : Span) (value : Tree) : Tree :=
  .node .property span [.node (.name id.name) id.span [], value]

/-- A shorthand property with the new identifier, given the old one and the new default. -/
def renameShorthand (renames : Renames) (form : Form) (span : Span) (id : Ident)
    (values : List Tree) : Tree :=
  let renamed : Tree := .ident (id.rename renames)
  if (newName? renames id).isNone then .node form span (renamed :: values)
  else
    match form, values with
    | .shorthand, [] => expanded id span renamed
    | .shorthandPattern, [value] =>
      if value.isAbsent then expanded id span renamed
      else expanded id span (.node .defaulted span [renamed, value])
    | form, values => .node form span (renamed :: values)

mutual
def Tree.rename (renames : Renames) : Tree → Tree
  | .ident id => .ident (id.rename renames)
  | .node .shorthand span (.ident id :: values) =>
    renameShorthand renames .shorthand span id (renameList renames values)
  | .node .shorthandPattern span (.ident id :: values) =>
    renameShorthand renames .shorthandPattern span id (renameList renames values)
  | .node form span children => .node form span (renameList renames children)

def renameList (renames : Renames) : List Tree → List Tree
  | [] => []
  | tree :: rest => tree.rename renames :: renameList renames rest
end

def Item.rename (renames : Renames) : Item → Item
  | .statement tree => .statement (tree.rename renames)
  | .exportDecl decl span => .exportDecl (decl.rename renames) span
  | .exportDefaultDecl decl span => .exportDefaultDecl (decl.rename renames) span
  | .exportDefault value span => .exportDefault (value.rename renames) span
  | item => item

def Program.rename (renames : Renames) (program : Program) : Program :=
  { program with items := program.items.map (Item.rename renames) }

end ScopeHoist
