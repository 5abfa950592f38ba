import ScopeHoist.Link.Aggregate
import ScopeHoist.Link.Spelling

/-!
# Statements in the bundle

A module becomes part of the one program: its identifiers get their final spellings, imports and
export clauses go, and exported declarations become plain ones. A default value without a name is
declared under the name claimed for it. The module's namespace object follows what it is made of,
and the exports of an entry come last.
-/

set_option autoImplicit false

namespace ScopeHoist

/-- The declaration that a named function or class is. -/
def namedDeclaration? : Tree → Option Tree
  | .node (.function kind) span (.ident id :: rest) =>
    some (.node (.functionDecl kind) span (.ident id :: rest))
  | .node .classExpr span (.ident id :: rest) => some (.node .classDecl span (.ident id :: rest))
  | _ => none

/-- What an item is without module syntax, given the name of the unnamed default. -/
def Item.hoisted (unnamed : Option String) : Item → Option Item
  | .statement tree => some (.statement tree)
  | .exportDecl decl _ => some (.statement decl)
  | .exportDefaultDecl decl _ =>
    ((namedDeclaration? decl).or (unnamed.map (constDeclaration · decl))).map .statement
  | .exportDefault value _ => (unnamed.map (constDeclaration · value)).map .statement
  | _ => none

namespace Session

/-- The exports of an entry, and the externals that it exports whole. -/
def entryExports (session : Session) (module : Module) : List Item :=
  let entries := module.exports.filter fun entry => entry.1 != aggregateName
  (if entries.isEmpty then []
    else [exportItem (entries.map fun entry => (session.identifier entry.2, entry.1))])
    ++ module.stars.map fun star => exportStarItem star.specifier

/-- All new spellings in a module. -/
def renamesOf (session : Session) (module : Module) : Renames :=
  let renames := session.topLevelRenames module
  renames ++ nestedRenames module.program renames

/-- The statements of a module in the one program. -/
def hoistedStatements (session : Session) (module : Module) : List Item :=
  (module.program.rename (session.renamesOf module)).items.filterMap
    (Item.hoisted (module.unnamedDefault.map session.identifier))

/-- What a module adds to the one program. -/
def hoistedItems (session : Session) (module : Module) : List Item :=
  session.hoistedStatements module
    ++ (session.aggregateDeclaration? module).toList.map .statement
    ++ if module.isEntry then session.entryExports module else []

end Session

namespace InSession

def hoist (id : ModuleId) : InSession Unit := do
  let session ← get
  let module := session.module id
  let renames := session.topLevelRenames module
  (nestedRenames module.program renames).forM fun rename =>
    note .debug ("Renamed nested " ++ rename.1.name ++ " in " ++ module.path ++ " to " ++ rename.2)
  note .debug
    ("Hoisted " ++ module.path ++ ": " ++ toString (session.hoistedStatements module).length
      ++ " of " ++ toString module.program.items.length ++ " top-level items kept")
  modify fun session => session.setModule id fun module =>
    { module with program := { module.program with items := session.hoistedItems module } }

end InSession

end ScopeHoist
