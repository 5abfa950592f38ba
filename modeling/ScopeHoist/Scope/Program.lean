import ScopeHoist.Scope.Resolve

/-!
# Resolving programs

The scopes of a whole module. Imports and exported declarations declare at the top level, and the
names in a list of exports are looked up there; names exported from another module mean nothing
here.
-/

set_option autoImplicit false

namespace ScopeHoist

namespace Hoisting

def settleIdent (name : Tree) : Hoisting Unit :=
  match name with
  | .ident id => Resolving.settle id
  | _ => return

def earlyItem : Item → Hoisting Unit
  | .statement tree => early false tree
  | .exportDecl decl _ => early false decl
  | _ => return

def lateItem : Item → Hoisting Unit
  | .statement tree => late false tree
  | .exportDecl decl _ => late false decl
  | .importFrom specifiers _ _ => specifiers.forM fun specifier => Resolving.settle specifier.target
  | .exportDefaultDecl (.node _ _ (name :: _)) _ => settleIdent name
  | _ => return

end Hoisting

namespace Resolving

def hoistItems (items : List Item) : Resolving Unit := do
  let action : Hoisting Unit := do
    items.forM Hoisting.earlyItem
    items.forM Hoisting.lateItem
  let _ ← action.run .none

def resolveImport : ImportSpecifier → Resolving ImportSpecifier
  | .default target span => return .default (← bind target) span
  | .aggregate target span => return .aggregate (← bind target) span
  | .named target imported span => return .named (← bind target) imported span

def referOuter : OuterName → Resolving OuterName
  | .ident id => return .ident (← refer id)
  | .text quotation => return .text quotation

def resolveExport : ExportSpecifier → Resolving ExportSpecifier
  | .aggregate exported span => return .aggregate exported span
  | .named origin exported span => do
    let origin ← referOuter origin
    match exported with
    | some name => return .named origin (some (← referOuter name)) span
    | none => return .named origin none span

/-- A function or class that is the default export. Its name is declared around it, and a class is
no scope of its own. -/
def resolveDefault : Tree → Resolving Tree
  | .node (.function kind) span [name, parameters, body] => do
    let name ← declares (scopePart name)
    let rest ← inFrame true (resolveFunction (scopePart parameters) (scopePart body))
    return .node (.function kind) span (name :: rest)
  | .node .classExpr span (name :: rest) => do
    let name ← declares (scopePart name)
    return .node .classExpr span (name :: (← resolveAll .refers (scopeParts rest)))
  | tree => resolveTree tree

def resolveItem : Item → Resolving Item
  | .statement tree => return .statement (← resolveTree tree)
  | .importFrom specifiers source span =>
    return .importFrom (← specifiers.mapM resolveImport) source span
  | .exportDecl decl span => return .exportDecl (← resolveTree decl) span
  | .exportList specifiers span => return .exportList (← specifiers.mapM resolveExport) span
  | .exportDefaultDecl decl span => return .exportDefaultDecl (← resolveDefault decl) span
  | .exportDefault value span => return .exportDefault (← resolveTree value) span
  | item => return item

def resolveItems (items : List Item) : Resolving (List Item) := do
  hoistItems items
  items.mapM resolveItem

end Resolving

/-- A program with a scope for every identifier. -/
def Program.resolve (program : Program) : Program :=
  { program with items := ((Resolving.resolveItems program.items).run .ofModule).1 }

end ScopeHoist
