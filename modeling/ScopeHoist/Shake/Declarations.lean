import ScopeHoist.Scope.Usage

/-!
# Idle declarations

Top-level declarations of names that are not used are taken out of a program. A declarator goes
when all names of its pattern do; one that still binds a used name stays whole.
-/

set_option autoImplicit false

namespace ScopeHoist

def declaratorIdentities : Tree → List Identity
  | .node .declarator _ (pattern :: _) => (patternIdents pattern).map Ident.identity
  | _ => []

def isIdle (unused : List Identity) (declarator : Tree) : Bool :=
  let declared := declaratorIdentities declarator
  !declared.isEmpty && declared.all unused.contains

/-- The name of a function or class, if it has one. -/
def soleIdentity? : Tree → Option Identity
  | .node (.functionDecl _) _ (.ident id :: _) => some id.identity
  | .node .classDecl _ (.ident id :: _) => some id.identity
  | .node (.function _) _ (.ident id :: _) => some id.identity
  | .node .classExpr _ (.ident id :: _) => some id.identity
  | _ => none

/-- The names whose declarations are taken out of a tree. -/
def Tree.idleIdentities (unused : List Identity) : Tree → List Identity
  | .node (.variableDecl _) _ declarators =>
    (declarators.filter (isIdle unused)).flatMap declaratorIdentities
  | tree => (soleIdentity? tree).toList.filter unused.contains

/-- Whether a tree is a function or class of a name that is not used. -/
def Tree.isIdleSole (unused : List Identity) (tree : Tree) : Bool :=
  (soleIdentity? tree).any unused.contains

/-- What is left of a tree. -/
def Tree.withoutIdle (unused : List Identity) : Tree → Option Tree
  | .node (.variableDecl kind) span declarators =>
    let kept := declarators.filter fun declarator => !isIdle unused declarator
    if kept.isEmpty then none else some (.node (.variableDecl kind) span kept)
  | tree => if tree.isIdleSole unused then none else some tree

/-- The names whose declarations are taken out of an item. -/
def Item.idleIdentities (unused : List Identity) : Item → List Identity
  | .statement tree => tree.idleIdentities unused
  | .exportDecl decl _ => decl.idleIdentities unused
  | .exportDefaultDecl decl _ => (soleIdentity? decl).toList.filter unused.contains
  | _ => []

/-- What is left of an item. -/
def Item.withoutIdle (unused : List Identity) : Item → Option Item
  | .statement tree => (tree.withoutIdle unused).map .statement
  | .exportDecl decl span => (decl.withoutIdle unused).map (.exportDecl · span)
  | .exportDefaultDecl decl span =>
    if decl.isIdleSole unused then none else some (.exportDefaultDecl decl span)
  | item => some item

def Program.idleIdentities (unused : List Identity) (program : Program) : List Identity :=
  program.items.flatMap (Item.idleIdentities unused)

def Program.withoutIdle (unused : List Identity) (program : Program) : Program :=
  { program with items := program.items.filterMap (Item.withoutIdle unused) }

end ScopeHoist
