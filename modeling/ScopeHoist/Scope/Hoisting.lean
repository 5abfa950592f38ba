import ScopeHoist.Scope.Frame

/-!
# Hoisting

Before the statements of a list are resolved, what they declare for the whole list is settled:
its own declarations, and the `var`s in nested statements down to the next function. A `var` in a
handler belongs to the handler when its parameter has the name, but only if the name is declared
around it. What is declared by a pattern behind a handler is not settled if a parameter of the
handler has its name.
-/

set_option autoImplicit false

namespace ScopeHoist

/-- What the handlers around a statement, and those before it, make of a name. -/
structure Handlers where
  inBody : Bool
  /-- Names of the parameters of these handlers. -/
  parameters : List String
  /-- Names declared in the body of the innermost handler. -/
  taken : List String

def Handlers.none : Handlers := ⟨false, [], []⟩

abbrev Hoisting := StateT Handlers Resolving

namespace Hoisting

/-- Settles an identifier of a pattern in a `var`, or of the parameter of a handler. -/
def settlePatternIdent (id : Ident) : Hoisting Unit := do
  let handlers ← get
  let isParameter := handlers.parameters.contains id.name
  if handlers.inBody then
    if (← Resolving.isDeclaredNear id.name) && isParameter then return
    set { handlers with taken := id.name :: handlers.taken }
  else if isParameter && !handlers.taken.contains id.name then return
  Resolving.settle id

def settlePattern (pattern : Tree) : Hoisting Unit :=
  (patternIdents pattern).forM settlePatternIdent

def declaratorPattern : Tree → Tree
  | .node .declarator _ (pattern :: _) => pattern
  | tree => tree

def settleDeclarators (declarators : List Tree) : Hoisting Unit :=
  declarators.forM fun declarator => settlePattern (declaratorPattern declarator)

def settleFunction (inBlock : Bool) (name : Tree) : Hoisting Unit := do
  match name with
  | .ident id =>
    if !inBlock && !(← get).parameters.contains id.name then Resolving.settle id
  | _ => return

def settleClass (inBlock : Bool) (name : Tree) : Hoisting Unit := do
  match name with
  | .ident id => if !inBlock then Resolving.settle id
  | _ => return

/-- Settles what a `var` or a function declares; these come before all other statements. -/
def early (inBlock : Bool) : Tree → Hoisting Unit
  | .node (.variableDecl .hoisted) _ declarators => settleDeclarators declarators
  | .node (.functionDecl _) _ (name :: _) => settleFunction inBlock name
  | _ => return

/-- Settles a `var` in a loop head. -/
def headVariables : Tree → Hoisting Unit
  | .node (.variableDecl .hoisted) _ declarators => settleDeclarators declarators
  | _ => return

/-- Runs an action in the body of a handler, and the pattern of its parameter behind it. -/
def inHandler (parameter : Tree) (body : Hoisting Unit) : Hoisting Unit := do
  let outer ← get
  let names := (patternIdents parameter).map Ident.name
  set { outer with inBody := true, taken := [], parameters := names ++ outer.parameters }
  body
  modify fun handlers => { handlers with inBody := false }
  settlePattern parameter
  set { outer with parameters := names ++ outer.parameters }

/-- A statement that stands alone settles what comes early before all else in it. -/
def nested (inBlock : Bool) (statement : Tree) (others : Hoisting Unit) : Hoisting Unit := do
  early inBlock statement
  others

mutual
/-- Settles what any other statement declares. -/
def late (inBlock : Bool) : Tree → Hoisting Unit
  | .node (.variableDecl .hoisted) _ _ => return
  | .node (.variableDecl _) _ declarators =>
    if inBlock then return else settleDeclarators declarators
  | .node .classDecl _ (name :: _) => settleClass inBlock name
  | .node .block _ statements => do
    statements.forM (early true)
    lateList true statements
  | .node .ifThen _ [_, first, second] => do
    nested inBlock first (late inBlock first)
    nested inBlock second (late inBlock second)
  | .node .while _ [_, body] => nested inBlock body (late inBlock body)
  | .node .doWhile _ [body, _] => nested inBlock body (late inBlock body)
  | .node .for _ [init, _, _, body] => do
    headVariables init
    nested inBlock body (late inBlock body)
  | .node .forIn _ [left, _, body] => do
    headVariables left
    nested inBlock body (late inBlock body)
  | .node (.forOf _) _ [left, _, body] => do
    headVariables left
    nested inBlock body (late inBlock body)
  | .node .labeled _ [_, body] => nested inBlock body (late inBlock body)
  | .node .switch _ (_ :: cases) => lateList true cases
  | .node .case _ (_ :: statements) => do
    statements.forM (early true)
    lateList true statements
  | .node .try _ [block, handler, finalizer] => do
    late inBlock block
    late inBlock handler
    late inBlock finalizer
  | .node .catch _ [parameter, body] => inHandler parameter (late inBlock body)
  | _ => return

def lateList (inBlock : Bool) : List Tree → Hoisting Unit
  | [] => return
  | statement :: rest => do
    late inBlock statement
    lateList inBlock rest
end

end Hoisting

/-- Settles what the statements of a list declare. -/
def hoist (statements : List Tree) : Resolving Unit := do
  let action : Hoisting Unit := do
    statements.forM (Hoisting.early false)
    Hoisting.lateList false statements
  let _ ← action.run .none

end ScopeHoist
