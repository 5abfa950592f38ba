import ScopeHoist.Scope.Hoisting

/-!
# Scope resolution

Every identifier gets the scope that it is declared in, or is free. Functions, blocks, loops,
handlers, classes and object literals are scopes of their own. As in printing, the children of a
form are prepared first, and `resolveForm` only says in which frame and order they are resolved.
-/

set_option autoImplicit false

namespace ScopeHoist

/-- Whether an identifier declares its name or refers to it. -/
inductive Standing where
  | refers
  | declares
  deriving DecidableEq

/-- A child and how to resolve it. -/
structure ScopePart where
  tree : Tree
  resolve : Standing → Resolving Tree
  /-- As a body in the present frame: a block is no scope of its own there. -/
  inPlace : Resolving Tree

namespace Resolving

def refers (part : ScopePart) : Resolving Tree := part.resolve .refers

def declares (part : ScopePart) : Resolving Tree := part.resolve .declares

def isRestPattern : Tree → Bool
  | .node .rest _ _ => true
  | _ => false

/-- Declares the names of parameters before the defaults among them are looked at. -/
def declareParameters : Tree → Resolving Unit
  | .node .parameters _ patterns =>
    (patternListIdents (patterns.filter fun pattern => !isRestPattern pattern)).forM
      fun id => declare id.name
  | _ => return

/-- Parameters and body in the present frame. -/
def resolveFunction (parameters body : ScopePart) : Resolving (List Tree) := do
  touch
  declareParameters parameters.tree
  let parameters ← declares parameters
  return [parameters, ← body.inPlace]

/-- Parameters and body of a function whose frame gets its scope from what is in it. -/
def resolveArrow (parameters body : ScopePart) : Resolving (List Tree) := do
  declareParameters parameters.tree
  let parameters ← declares parameters
  return [parameters, ← body.inPlace]

/-- A method: the key belongs to what is around it. -/
def resolveMethod (key parameters body : ScopePart) : Resolving (List Tree) := do
  let key ← refers key
  return key :: (← inFrame true (resolveFunction parameters body))

/-- A setter: its parameter counts for the whole object literal too. -/
def resolveSetter (key parameters body : ScopePart) : Resolving (List Tree) := do
  let key ← refers key
  declareParameters parameters.tree
  inFrame true do
    let parameters ← declares parameters
    return [key, parameters, ← refers body]

def resolveAll (standing : Standing) (parts : List ScopePart) : Resolving (List Tree) :=
  parts.mapM fun part => part.resolve standing

/-- A loop: the head in a frame, the body in one inside. -/
def resolveLoop (head : List ScopePart) (body : ScopePart) : Resolving (List Tree) :=
  inFrame false do
    let head ← resolveAll .refers head
    return head ++ [← inFrame false body.inPlace]

/-- Statements of a block in the present frame. -/
def resolveStatements (statements : List ScopePart) : Resolving (List Tree) := do
  touch
  hoist (statements.map ScopePart.tree)
  resolveAll .refers statements

/-- A case, its statements before its test. -/
def resolveCase (test : ScopePart) (statements : List ScopePart) : Resolving (List Tree) := do
  hoist (statements.map ScopePart.tree)
  let statements ← resolveAll .refers statements
  return (← refers test) :: statements

/-- The children of a form. Patterns hand on whether their identifiers declare. -/
def resolveForm (standing : Standing) : Form → List ScopePart → Resolving (List Tree)
  | .arrayPattern, elements => resolveAll standing elements
  | .objectPattern, properties => resolveAll standing properties
  | .rest, [pattern] => return [← pattern.resolve standing]
  | .property, [key, value] => return [← refers key, ← value.resolve standing]
  | .defaulted, [pattern, value] => return [← pattern.resolve standing, ← refers value]
  | .shorthandPattern, [name, value] => return [← name.resolve standing, ← refers value]
  | .declarator, [pattern, value] => return [← declares pattern, ← refers value]
  | .parameters, patterns => resolveAll .declares patterns
  | .function _, [name, parameters, body] =>
    if name.tree.isAbsent then
      return name.tree :: (← inFrame true (resolveFunction parameters body))
    else
      inFrame true do
        let name ← declares name
        return name :: (← inFrame true (resolveFunction parameters body))
  | .functionDecl _, [name, parameters, body] => do
    let name ← declares name
    return name :: (← inFrame true (resolveFunction parameters body))
  | .arrow _, [parameters, body] => inFrame true (resolveArrow parameters body)
  | .method _, [key, parameters, body] => resolveMethod key parameters body
  | .methodMember _ _, [key, parameters, body] => resolveMethod key parameters body
  | .constructorMember, [key, parameters, body] =>
    return key.tree :: (← inFrame true (resolveArrow parameters body))
  | .accessor true, [key, parameters, body] => resolveSetter key parameters body
  | .classDecl, name :: superclass :: members => do
    let name ← declares name
    return name :: (← inFrame true (resolveAll .refers (superclass :: members)))
  | .classExpr, name :: superclass :: members => do
    let superclass ← refers superclass
    inFrame true do
      let name ← declares name
      return name :: superclass :: (← resolveAll .refers members)
  | .staticBlock, [body] => return [← inFrame true body.inPlace]
  | .object, properties => inFrame false (resolveAll .refers properties)
  | .block, statements => inFrame false (resolveStatements statements)
  | .for, [init, test, update, body] => resolveLoop [init, test, update] body
  | .forIn, [left, right, body] => resolveLoop [left, right] body
  | .forOf _, [left, right, body] => resolveLoop [left, right] body
  | .switch, discriminant :: cases => do
    let discriminant ← refers discriminant
    return discriminant :: (← inFrame false (resolveAll .refers cases))
  | .case, test :: statements => resolveCase test statements
  | .catch, [parameter, body] =>
    inFrame true do return [← declares parameter, ← body.inPlace]
  | _, children => resolveAll .refers children

/-- The children of a form that stands as a body in the present frame. -/
def resolveBody : Form → List ScopePart → Resolving (List Tree)
  | .block, statements => resolveStatements statements
  | form, children => resolveForm .refers form children

def resolveIdent (id : Ident) : Standing → Resolving Tree
  | .refers => return .ident (← refer id)
  | .declares => return .ident (← bind id)

end Resolving

open Resolving

mutual
def scopePart : Tree → ScopePart
  | .ident id => ⟨.ident id, resolveIdent id, resolveIdent id .refers⟩
  | .node form span children =>
    let parts := scopeParts children
    ⟨.node form span children,
      fun standing => return .node form span (← resolveForm standing form parts),
      return .node form span (← resolveBody form parts)⟩

def scopeParts : List Tree → List ScopePart
  | [] => []
  | tree :: rest => scopePart tree :: scopeParts rest
end

def resolveTree (tree : Tree) : Resolving Tree := (scopePart tree).resolve .refers

end ScopeHoist
