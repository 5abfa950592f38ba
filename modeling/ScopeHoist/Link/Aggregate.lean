import ScopeHoist.Graph.Session
import ScopeHoist.Link.Names
import ScopeHoist.Tree.Build

/-!
# Namespace objects

A module whose namespace is wanted gets a frozen object of its exports, the default aside. The
names of externals that it exports whole are only known when the program runs, so their namespaces
are merged in by a function of the bundle.
-/

set_option autoImplicit false

namespace ScopeHoist

namespace Session

/-- The namespaces of externals that a module's own namespace takes in. -/
def mergedRecords (session : Session) (module : Module) : List RecordId :=
  module.stars.filterMap fun star => (session.external star.external).exports.get? aggregateName

def aggregateMembers (session : Session) (module : Module) : List (String × Tree) :=
  (module.exports.filter fun entry => entry.1 != defaultName && entry.1 != aggregateName).map
    fun entry => (entry.1, generatedIdent (session.identifier entry.2))

/-- The value of a namespace object. -/
def aggregateValue (session : Session) (module : Module) : Tree :=
  let members := objectOf (session.aggregateMembers module)
  let merged := (session.mergedRecords module).map fun record =>
    generatedIdent (session.identifier record)
  if merged.isEmpty then callOf (memberOf (generatedIdent "Object") "freeze") [members]
  else callOf (generatedIdent mergeHelperName) [members, arrayOf merged]

/-- The declaration of a module's namespace object, if the namespace is wanted. -/
def aggregateDeclaration? (session : Session) (module : Module) : Option Tree :=
  (module.exports.get? aggregateName).map fun record =>
    constDeclaration (session.identifier record) (session.aggregateValue module)

/-- Whether a namespace object needs the function that merges namespaces. -/
def needsMergeHelper (session : Session) (order : List ModuleId) : Bool :=
  order.any fun id =>
    let module := session.module id
    module.exports.has aggregateName && !(session.mergedRecords module).isEmpty

end Session

namespace MergeHelper

def quoted (text : String) : Tree := (Form.stringLiteral text ("'" ++ text ++ "'")).of []

def functionOf (parameters : List String) (body : List Tree) : Tree :=
  (Form.function .plain).of
    [.absent, Form.parameters.of (parameters.map generatedIdent), Form.block.of body]

def run (value : Tree) : Tree := Form.expression.of [value]

def both (first second : Tree) : Tree := (Form.binary .and).of [first, second]

def negation (value : Tree) : Tree := (Form.unary .not).of [value]

/-- `object.method(arguments)`. -/
def invoke (object : Tree) (method : String) (arguments : List Tree) : Tree :=
  callOf (memberOf object method) arguments

def keyed (name : String) (value : Tree) : Tree :=
  Form.property.of [(Form.name name).of [], value]

/-- A property that reads its value from the source each time. -/
def getterDescriptor : Tree :=
  Form.object.of [
    keyed "enumerable" ((Form.boolLiteral true).of []),
    keyed "get"
      (functionOf [] [Form.return.of [Form.index.of [generatedIdent "e", generatedIdent "k"]]])]

/-- Copies one key of a source, with its getter if it has one. -/
def copyKey : List Tree := [
  (Form.variableDecl .hoisted).of [
    Form.declarator.of [
      generatedIdent "d",
      invoke (generatedIdent "Object") "getOwnPropertyDescriptor"
        [generatedIdent "e", generatedIdent "k"]]],
  run
    (invoke (generatedIdent "Object") "defineProperty" [
      generatedIdent "n",
      generatedIdent "k",
      Form.conditional.of
        [memberOf (generatedIdent "d") "get", generatedIdent "d", getterDescriptor]])]

/-- Copies a key unless it is the default or was there before. -/
def visitKey : Tree :=
  Form.ifThen.of [
    both ((Form.binary .notSame).of [generatedIdent "k", quoted "default"])
      (negation (Form.paren.of [(Form.binary .isIn).of [generatedIdent "k", generatedIdent "n"]])),
    Form.block.of copyKey,
    .absent]

/-- Visits the keys of a source that is an object and no array. -/
def visitSource : Tree :=
  both
    (both
      (both (generatedIdent "e")
        ((Form.binary .notSame).of
          [(Form.unary .typeof).of [generatedIdent "e"], quoted "string"]))
      (negation (invoke (generatedIdent "Array") "isArray" [generatedIdent "e"])))
    (invoke (invoke (generatedIdent "Object") "keys" [generatedIdent "e"]) "forEach"
      [functionOf ["k"] [visitKey]])

end MergeHelper

open MergeHelper

/-- The function that merges namespaces: it adds to `n` each key of the sources `m` that is not
there yet, the default aside, and freezes `n`. The first source of a key wins. -/
def mergeHelper : Tree :=
  (Form.functionDecl .plain).of [
    generatedIdent mergeHelperName,
    Form.parameters.of [generatedIdent "n", generatedIdent "m"],
    Form.block.of [
      run (invoke (generatedIdent "m") "forEach" [functionOf ["e"] [run visitSource]]),
      Form.return.of [invoke (generatedIdent "Object") "freeze" [generatedIdent "n"]]]]

end ScopeHoist
