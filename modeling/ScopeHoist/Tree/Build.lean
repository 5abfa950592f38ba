import ScopeHoist.Name.Legal
import ScopeHoist.Tree.Basic

/-!
# Generated code

The few shapes of code that a bundle adds to its modules.
-/

set_option autoImplicit false

namespace ScopeHoist

/-- Form of a node without a place in the source. -/
def Form.of (form : Form) (children : List Tree) : Tree := .node form .generated children

def generatedIdent (name : String) : Tree := .ident (.generated name)

def generatedString (value : String) : Tree := (Form.stringLiteral value none).of []

/-- A declaration `const name = init`. -/
def constDeclaration (name : String) (init : Tree) : Tree :=
  (Form.variableDecl .constant).of [Form.declarator.of [generatedIdent name, init]]

def callOf (callee : Tree) (arguments : List Tree) : Tree := Form.call.of (callee :: arguments)

def memberOf (object : Tree) (property : String) : Tree :=
  Form.member.of [object, (Form.name property).of []]

/-- An object literal, each key a string. -/
def objectOf (entries : List (String × Tree)) : Tree :=
  Form.object.of (entries.map fun entry => Form.property.of [generatedString entry.1, entry.2])

def arrayOf (elements : List Tree) : Tree := Form.array.of elements

def Quotation.generated (value : String) : Quotation := ⟨value, none, .generated⟩

/-- Whether a name can stand for an import or export without quotes. -/
def isPlainOuterName (name : String) : Bool := isLegalName name || name == "default"

def OuterName.generated (name : String) : OuterName :=
  if isPlainOuterName name then .ident (.generated name) else .text (.generated name)

def ImportSpecifier.generatedDefault (target : String) : ImportSpecifier :=
  .default (.generated target) .generated

def ImportSpecifier.generatedAggregate (target : String) : ImportSpecifier :=
  .aggregate (.generated target) .generated

def ImportSpecifier.generatedNamed (imported target : String) : ImportSpecifier :=
  .named (.generated target)
    (if imported == target then none else some (.generated imported)) .generated

def importItem (source : String) (specifiers : List ImportSpecifier) : Item :=
  .importFrom specifiers (.generated source) .generated

/-- `export` of a list of pairs, the name inside the program and the exported one. -/
def exportItem (entries : List (String × String)) : Item :=
  .exportList
    (entries.map fun entry =>
      .named (.ident (.generated entry.1))
        (if entry.1 == entry.2 then none else some (.generated entry.2)) .generated)
    .generated

def exportStarItem (source : String) : Item := .exportStar (.generated source) .generated

end ScopeHoist
