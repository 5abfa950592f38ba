import ScopeHoist.Link.Statements
import ScopeHoist.Print.Program

/-!
# The one program

The imports of externals come first, then the function that merges namespaces if one of them needs
it, then the modules in execution order.
-/

set_option autoImplicit false

namespace ScopeHoist

namespace Session

/-- Specifiers for the entries of an external's table under a name. -/
def wholeImports (session : Session) (external : External) (name : String)
    (specifier : String → ImportSpecifier) : List ImportSpecifier :=
  (external.exports.get? name).toList.map fun record => specifier (session.identifier record)

def namedImports (session : Session) (external : External) : List ImportSpecifier :=
  (external.exports.filter fun entry =>
    entry.1 != defaultName && entry.1 != aggregateName).map fun entry =>
      .generatedNamed entry.1 (session.identifier entry.2)

/-- The imports of an external. A namespace cannot share a statement with single names. When no
name is left, the external is still imported for what it does. -/
def importsOf (session : Session) (external : External) : List Item :=
  if external.exports.isEmpty then
    if external.dependents.isEmpty then [] else [importItem external.specifier []]
  else
    let default := session.wholeImports external defaultName .generatedDefault
    let aggregate := session.wholeImports external aggregateName .generatedAggregate
    let named := session.namedImports external
    if aggregate.isEmpty || named.isEmpty then
      [importItem external.specifier (default ++ aggregate ++ named)]
    else
      [importItem external.specifier (default ++ named),
        importItem external.specifier aggregate]

def externalImports (session : Session) : List Item :=
  session.externals.flatMap session.importsOf

end Session

namespace InSession

/-- Takes the items out of a module. -/
def takeItems (id : ModuleId) : InSession (List Item) :=
  modifyGet fun session =>
    ((session.module id).program.items,
      session.setModule id fun module =>
        { module with program := { module.program with items := [] } })

/-- The shebang line of the last entry in an order. -/
def shebangOf (session : Session) (order : List ModuleId) : Option String :=
  ((order.map session.module).filter Module.isEntry).getLast?.bind fun module =>
    module.program.shebang

/-- The one program of the modules in an order, which are left without items. -/
def assembled (order : List ModuleId) : InSession Program := do
  let session ← get
  let imports := session.externalImports
  note .debug ("Hoisted " ++ toString imports.length ++ " external import statements")
  let needsHelper := session.needsMergeHelper order
  if needsHelper then note .debug "Emitting namespace merge helper"
  let helper := if needsHelper then [Item.statement mergeHelper] else []
  let bodies ← order.mapM takeItems
  return ⟨.generated, shebangOf session order, imports ++ helper ++ bodies.flatten⟩

/-- The text of the one program. -/
def assemble (order : List ModuleId) : InSession String := do
  let program ← assembled order
  let session ← get
  return program.text session.comments session.options.minify

/-- Hoists the modules in an order and assembles them. -/
def merge (order : List ModuleId) : InSession String := do
  order.forM hoist
  let code ← assemble order
  note .info ("Generated " ++ toString code.utf8ByteSize ++ " bytes of output")
  return code

end InSession

end ScopeHoist
