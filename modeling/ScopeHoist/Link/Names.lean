import ScopeHoist.Graph.Session
import ScopeHoist.Name.Pool

/-!
# Names in the bundle

Every declaration that is left, and every value that has no declaration of its own, gets a name
that nothing else in the bundle has. Names are claimed as they are spelled in the source, modules in
execution order and externals last; what some module leaves free is never given away.
-/

set_option autoImplicit false

namespace ScopeHoist

/-- The function that merges namespaces when the program runs. -/
def mergeHelperName : String := "_mergeNamespaces"

/-- Names that generated code reads. -/
def generatedReads : List String := ["undefined", "Object", mergeHelperName]

/-- The names that no declaration may get. -/
def Session.reservedNames (session : Session) (order : List ModuleId) : List String :=
  generatedReads ++ order.flatMap fun id => (session.module id).program.freeNames

structure Naming where
  pool : NamePool
  /-- Records that have their name. -/
  named : List RecordId
  /-- How many names differ from what was asked for. -/
  renamed : Nat

abbrev InNaming := StateT Naming InSession

namespace InNaming

def claim (base : String) : InNaming String :=
  modifyGet fun naming =>
    let (name, pool) := naming.pool.claim base
    (name,
      { naming with
        pool, renamed := if name == base then naming.renamed else naming.renamed + 1 })

def remark (text : String) : InNaming Unit := InSession.note .debug text

def nameBinding (path : Path) (id : BindingId) : InNaming Unit := do
  match (← getThe Session).bindings[id]? with
  | some binding =>
    if binding.removed then return
    let declared := binding.declaration.name
    let name ← claim declared
    if name != declared then
      remark
        ("Renamed " ++ binding.declaration.kind.word ++ " " ++ declared ++ " in " ++ path ++ " to "
          ++ name)
    modifyThe Session fun session => session.setBinding id fun binding => { binding with name }
  | none => return

def setIdentifier (id : RecordId) (identifier : String) : InNaming Unit :=
  modifyThe Session fun session => session.setRecord id fun record => { record with identifier }

/-- Names a value that has no declaration, unless it has its name. -/
def nameValue (id : RecordId) (current : String) : InNaming Unit := do
  if (← get).named.contains id then return
  modify fun naming => { naming with named := id :: naming.named }
  let base := stem current
  let name ← claim base
  if name != base then remark ("Renamed generated identifier " ++ base ++ " to " ++ name)
  setIdentifier id name

/-- Names what a module exports: like its declaration, or a value of the module itself. -/
def nameExport (module : ModuleId) (id : RecordId) : InNaming Unit := do
  let session ← getThe Session
  match session.records[id]? with
  | some record =>
    match record.owner with
    | some owner => setIdentifier id (((session.bindings[owner]?).map Binding.name).getD "")
    | none => if record.source == .module module then nameValue id record.identifier
  | none => return

def nameExternal (id : RecordId) : InNaming Unit := do
  match (← getThe Session).records[id]? with
  | some record => nameValue id record.identifier
  | none => return

def nameModule (id : ModuleId) : InNaming Unit := do
  let module := (← getThe Session).module id
  module.bindings.forM (nameBinding module.path)
  (module.exports.values ++ module.unnamedDefault.toList).forM (nameExport id)

end InNaming

/-- Gives the modules of an order, and all externals, their names; the answer is how many differ
from the spelling in the source. -/
def InSession.assignNames (order : List ModuleId) : InSession Nat := do
  let session ← get
  let naming : InNaming Unit := do
    order.forM InNaming.nameModule
    (session.externals.flatMap fun external => external.exports.values).forM InNaming.nameExternal
  let (_, state) ← naming.run ⟨⟨session.reservedNames order⟩, [], 0⟩
  note .info ("Deconflicted identifiers; " ++ toString state.renamed ++ " renamed")
  return state.renamed

end ScopeHoist
