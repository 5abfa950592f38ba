import ScopeHoist.Graph.Loading
import ScopeHoist.Graph.Order
import ScopeHoist.Link.Program
import ScopeHoist.Report.Stats
import ScopeHoist.Shake.Session

/-!
# Bundling

All phases one after the other on a new session. Nothing is written unless all of them succeed.
-/

set_option autoImplicit false

namespace ScopeHoist

structure Bundle where
  code : String
  stats : Stats
  warnings : List Warning
  deriving DecidableEq, Repr

namespace InSession

/-- The execution order, with what is told about it. -/
def settleOrder : InSession (List ModuleId) := do
  let session ← get
  let order := session.executionOrder
  note .info
    ("Resolved " ++ toString session.modules.length ++ " modules and "
      ++ toString session.externals.length ++ " external modules")
  note .debug
    ("Execution order: " ++ ", ".intercalate (order.map fun id => (session.module id).path))
  return order

def shakeIfAsked : InSession Unit := do
  if (← get).options.treeshake then
    let _ ← shake
  else note .debug "Tree shaking disabled"

/-- Everything after the graph is built. -/
def link : InSession String := do
  let order ← settleOrder
  shakeIfAsked
  let _ ← assignNames order
  merge order

end InSession

def Session.statsOf (session : Session) (code : String) : Stats where
  inputSize := (session.modules.map Module.sourceSize).foldl (· + ·) 0
  outputSize := code.utf8ByteSize
  moduleCount := session.modules.length
  externalCount := session.externals.length
  minify := session.options.minify
  treeshake := session.options.treeshake

namespace Building

/-- Writes the bundle into the tree, if it is to be written. -/
def writeBundle (tree : FileTree) (output : Option Path) (code : String) : Building FileTree :=
  match output with
  | none => return tree
  | some path =>
    match tree.write path code with
    | .ok tree => do
      InSession.note .info ("Wrote bundle to " ++ path)
      return tree
    | .error problem => throw (.access path problem)

def bundle (tree : FileTree) (entry : Path) (output : Option Path) :
    Building (Bundle × FileTree) := do
  InSession.note .info ("Bundling " ++ entry)
  let _ ← build tree entry
  let code ← InSession.link
  let tree ← writeBundle tree output code
  let session ← get
  return (⟨code, session.statsOf code, session.warnings⟩, tree)

end Building

/-- The outcome of a run, what it noted down, and the tree that it leaves. -/
structure Run where
  outcome : Except BundleError Bundle
  journal : Journal
  tree : FileTree

/-- Bundles what an entry reaches, and writes it to the output if there is one. -/
def bundle (tree : FileTree) (entry : Path) (output : Option Path) (options : BundleOptions) :
    Run :=
  match ((Building.bundle tree entry output).run (Session.new options)) with
  | (.ok (bundle, written), session) => ⟨.ok bundle, session.journal, written⟩
  | (.error error, session) => ⟨.error error, session.journal, tree⟩

end ScopeHoist
