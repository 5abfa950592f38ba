import ScopeHoist.Graph.Table
import ScopeHoist.Path
import ScopeHoist.Scope.Usage

/-!
# Records of the module graph

Modules, externals, bindings and exports refer to each other by number, the place in the list that
a session keeps of each kind. One export record may stand in the tables of many modules: whoever
exports a name again shares the record, and with it every new name for the value.
-/

set_option autoImplicit false

namespace ScopeHoist

abbrev ModuleId := Nat

abbrev ExternalId := Nat

abbrev RecordId := Nat

abbrev BindingId := Nat

/-- The name under which a table keeps the namespace object of its module. -/
def aggregateName : String := "*"

def defaultName : String := "default"

/-- What a specifier leads to: a file of the bundle, or a package that stays outside. -/
inductive Target where
  | module (id : ModuleId)
  | external (id : ExternalId)
  deriving DecidableEq, Repr

structure ExportRecord where
  /-- The name where the value comes from; that of its role, for a namespace or unnamed default. -/
  localName : String
  /-- What the value is called in the bundle. -/
  identifier : String
  source : Target
  /-- The declaration behind the export, if there is one. -/
  owner : Option BindingId
  /-- The specifier of the `export *` that the name was found through, if it was. -/
  exportedFrom : Option String
  deriving DecidableEq, Repr

structure Binding where
  declaration : Declaration
  /-- What it is called in the bundle. -/
  name : String
  module : ModuleId
  usage : Usage
  /-- Whether its declaration was taken out. -/
  removed : Bool
  deriving DecidableEq, Repr

def Binding.identity (binding : Binding) : Identity := ⟨binding.declaration.name, .module⟩

/-- How often a name is used other than for being exported. -/
def Usage.localReferences (usage : Usage) : Nat := usage.references - usage.exportReferences

structure ImportBinding where
  imported : String
  specifier : String
  /-- The name that stands for the import in the module. -/
  name : String
  target : Target
  /-- The record that the name stands for, if the target provides it. -/
  resolved : Option RecordId
  /-- Uses other than for being exported again. -/
  references : Nat
  deriving DecidableEq, Repr

def ImportBinding.identity (binding : ImportBinding) : Identity := ⟨binding.name, .module⟩

/-- An `export *` of an external, whose names are not known before the program runs. -/
structure StarReexport where
  specifier : String
  external : ExternalId
  deriving DecidableEq, Repr

structure Module where
  id : ModuleId
  path : Path
  isEntry : Bool
  /-- Bytes of source text. -/
  sourceSize : Nat
  program : Program
  /-- Specifiers and what they lead to, in the order of the source. -/
  dependencies : Table Target
  /-- The modules that depend on this one. -/
  dependents : List ModuleId
  exports : Table RecordId
  imports : List ImportBinding
  bindings : List BindingId
  stars : List StarReexport
  /-- The record of a default export that is not the name of something else. -/
  unnamedDefault : Option RecordId
  /-- Uses of top-level names in the source. -/
  uses : List (String × Usage)

/-- A module that holds nothing, read where a number has no module. -/
def Module.blank : Module :=
  ⟨0, "", false, 0, ⟨.generated, none, []⟩, [], [], [], [], [], [], none, []⟩

def Module.dependencyTargets (module : Module) : List Target := module.dependencies.values

def Module.import? (module : Module) (identity : Identity) : Option ImportBinding :=
  module.imports.find? fun binding => binding.identity == identity

structure External where
  specifier : String
  exports : Table RecordId
  dependents : List ModuleId

def External.blank : External := ⟨"", [], []⟩

end ScopeHoist
