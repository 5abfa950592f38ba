import ScopeHoist.Config.Settings
import ScopeHoist.Graph.Record
import ScopeHoist.Report.Journal
import ScopeHoist.Report.Warning
import ScopeHoist.Source.Comments

/-!
# Sessions

All that is known in the course of a run. A module is stored when everything it depends on is, so
that the modules stand in the order in which they were completed.
-/

set_option autoImplicit false

namespace ScopeHoist

structure Session where
  options : BundleOptions
  modules : List Module
  externals : List External
  records : List ExportRecord
  bindings : List Binding
  /-- The module last stored as an entry. -/
  entry : Option ModuleId
  warnings : List Warning
  journal : Journal
  comments : Comments
  /-- Where the positions of the next source begin. -/
  nextOffset : Nat

def Session.new (options : BundleOptions) : Session :=
  ⟨options, [], [], [], [], none, [], .empty, .none, 1⟩

namespace Session

def module (session : Session) (id : ModuleId) : Module := session.modules.getD id .blank

def external (session : Session) (id : ExternalId) : External := session.externals.getD id .blank

def moduleAt? (session : Session) (path : Path) : Option ModuleId :=
  session.modules.findIdx? fun module => module.path == path

def externalNamed? (session : Session) (specifier : String) : Option ExternalId :=
  session.externals.findIdx? fun external => external.specifier == specifier

/-- What the value of a record is called. -/
def identifier (session : Session) (id : RecordId) : String :=
  ((session.records[id]?).map ExportRecord.identifier).getD ""

def setModule (session : Session) (id : ModuleId) (change : Module → Module) : Session :=
  { session with modules := session.modules.modify id change }

def setExternal (session : Session) (id : ExternalId) (change : External → External) : Session :=
  { session with externals := session.externals.modify id change }

def setRecord (session : Session) (id : RecordId) (change : ExportRecord → ExportRecord) :
    Session :=
  { session with records := session.records.modify id change }

def setBinding (session : Session) (id : BindingId) (change : Binding → Binding) : Session :=
  { session with bindings := session.bindings.modify id change }

def note (session : Session) (level : Level) (text : String) : Session :=
  { session with journal := session.journal.add level text }

/-- A module becomes part of the session. -/
def store (session : Session) (module : Module) : Session :=
  { session with
    modules := session.modules ++ [module]
    entry := if module.isEntry then some module.id else session.entry }

/-- Whether it was told already that a name of a module is ambiguous. -/
def knowsAmbiguity (session : Session) (path : Path) (name : String) : Bool :=
  session.warnings.any fun warning =>
    match warning with
    | .ambiguousStar path' name' _ _ => path' == path && name' == name
    | _ => false

def warn (session : Session) (warning : Warning) : Session :=
  { session.note .warn warning.message with warnings := session.warnings ++ [warning] }

/-- Warns, but not twice of the same ambiguity. -/
def report (session : Session) (warning : Warning) : Session :=
  match warning with
  | .ambiguousStar path name _ _ =>
    if session.knowsAmbiguity path name then session else session.warn warning
  | .missingExport _ _ _ => session.warn warning

end Session

/-- Steps that change a session and always succeed. -/
abbrev InSession := StateM Session

namespace InSession

def note (level : Level) (text : String) : InSession Unit :=
  modify fun session => session.note level text

def newRecord (record : ExportRecord) : InSession RecordId :=
  modifyGet fun session =>
    (session.records.length, { session with records := session.records ++ [record] })

def newBinding (binding : Binding) : InSession BindingId :=
  modifyGet fun session =>
    (session.bindings.length, { session with bindings := session.bindings ++ [binding] })

/-- The external that a specifier names. -/
def intern (specifier : String) : InSession ExternalId :=
  modifyGet fun session =>
    match session.externalNamed? specifier with
    | some id => (id, session)
    | none =>
      (session.externals.length,
        { session with externals := session.externals ++ [⟨specifier, [], []⟩] })

/-- A module begins to depend on a target. -/
def addDependent (id : ModuleId) (target : Target) : InSession Unit :=
  modify fun session =>
    match target with
    | .module dependency =>
      session.setModule dependency fun module =>
        { module with dependents := addNew module.dependents id }
    | .external dependency =>
      session.setExternal dependency fun external =>
        { external with dependents := addNew external.dependents id }

end InSession

end ScopeHoist
