import ScopeHoist.Graph.Provide

/-!
# Module interfaces

What a module declares, imports and exports, found out once all modules that it depends on are
stored. Whatever the order of the source, names from `export *` come first, since the module's own
exports replace them, then imports, since they may be exported again, then all other exports. A
table entry always holds the record of the place that the value comes from.
-/

set_option autoImplicit false

namespace ScopeHoist

/-- What an export statement adds to the exports of its module. -/
structure Published where
  name : String
  record : RecordId
  /-- Whether the record is that of an unnamed default. -/
  isUnnamed : Bool
  deriving DecidableEq, Repr

namespace Module

def target? (module : Module) (specifier : String) : Option Target :=
  module.dependencies.get? specifier

/-- The declaration that an identifier means, among those of a module. -/
def bindingOf? (module : Module) (session : Session) (id : Ident) : Option BindingId :=
  module.bindings.find? fun binding =>
    match session.bindings[binding]? with
    | some found => found.identity == id.identity
    | none => false

/-- Takes over what another module exports, but for its default and its namespace. -/
def mergeModule (module dependency : Module) : Module :=
  { module with
    exports := module.exports.insertAll <| dependency.exports.filter fun entry =>
      entry.1 != defaultName && entry.1 != aggregateName
    stars := dependency.stars.foldl addNew module.stars }

def exportStar (session : Session) (module : Module) (specifier : String) : Module :=
  match module.target? specifier with
  | some (.module id) => module.mergeModule (session.module id)
  | some (.external id) => { module with stars := addNew module.stars ⟨specifier, id⟩ }
  | none => module

def starSpecifiers (module : Module) : List String :=
  module.program.items.filterMap fun item =>
    match item with
    | .exportStar source _ => some source.value
    | _ => none

/-- A module with what its `export *` statements give it. -/
def withStars (session : Session) (module : Module) : Module :=
  module.starSpecifiers.foldl (exportStar session) module

def publish (module : Module) (published : Published) : Module :=
  { module with
    exports := module.exports.insert published.name published.record
    unnamedDefault :=
      if published.isUnnamed then some published.record else module.unnamedDefault }

end Module

/-- The name that a specifier asks its source for. -/
def ImportSpecifier.importedName : ImportSpecifier → String
  | .default _ _ => defaultName
  | .aggregate _ _ => aggregateName
  | .named target imported _ => (imported.map OuterName.value).getD target.name

/-- The name that a specifier asks its source for, and the one that it exports. -/
def ExportSpecifier.namePair : ExportSpecifier → String × String
  | .aggregate exported _ => (aggregateName, exported.value)
  | .named origin exported _ => (origin.value, (exported.map OuterName.value).getD origin.value)

namespace InSession

/-- The top-level declarations of a module. -/
def declareAll (module : Module) : InSession Module := do
  let bindings ← module.program.declarations.mapM fun declaration =>
    newBinding
      ⟨declaration, declaration.name, module.id, usageOf module.uses declaration.name, false⟩
  return { module with bindings }

/-- The record of a name of a target; that there is none is told. -/
def request (module : Module) (target : Target) (specifier name preferred : String) :
    InSession (Option RecordId) := do
  let record ← targetRecord? target name preferred
  if record.isNone then
    modify fun session => session.report (.missingExport module.path specifier name)
  return record

def importRemark (module : Module) (binding : ImportBinding) : String :=
  module.path ++ ": import " ++ binding.imported ++ " from " ++ binding.specifier ++ " as "
    ++ binding.name ++ " (" ++ toString binding.references ++ " references)"

def importName (module : Module) (target : Target) (source : String)
    (specifier : ImportSpecifier) : InSession ImportBinding := do
  let name := specifier.target.name
  let resolved ← request module target source specifier.importedName name
  let binding : ImportBinding :=
    ⟨specifier.importedName, source, name, target, resolved,
      (usageOf module.uses name).localReferences⟩
  note .trace (importRemark module binding)
  return binding

def importsOf (module : Module) : Item → InSession (List ImportBinding)
  | .importFrom specifiers source _ =>
    match module.target? source.value with
    | some target => specifiers.mapM (importName module target source.value)
    | none => return []
  | _ => return []

def importAll (module : Module) : InSession Module := do
  let imports ← module.program.items.mapM (importsOf module)
  return { module with imports := imports.flatten }

/-- Exports a declaration. -/
def publishBinding (module : Module) (name : String) (id : BindingId) :
    InSession (List Published) := do
  match (← get).bindings[id]? with
  | some binding =>
    let record ←
      newRecord ⟨binding.declaration.name, binding.name, .module module.id, some id, none⟩
    return [⟨name, record, false⟩]
  | none => return []

/-- Exports a default value that gets a name of its own. -/
def publishUnnamed (module : Module) : InSession (List Published) := do
  let record ←
    newRecord ⟨defaultName, module.path.identifierName, .module module.id, none, none⟩
  return [⟨defaultName, record, true⟩]

/-- Exports what the declarations of a statement declare, under their own names. -/
def publishDeclared (module : Module) (ids : List Ident) : InSession (List Published) := do
  let published ← ids.mapM fun id => do
    match module.bindingOf? (← get) id with
    | some binding => publishBinding module id.name binding
    | none => return []
  return published.flatten

/-- Exports a name of the module: a declaration, or an import as what it stands for. -/
def publishLocal (module : Module) (name : String) (id : Ident) : InSession (List Published) := do
  match module.bindingOf? (← get) id with
  | some binding => publishBinding module name binding
  | none =>
    match module.import? id.identity with
    | some binding => return (binding.resolved.map (⟨name, ·, false⟩)).toList
    | none =>
      note .debug (module.path ++ ": ignoring export of undeclared name " ++ id.name)
      return []

def publishSpecifier (module : Module) : ExportSpecifier → InSession (List Published)
  | .named (.ident id) exported _ =>
    publishLocal module ((exported.map OuterName.value).getD id.name) id
  | _ => return []

/-- Exports a name of another module or of an external. -/
def publishFrom (module : Module) (target : Target) (source : String)
    (specifier : ExportSpecifier) : InSession (List Published) := do
  let (imported, exported) := specifier.namePair
  let record ← request module target source imported (legalName exported)
  return (record.map (⟨exported, ·, false⟩)).toList

def publishDefaultDecl (module : Module) (decl : Tree) : InSession (List Published) := do
  match (declaredIdents decl).head? with
  | some id =>
    match module.bindingOf? (← get) id with
    | some binding => publishBinding module defaultName binding
    | none => publishUnnamed module
  | none => publishUnnamed module

/-- Exports a value as the default. A bare name is exported as what it names, unless that is
assigned to; any other value is fixed when the statement runs. -/
def publishDefault (module : Module) : Tree → InSession (List Published)
  | .ident id => do
    let session ← get
    match module.bindingOf? session id with
    | some binding =>
      if ((session.bindings[binding]?).map (·.usage.reassignments)).getD 0 == 0 then
        publishBinding module defaultName binding
      else publishUnnamed module
    | none =>
      match (module.import? id.identity).bind ImportBinding.resolved with
      | some record => return [⟨defaultName, record, false⟩]
      | none => publishUnnamed module
  | _ => publishUnnamed module

/-- What an item other than `export *` exports. -/
def publishedBy (module : Module) : Item → InSession (List Published)
  | .exportDecl decl _ => publishDeclared module (declaredIdents decl)
  | .exportList specifiers _ => do
    return (← specifiers.mapM (publishSpecifier module)).flatten
  | .exportFrom specifiers source _ =>
    match module.target? source.value with
    | some target => do
      return (← specifiers.mapM (publishFrom module target source.value)).flatten
    | none => return []
  | .exportDefaultDecl decl _ => publishDefaultDecl module decl
  | .exportDefault value _ => publishDefault module value
  | _ => return []

def publishAll (module : Module) : InSession Module := do
  let published ← module.program.items.mapM (publishedBy module)
  return published.flatten.foldl Module.publish module

def completionRemark (module : Module) : String :=
  "Analyzed " ++ module.path ++ ": " ++ toString module.bindings.length ++ " bindings, "
    ++ toString module.imports.length ++ " imports, " ++ toString module.exports.length
    ++ " exports, " ++ toString module.stars.length ++ " pending star re-exports"

/-- A module with its tables filled in, all modules it depends on being stored. -/
def complete (module : Module) : InSession Module := do
  let module ← declareAll { module with uses := module.program.uses }
  let module := module.withStars (← get)
  let module ← importAll module
  let module ← publishAll module
  note .debug (completionRemark module)
  return module

end InSession

end ScopeHoist
