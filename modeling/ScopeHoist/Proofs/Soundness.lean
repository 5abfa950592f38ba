import Mathlib.Data.List.Find
import Mathlib.Data.List.Forall2
import ScopeHoist.Graph.Interface
import ScopeHoist.Proofs.Growth

/-!
# Sound sessions

A record belongs to the place that its value comes from: the table of an external, or the module
that declares the value, names it as its default or has it for a namespace. A session is sound if
every table only holds records that are still held where they belong, in a module that the holder
reaches. Growth keeps what is known of a record, and each kind of step keeps the session sound.
-/

set_option autoImplicit false

namespace ScopeHoist

def Item.exportedNames : Item → List String
  | .exportDecl decl _ => (declaredIdents decl).map Ident.name
  | .exportList specifiers _ => specifiers.map fun specifier => specifier.namePair.2
  | .exportFrom specifiers _ _ => specifiers.map fun specifier => specifier.namePair.2
  | _ => []

def Item.importedNames : Item → List String
  | .importFrom specifiers _ _ => specifiers.map fun specifier => specifier.target.name
  | _ => []

def Program.importedNames (program : Program) : List String :=
  program.items.flatMap Item.importedNames

/-- Whether a program writes the name under which its namespace is kept as that of an export. -/
def Program.ExportsAggregateName (program : Program) : Prop :=
  ∃ item ∈ program.items, aggregateName ∈ item.exportedNames

namespace Session

/-- A record is held where its value comes from. -/
inductive Provides (session : Session) (id : RecordId) (record : ExportRecord) : Prop
  | external (external : ExternalId) (hsource : record.source = .external external)
      (howner : record.owner = none) (hvalid : external < session.externals.length)
      (hentry : (session.external external).exports.get? record.localName = some id)
  | declared (module : ModuleId) (owner : BindingId) (binding : Binding)
      (hsource : record.source = .module module) (howner : record.owner = some owner)
      (hvalid : module < session.modules.length)
      (hmember : owner ∈ (session.module module).bindings)
      (hbinding : session.bindings[owner]? = some binding) (hkept : binding.removed = false)
      (hcounted : 0 < binding.usage.references)
      (hentry : id ∈ (session.module module).exports.values)
  | unnamed (module : ModuleId) (hsource : record.source = .module module)
      (howner : record.owner = none) (hvalid : module < session.modules.length)
      (hname : record.localName = defaultName)
      (hdefault : (session.module module).unnamedDefault = some id)
  | aggregate (module : ModuleId) (hsource : record.source = .module module)
      (howner : record.owner = none) (hvalid : module < session.modules.length)
      (hname : record.localName = aggregateName)
      (hentry : (session.module module).exports.get? aggregateName = some id)

/-- A target can hand out a record: it is held, and by nothing that the target does not reach. -/
def Supplies (session : Session) (target : Target) (id : RecordId) : Prop :=
  ∃ record, session.records[id]? = some record ∧ session.Provides id record ∧
    match target with
    | .module module => ∀ source, record.source = .module source → session.Reaches module source
    | .external external => record.source = .external external

def IsAggregate (session : Session) (module : ModuleId) (id : RecordId) : Prop :=
  ∃ record, session.records[id]? = some record ∧ record.localName = aggregateName ∧
    record.source = .module module ∧ record.owner = none

def IsUnnamed (session : Session) (module : ModuleId) (id : RecordId) : Prop :=
  ∃ record, session.records[id]? = some record ∧ record.localName = defaultName ∧
    record.source = .module module ∧ record.owner = none

def Valid (session : Session) : Target → Prop
  | .module id => id < session.modules.length
  | .external id => id < session.externals.length

/-- An item whose value gets a name of its own when it is exported. -/
def LeavesUnnamed (session : Session) (module : Module) : Item → Prop
  | .exportDefaultDecl decl _ =>
    ∀ id, (declaredIdents decl).head? = some id → module.bindingOf? session id = none
  | .exportDefault (.ident id) _ =>
    (∀ binding, module.bindingOf? session id = some binding →
      ∃ found, session.bindings[binding]? = some found ∧ found.usage.reassignments ≠ 0) ∧
    (module.bindingOf? session id = none →
      (module.import? id.identity).bind ImportBinding.resolved = none)
  | .exportDefault _ _ => True
  | _ => False

/-- What a stored declaration is as long as nothing was removed or named. -/
def IsBinding (session : Session) (module : Module) (id : BindingId) (declaration : Declaration) :
    Prop :=
  session.bindings[id]? = some
    ⟨declaration, declaration.name, module.id, usageOf module.uses declaration.name, false⟩

/-- An import stands for what its target hands out. -/
structure SoundImport (session : Session) (module : Module) (binding : ImportBinding) : Prop where
  target : binding.target ∈ module.dependencyTargets
  references : binding.references = (usageOf module.uses binding.name).localReferences
  resolved : ∀ record, binding.resolved = some record → session.Supplies binding.target record

/-- The table of a module holds what the module can hand out. -/
structure SoundExports (session : Session) (module : Module) : Prop where
  proper : module.exports.Proper
  supplies : ∀ record ∈ module.exports.values, session.Supplies (.module module.id) record
  aggregate : ∀ record, module.exports.get? aggregateName = some record →
    session.IsAggregate module.id record ∨ module.program.ExportsAggregateName

structure SoundModule (session : Session) (module : Module) : Prop where
  uses_eq : module.uses = module.program.uses
  dependencies : ∀ dependency ∈ module.moduleDependencies, dependency < module.id
  bindings_nodup : module.bindings.Nodup
  bindings : List.Forall₂ (session.IsBinding module) module.bindings module.program.declarations
  imports : ∀ binding ∈ module.imports, session.SoundImport module binding
  imported : (module.imports.map ImportBinding.name).Sublist module.program.importedNames
  stars : ∀ star ∈ module.stars, star.external < session.externals.length
  exports : session.SoundExports module
  unnamed : ∀ record, module.unnamedDefault = some record → session.IsUnnamed module.id record
  leaves : module.unnamedDefault ≠ none →
    ∃ item ∈ module.program.items, session.LeavesUnnamed module item

/-- The table of an external holds its own records, each under its name. -/
structure SoundExternal (session : Session) (id : ExternalId) : Prop where
  proper : (session.external id).exports.Proper
  entries : ∀ entry ∈ (session.external id).exports, ∃ record,
    session.records[entry.2]? = some record ∧ record.localName = entry.1 ∧
      record.source = .external id ∧ record.owner = none

structure Sound (session : Session) : Prop where
  id_eq : ∀ id, id < session.modules.length → (session.module id).id = id
  modules : ∀ id, id < session.modules.length → session.SoundModule (session.module id)
  externals : ∀ id, id < session.externals.length → session.SoundExternal id
  entry : ∀ id, session.entry = some id → id < session.modules.length

theorem sound_new (options : BundleOptions) : (Session.new options).Sound where
  id_eq := fun id h => absurd h (Nat.not_lt_zero id)
  modules := fun id h => absurd h (Nat.not_lt_zero id)
  externals := fun id h => absurd h (Nat.not_lt_zero id)
  entry := fun _ h => absurd h nofun

theorem Sound.proper {session : Session} (h : session.Sound) (id : ModuleId)
    (hid : id < session.modules.length) : (session.module id).exports.Proper :=
  (h.modules id hid).exports.proper

/-! ## What growth keeps -/

namespace Grows

variable {before after : Session} (h : before.Grows after)
include h

theorem module_exports (id : ModuleId) (hid : id < before.modules.length) (name : String)
    (record : RecordId) (hentry : (before.module id).exports.get? name = some record) :
    (after.module id).exports.get? name = some record :=
  (h.module id hid).kept name record hentry

theorem valid (target : Target) (hvalid : before.Valid target) : after.Valid target := by
  cases target with
  | module id => exact Nat.lt_of_lt_of_le hvalid h.modules_length
  | external id => exact Nat.lt_of_lt_of_le hvalid h.externals_length

theorem isAggregate (module : ModuleId) (id : RecordId)
    (haggregate : before.IsAggregate module id) : after.IsAggregate module id := by
  obtain ⟨record, hrecord, hrest⟩ := haggregate
  exact ⟨record, h.record id record hrecord, hrest⟩

theorem isUnnamed (module : ModuleId) (id : RecordId) (hunnamed : before.IsUnnamed module id) :
    after.IsUnnamed module id := by
  obtain ⟨record, hrecord, hrest⟩ := hunnamed
  exact ⟨record, h.record id record hrecord, hrest⟩

theorem isBinding (module : Module) (id : BindingId) (declaration : Declaration)
    (hbinding : before.IsBinding module id declaration) :
    after.IsBinding module id declaration :=
  h.binding id _ hbinding

theorem bindingOf? (module : Module)
    (hbindings : ∀ binding ∈ module.bindings, binding < before.bindings.length) (id : Ident) :
    module.bindingOf? after id = module.bindingOf? before id := by
  refine List.find?_congr fun binding hmem => ?_
  have hbinding := List.getElem?_eq_getElem (hbindings binding hmem)
  rw [hbinding, h.binding binding _ hbinding]

theorem soundExternal (id : ExternalId) (hexternal : before.SoundExternal id)
    (heq : (after.external id).exports = (before.external id).exports) :
    after.SoundExternal id where
  proper := by
    rw [heq]
    exact hexternal.proper
  entries := fun entry hentry => by
    rw [heq] at hentry
    obtain ⟨record, hrecord, hrest⟩ := hexternal.entries entry hentry
    exact ⟨record, h.record _ record hrecord, hrest⟩

variable (hsound : before.Sound)
include hsound

theorem provides (id : RecordId) (record : ExportRecord)
    (hprovides : before.Provides id record) : after.Provides id record := by
  cases hprovides with
  | external external hsource howner hvalid hentry =>
    exact .external external hsource howner (Nat.lt_of_lt_of_le hvalid h.externals_length)
      ((h.external external hvalid).kept _ _ hentry)
  | declared module owner binding hsource howner hvalid hmember hbinding hkept hcounted hentry =>
    obtain ⟨name, hname⟩ :=
      Table.get?_of_mem_values _ (hsound.proper module hvalid) id hentry
    refine .declared module owner binding hsource howner
      (Nat.lt_of_lt_of_le hvalid h.modules_length) ?_ (h.binding owner binding hbinding) hkept
      hcounted (Table.value_mem_of_get? _ name id (h.module_exports module hvalid name id hname))
    rwa [(h.module module hvalid).bindings_eq]
  | unnamed module hsource howner hvalid hname hdefault =>
    refine .unnamed module hsource howner (Nat.lt_of_lt_of_le hvalid h.modules_length) hname ?_
    rwa [(h.module module hvalid).unnamedDefault_eq]
  | aggregate module hsource howner hvalid hname hentry =>
    exact .aggregate module hsource howner (Nat.lt_of_lt_of_le hvalid h.modules_length) hname
      (h.module_exports module hvalid _ _ hentry)

theorem supplies (target : Target) (id : RecordId) (hsupplies : before.Supplies target id) :
    after.Supplies target id := by
  obtain ⟨record, hrecord, hprovides, hsource⟩ := hsupplies
  refine ⟨record, h.record id record hrecord, h.provides hsound id record hprovides, ?_⟩
  cases target with
  | module module => exact fun source heq => h.reaches module source (hsource source heq)
  | external external => exact hsource

theorem soundImport (module : Module) (binding : ImportBinding)
    (himport : before.SoundImport module binding) : after.SoundImport module binding where
  target := himport.target
  references := himport.references
  resolved := fun record hrecord => h.supplies hsound _ record (himport.resolved record hrecord)

theorem soundExports (module : Module) (hexports : before.SoundExports module) :
    after.SoundExports module where
  proper := hexports.proper
  supplies := fun record hrecord => h.supplies hsound _ record (hexports.supplies record hrecord)
  aggregate := fun record hrecord =>
    (hexports.aggregate record hrecord).imp_left (h.isAggregate _ record)

end Grows

theorem SoundModule.bindings_valid {session : Session} {module : Module}
    (h : session.SoundModule module) (id : BindingId) (hid : id ∈ module.bindings) :
    ∃ declaration ∈ module.program.declarations, session.IsBinding module id declaration := by
  obtain ⟨i, hi, rfl⟩ := List.getElem_of_mem hid
  have hlength := h.bindings.length_eq
  exact ⟨module.program.declarations[i], List.getElem_mem _,
    (List.forall₂_iff_get.mp h.bindings).2 i hi (by omega)⟩

theorem SoundModule.bindings_lt {session : Session} {module : Module}
    (h : session.SoundModule module) (id : BindingId) (hid : id ∈ module.bindings) :
    id < session.bindings.length := by
  obtain ⟨declaration, -, hbinding⟩ := h.bindings_valid id hid
  exact (List.getElem?_eq_some_iff.mp hbinding).1

theorem LeavesUnnamed.grows {before after : Session} (h : before.Grows after) (module : Module)
    (hvalid : ∀ binding ∈ module.bindings, binding < before.bindings.length) (item : Item)
    (hleaves : before.LeavesUnnamed module item) : after.LeavesUnnamed module item := by
  have hfind := h.bindingOf? module hvalid
  cases item with
  | exportDefaultDecl decl span =>
    intro id hid
    rw [hfind]
    exact hleaves id hid
  | exportDefault value span =>
    cases value with
    | ident id =>
      simp only [LeavesUnnamed, hfind] at hleaves ⊢
      refine ⟨fun binding hbinding => ?_, hleaves.2⟩
      obtain ⟨found, hfound, hassigned⟩ := hleaves.1 binding hbinding
      exact ⟨found, h.binding binding found hfound, hassigned⟩
    | node form span' children => trivial
  | _ => exact hleaves

theorem SoundModule.grows {before after : Session} (hsound : before.Sound)
    (h : before.Grows after) (module module' : Module) (hmodule : before.SoundModule module)
    (hgrows : module.Grows module') (hexports : after.SoundExports module') :
    after.SoundModule module' := by
  have hid := hgrows.id_eq
  have hleaves : module'.unnamedDefault ≠ none →
      ∃ item ∈ module'.program.items, after.LeavesUnnamed module' item := by
    intro hdefault
    rw [hgrows.unnamedDefault_eq] at hdefault
    obtain ⟨item, hitem, hleaves⟩ := hmodule.leaves hdefault
    have hafter := LeavesUnnamed.grows h module hmodule.bindings_lt item hleaves
    rw [hgrows.same]
    exact ⟨item, hitem, hafter⟩
  refine ⟨?_, ?_, ?_, ?_, ?_, ?_, ?_, hexports, ?_, hleaves⟩
  · rw [hgrows.uses_eq, hgrows.program_eq]
    exact hmodule.uses_eq
  · rw [hgrows.moduleDependencies_eq, hid]
    exact hmodule.dependencies
  · rw [hgrows.bindings_eq]
    exact hmodule.bindings_nodup
  · rw [hgrows.bindings_eq, hgrows.program_eq]
    refine hmodule.bindings.imp fun id declaration hbinding => ?_
    have := h.isBinding module id declaration hbinding
    rwa [IsBinding, ← hgrows.id_eq, ← hgrows.uses_eq] at this
  · rw [hgrows.imports_eq]
    intro binding hbinding
    have := h.soundImport hsound module binding (hmodule.imports binding hbinding)
    refine ⟨?_, ?_, this.resolved⟩
    · rw [hgrows.dependencyTargets_eq]
      exact this.target
    · rw [hgrows.uses_eq]
      exact this.references
  · rw [hgrows.imports_eq, hgrows.program_eq]
    exact hmodule.imported
  · rw [hgrows.stars_eq]
    exact fun star hstar => Nat.lt_of_lt_of_le (hmodule.stars star hstar) h.externals_length
  · rw [hgrows.unnamedDefault_eq, hid]
    exact fun record hrecord => h.isUnnamed _ record (hmodule.unnamed record hrecord)

theorem Sound.grows {before after : Session} (hsound : before.Sound) (h : before.Grows after)
    (hlength : after.modules.length = before.modules.length)
    (hexports : ∀ id, id < before.modules.length → after.SoundExports (after.module id))
    (hexternals : ∀ id, id < after.externals.length → after.SoundExternal id)
    (hentry : after.entry = before.entry) : after.Sound where
  id_eq := fun id hid => by
    rw [hlength] at hid
    rw [(h.module id hid).id_eq]
    exact hsound.id_eq id hid
  modules := fun id hid => by
    rw [hlength] at hid
    exact SoundModule.grows hsound h _ _ (hsound.modules id hid) (h.module id hid)
      (hexports id hid)
  externals := hexternals
  entry := fun id hid => by
    rw [hlength]
    exact hsound.entry id (hentry ▸ hid)

theorem Sound.of_same {before after : Session} (hsound : before.Sound)
    (hmodules : after.modules = before.modules) (hexternals : after.externals = before.externals)
    (hrecords : before.records <+: after.records)
    (hbindings : before.bindings <+: after.bindings)
    (hentry : after.entry = before.entry) : after.Sound := by
  have h := Grows.of_same hmodules hexternals hrecords hbindings
  have hmodule : ∀ id, after.module id = before.module id := fun id => by
    simp [Session.module, hmodules]
  have hexternal : ∀ id, after.external id = before.external id := fun id => by
    simp [Session.external, hexternals]
  refine hsound.grows h (by rw [hmodules]) (fun id hid => ?_) (fun id hid => ?_) hentry
  · rw [hmodule]
    exact h.soundExports hsound _ (hsound.modules id hid).exports
  · rw [hexternals] at hid
    exact h.soundExternal id (hsound.externals id hid) (by rw [hexternal])

end Session

end ScopeHoist
