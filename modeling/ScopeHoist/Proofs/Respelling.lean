import ScopeHoist.Link.Names
import ScopeHoist.Proofs.Linkable

/-!
# New names for what there is

Whatever gets a name of its own holds it: a declaration that is left, or a record whose value has no
declaration. Giving out names changes nothing else, so a session that can be linked still can.
-/

set_option autoImplicit false

namespace ScopeHoist

def Binding.nameless (binding : Binding) : Binding := { binding with name := "" }

def ExportRecord.nameless (record : ExportRecord) : ExportRecord :=
  { record with identifier := "" }

inductive Holder where
  | binding (id : BindingId)
  | value (id : RecordId)
  deriving DecidableEq

namespace Session

def nameOf (session : Session) : Holder → String
  | .binding id => ((session.bindings[id]?).map Binding.name).getD ""
  | .value id => session.identifier id

def give (session : Session) (name : String) : Holder → Session
  | .binding id => session.setBinding id fun binding => { binding with name }
  | .value id => session.setRecord id fun record => { record with identifier := name }

def Alive (session : Session) (id : BindingId) : Prop :=
  ∃ binding, session.bindings[id]? = some binding ∧ binding.removed = false

def CanHold (session : Session) : Holder → Prop
  | .binding id => session.Alive id
  | .value id => ∃ record, session.records[id]? = some record ∧ record.owner = none

theorem canHold_outer (session : Session)
    (h : ∀ external, external < session.externals.length → session.SoundExternal external)
    (id : RecordId)
    (hid : id ∈ session.externals.flatMap fun external => external.exports.values) :
    session.CanHold (.value id) := by
  obtain ⟨external, hexternal, hid⟩ := List.mem_flatMap.mp hid
  obtain ⟨i, hi, rfl⟩ := session.external_of_mem hexternal
  obtain ⟨entry, hentry, rfl⟩ := List.mem_map.mp hid
  obtain ⟨record, hrecord, -, -, howner⟩ := (h i hi).entries entry hentry
  exact ⟨record, hrecord, howner⟩

/-- Two sessions that differ only in names and in what was noted down. -/
structure Respelled (before after : Session) : Prop where
  modules : after.modules = before.modules
  externals : after.externals = before.externals
  binding : ∀ id : BindingId,
    (after.bindings[id]?).map Binding.nameless = (before.bindings[id]?).map Binding.nameless
  record : ∀ id : RecordId,
    (after.records[id]?).map ExportRecord.nameless = (before.records[id]?).map ExportRecord.nameless

theorem Respelled.refl (session : Session) : session.Respelled session :=
  ⟨rfl, rfl, fun _ => rfl, fun _ => rfl⟩

theorem getElem?_modify_map {α β : Type} (values : List α) (i j : Nat) (change : α → α) (f : α → β)
    (h : ∀ value, f (change value) = f value) :
    ((values.modify i change)[j]?).map f = (values[j]?).map f := by
  rw [List.getElem?_modify]
  cases values[j]? with
  | none => rfl
  | some value =>
    by_cases hij : i = j <;> simp [hij, h]

namespace Respelled

variable {before after : Session} (h : before.Respelled after)
include h

theorem setBinding (id : BindingId) (name : String) :
    before.Respelled (after.setBinding id fun binding => { binding with name }) :=
  ⟨h.modules, h.externals, fun other =>
    (getElem?_modify_map after.bindings id other _ Binding.nameless (by exact fun _ => rfl)).trans
      (h.binding other), h.record⟩

theorem setRecord (id : RecordId) (name : String) :
    before.Respelled (after.setRecord id fun record => { record with identifier := name }) :=
  ⟨h.modules, h.externals, h.binding, fun other =>
    (getElem?_modify_map after.records id other _ ExportRecord.nameless
      (by exact fun _ => rfl)).trans (h.record other)⟩

theorem give (name : String) (holder : Holder) : before.Respelled (after.give name holder) := by
  cases holder with
  | binding id => exact h.setBinding id name
  | value id => exact h.setRecord id name

theorem module (id : ModuleId) : after.module id = before.module id := by
  rw [Session.module, Session.module, h.modules]

theorem external (id : ExternalId) : after.external id = before.external id := by
  rw [Session.external, Session.external, h.externals]

theorem exists_binding (id : BindingId) (binding : Binding)
    (hbinding : before.bindings[id]? = some binding) :
    ∃ name, after.bindings[id]? = some { binding with name } := by
  have heq := h.binding id
  rw [hbinding] at heq
  obtain ⟨found, hfound, hsame⟩ := Option.map_eq_some_iff.mp heq
  refine ⟨found.name, hfound.trans (congrArg some ?_)⟩
  simp only [Binding.nameless, Binding.mk.injEq] at hsame
  obtain ⟨hdeclaration, -, hmodule, husage, hremoved⟩ := hsame
  rw [← hdeclaration, ← hmodule, ← husage, ← hremoved]

theorem exists_record (id : RecordId) (record : ExportRecord)
    (hrecord : before.records[id]? = some record) :
    ∃ identifier, after.records[id]? = some { record with identifier } := by
  have heq := h.record id
  rw [hrecord] at heq
  obtain ⟨found, hfound, hsame⟩ := Option.map_eq_some_iff.mp heq
  refine ⟨found.identifier, hfound.trans (congrArg some ?_)⟩
  simp only [ExportRecord.nameless, ExportRecord.mk.injEq] at hsame
  obtain ⟨hlocal, -, hsource, howner, hfrom⟩ := hsame
  rw [← hlocal, ← hsource, ← howner, ← hfrom]

theorem symm : after.Respelled before :=
  ⟨h.modules.symm, h.externals.symm, fun id => (h.binding id).symm, fun id => (h.record id).symm⟩

end Respelled

theorem Respelled.canHold {before after : Session} (h : before.Respelled after) (holder : Holder)
    (hcan : before.CanHold holder) : after.CanHold holder := by
  cases holder with
  | binding id =>
    obtain ⟨binding, hbinding, hremoved⟩ := hcan
    obtain ⟨name, hafter⟩ := h.exists_binding id binding hbinding
    exact ⟨_, hafter, hremoved⟩
  | value id =>
    obtain ⟨record, hrecord, howner⟩ := hcan
    obtain ⟨identifier, hafter⟩ := h.exists_record id record hrecord
    exact ⟨_, hafter, howner⟩

/-! ## Linkable sessions with names -/

namespace Respelled

variable {before after : Session} (h : before.Respelled after)
include h

theorem identity (id : BindingId) : (after.bindings[id]?).map Binding.identity =
    (before.bindings[id]?).map Binding.identity := by
  have hsame := congrArg (Option.map Binding.identity) (h.binding id)
  rw [Option.map_map, Option.map_map] at hsame
  exact hsame

theorem reaches (first second : ModuleId) :
    after.Reaches first second ↔ before.Reaches first second := by
  unfold Reaches
  simp only [h.module]

theorem isAggregate (module : ModuleId) (id : RecordId)
    (haggregate : before.IsAggregate module id) :
    after.IsAggregate module id := by
  obtain ⟨record, hrecord, hrest⟩ := haggregate
  obtain ⟨identifier, hafter⟩ := h.exists_record id record hrecord
  exact ⟨_, hafter, hrest⟩

theorem isUnnamed (module : ModuleId) (id : RecordId) (hunnamed : before.IsUnnamed module id) :
    after.IsUnnamed module id := by
  obtain ⟨record, hrecord, hrest⟩ := hunnamed
  obtain ⟨identifier, hafter⟩ := h.exists_record id record hrecord
  exact ⟨_, hafter, hrest⟩

theorem provides (id : RecordId) (record : ExportRecord) (identifier : String)
    (hprovides : before.Provides id record) : after.Provides id { record with identifier } := by
  cases hprovides with
  | external external hsource howner hvalid hentry =>
    exact .external external hsource howner (h.externals ▸ hvalid)
      (by rw [h.external]; exact hentry)
  | declared module owner binding hsource howner hvalid hmember hbinding hkept hcounted hentry =>
    obtain ⟨name, hafter⟩ := h.exists_binding owner binding hbinding
    exact .declared module owner _ hsource howner (h.modules ▸ hvalid)
      (by rw [h.module]; exact hmember) hafter hkept hcounted (by rw [h.module]; exact hentry)
  | unnamed module hsource howner hvalid hname hdefault =>
    exact .unnamed module hsource howner (h.modules ▸ hvalid) hname
      (by rw [h.module]; exact hdefault)
  | aggregate module hsource howner hvalid hname hentry =>
    exact .aggregate module hsource howner (h.modules ▸ hvalid) hname
      (by rw [h.module]; exact hentry)

theorem supplies (target : Target) (id : RecordId) (hsupplies : before.Supplies target id) :
    after.Supplies target id := by
  obtain ⟨record, hrecord, hprovides, hsource⟩ := hsupplies
  obtain ⟨identifier, hafter⟩ := h.exists_record id record hrecord
  refine ⟨_, hafter, h.provides id record identifier hprovides, ?_⟩
  cases target with
  | module module => exact fun source heq => (h.reaches module source).mpr (hsource source heq)
  | external external => exact hsource

theorem soundExternal (id : ExternalId) (hexternal : before.SoundExternal id) :
    after.SoundExternal id := by
  refine ⟨by rw [h.external]; exact hexternal.proper, fun entry hentry => ?_⟩
  rw [h.external] at hentry
  obtain ⟨record, hrecord, hrest⟩ := hexternal.entries entry hentry
  obtain ⟨identifier, hafter⟩ := h.exists_record entry.2 record hrecord
  exact ⟨_, hafter, hrest⟩

theorem linkable (source : Session) (order : List ModuleId)
    (hlinkable : Linkable source before order) : Linkable source after order := by
  constructor
  · refine ⟨hlinkable.order.nodup, fun id hid => ?_, fun id hid other hreaches => ?_⟩
    · rw [h.modules]
      exact hlinkable.order.valid id hid
    · exact hlinkable.order.reached id hid other ((h.reaches id other).mp hreaches)
  all_goals
    simp only [h.modules, h.externals, h.module, h.identity]
  · exact hlinkable.bindings_nodup
  · exact hlinkable.bindings_apart
  · intro id hid binding hbinding
    obtain ⟨found, hfound⟩ := hlinkable.bindings_valid id hid binding hbinding
    obtain ⟨name, hafter⟩ := h.exists_binding binding found hfound
    exact ⟨_, hafter⟩
  · exact hlinkable.bindings_unique
  · exact hlinkable.proper
  · exact fun id hid record hrecord =>
      h.supplies _ record (hlinkable.supplies id hid record hrecord)
  · intro id hid binding hbinding hlive record hresolved
    exact (hlinkable.imports id hid binding hbinding hlive record hresolved).imp_left
      (h.supplies _ record)
  · exact fun id hid record hrecord =>
      (hlinkable.aggregate id hid record hrecord).imp_left (h.isAggregate id record)
  · exact hlinkable.declared
  · exact fun id hid record hrecord =>
      h.isUnnamed id record (hlinkable.unnamed id hid record hrecord)
  · exact hlinkable.stars
  · exact fun id hid => h.soundExternal id (hlinkable.externals id hid)

end Respelled

end Session

end ScopeHoist
