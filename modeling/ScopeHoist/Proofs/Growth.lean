import Mathlib.Logic.Relation
import ScopeHoist.Graph.Order
import ScopeHoist.Proofs.Table

/-!
# Sessions grow

While a graph is built nothing is taken back: lists get longer at their end, and of what is stored
only the export tables and the lists of dependents change, by entries that were not there. What
holds of a record or a module in a session therefore holds in every later one.
-/

set_option autoImplicit false

namespace ScopeHoist

theorem getElem?_of_isPrefix {α : Type} (short long : List α) (h : short <+: long) (i : Nat)
    (value : α) (hvalue : short[i]? = some value) : long[i]? = some value := by
  obtain ⟨rest, rfl⟩ := h
  obtain ⟨hi, rfl⟩ := List.getElem?_eq_some_iff.mp hvalue
  rw [List.getElem?_append_left hi, List.getElem?_eq_getElem hi]

/-! ## Fields after a change -/

namespace Session

variable (session : Session)

theorem module_of_length_le (id : ModuleId) (h : session.modules.length ≤ id) :
    session.module id = .blank := by
  simp [module, List.getElem?_eq_none h]

theorem module_getElem (id : ModuleId) (hid : id < session.modules.length) :
    session.module id = session.modules[id] := by
  simp [module, List.getElem?_eq_getElem hid]

theorem external_getElem (id : ExternalId) (hid : id < session.externals.length) :
    session.external id = session.externals[id] := by
  simp [external, List.getElem?_eq_getElem hid]

theorem module_setModule (id : ModuleId) (change : Module → Module) (other : ModuleId) :
    (session.setModule id change).module other =
      if other = id ∧ id < session.modules.length then change (session.module id)
      else session.module other := by
  unfold module setModule
  simp only [List.getD_eq_getElem?_getD, List.getElem?_modify]
  by_cases h : id = other
  · subst h
    by_cases hlt : id < session.modules.length
    · simp [hlt]
    · simp [hlt]
  · have hne : other ≠ id := fun heq => h heq.symm
    cases session.modules[other]? <;> simp [h, hne]

theorem external_setExternal (id : ExternalId) (change : External → External)
    (other : ExternalId) :
    (session.setExternal id change).external other =
      if other = id ∧ id < session.externals.length then change (session.external id)
      else session.external other := by
  unfold external setExternal
  simp only [List.getD_eq_getElem?_getD, List.getElem?_modify]
  by_cases h : id = other
  · subst h
    by_cases hlt : id < session.externals.length
    · simp [hlt]
    · simp [hlt]
  · have hne : other ≠ id := fun heq => h heq.symm
    cases session.externals[other]? <;> simp [h, hne]

@[simp] theorem setModule_length (id : ModuleId) (change : Module → Module) :
    (session.setModule id change).modules.length = session.modules.length := by
  simp [setModule]

@[simp] theorem setExternal_length (id : ExternalId) (change : External → External) :
    (session.setExternal id change).externals.length = session.externals.length := by
  simp [setExternal]

theorem module_store (module : Module) (id : ModuleId) :
    (session.store module).module id =
      if id = session.modules.length then module else session.module id := by
  simp only [Session.module, store, List.getD_eq_getElem?_getD]
  rcases Nat.lt_trichotomy id session.modules.length with h | h | h
  · rw [List.getElem?_append_left h, if_neg (Nat.ne_of_lt h)]
  · subst h
    simp
  · rw [if_neg (Nat.ne_of_gt h), List.getElem?_eq_none (by simp; omega),
      List.getElem?_eq_none (by omega)]

@[simp] theorem store_length (module : Module) :
    (session.store module).modules.length = session.modules.length + 1 := by
  simp [store]

end Session

/-! ## Growth -/

structure Module.Grows (before after : Module) : Prop where
  same : after = { before with exports := after.exports, dependents := after.dependents }
  kept : ∀ name record, before.exports.get? name = some record →
    after.exports.get? name = some record

structure External.Grows (before after : External) : Prop where
  specifier : after.specifier = before.specifier
  kept : ∀ name record, before.exports.get? name = some record →
    after.exports.get? name = some record

structure Session.Grows (before after : Session) : Prop where
  modules_length : before.modules.length ≤ after.modules.length
  module : ∀ id, id < before.modules.length → (before.module id).Grows (after.module id)
  externals_length : before.externals.length ≤ after.externals.length
  external : ∀ id, id < before.externals.length → (before.external id).Grows (after.external id)
  records : before.records <+: after.records
  bindings : before.bindings <+: after.bindings

namespace Module.Grows

theorem refl (module : Module) : module.Grows module := ⟨rfl, fun _ _ h => h⟩

theorem trans {first second third : Module} (h : first.Grows second) (h' : second.Grows third) :
    first.Grows third := by
  refine ⟨?_, fun name record hfound => h'.kept name record (h.kept name record hfound)⟩
  have hsecond := h.same
  have hthird := h'.same
  rw [hsecond] at hthird
  exact hthird

variable {before after : Module} (h : before.Grows after)
include h

theorem id_eq : after.id = before.id := by rw [h.same]

theorem program_eq : after.program = before.program := by rw [h.same]

theorem dependencies_eq : after.dependencies = before.dependencies := by rw [h.same]

theorem bindings_eq : after.bindings = before.bindings := by rw [h.same]

theorem imports_eq : after.imports = before.imports := by rw [h.same]

theorem stars_eq : after.stars = before.stars := by rw [h.same]

theorem unnamedDefault_eq : after.unnamedDefault = before.unnamedDefault := by rw [h.same]

theorem uses_eq : after.uses = before.uses := by rw [h.same]

theorem isEntry_eq : after.isEntry = before.isEntry := by rw [h.same]

theorem dependencyTargets_eq : after.dependencyTargets = before.dependencyTargets := by
  rw [Module.dependencyTargets, h.dependencies_eq]
  rfl

theorem moduleDependencies_eq : after.moduleDependencies = before.moduleDependencies := by
  rw [Module.moduleDependencies, h.dependencyTargets_eq]
  rfl

end Module.Grows

namespace External.Grows

theorem refl (external : External) : external.Grows external := ⟨rfl, fun _ _ h => h⟩

theorem trans {first second third : External} (h : first.Grows second)
    (h' : second.Grows third) : first.Grows third :=
  ⟨h'.specifier.trans h.specifier,
    fun name record hfound => h'.kept name record (h.kept name record hfound)⟩

end External.Grows

namespace Session.Grows

theorem refl (session : Session) : session.Grows session where
  modules_length := Nat.le_refl _
  module := fun id _ => .refl (session.module id)
  externals_length := Nat.le_refl _
  external := fun id _ => .refl (session.external id)
  records := List.prefix_rfl
  bindings := List.prefix_rfl

theorem trans {first second third : Session} (h : first.Grows second) (h' : second.Grows third) :
    first.Grows third where
  modules_length := Nat.le_trans h.modules_length h'.modules_length
  module := fun id hid =>
    (h.module id hid).trans (h'.module id (Nat.lt_of_lt_of_le hid h.modules_length))
  externals_length := Nat.le_trans h.externals_length h'.externals_length
  external := fun id hid =>
    (h.external id hid).trans (h'.external id (Nat.lt_of_lt_of_le hid h.externals_length))
  records := h.records.trans h'.records
  bindings := h.bindings.trans h'.bindings

theorem of_same {before after : Session} (hmodules : after.modules = before.modules)
    (hexternals : after.externals = before.externals) (hrecords : before.records <+: after.records)
    (hbindings : before.bindings <+: after.bindings) : before.Grows after where
  modules_length := Nat.le_of_eq (by rw [hmodules])
  module := fun id _ => by
    have : after.module id = before.module id := by simp [Session.module, hmodules]
    rw [this]
    exact .refl _
  externals_length := Nat.le_of_eq (by rw [hexternals])
  external := fun id _ => by
    have : after.external id = before.external id := by simp [Session.external, hexternals]
    rw [this]
    exact .refl _
  records := hrecords
  bindings := hbindings

theorem setModule (session : Session) (id : ModuleId) (change : Module → Module)
    (h : (session.module id).Grows (change (session.module id))) :
    session.Grows (session.setModule id change) where
  modules_length := by simp
  module := fun other _ => by
    rw [module_setModule]
    split
    · rename_i hother
      rw [hother.1]
      exact h
    · exact .refl _
  externals_length := Nat.le_refl _
  external := fun other _ => .refl _
  records := List.prefix_rfl
  bindings := List.prefix_rfl

theorem setExternal (session : Session) (id : ExternalId) (change : External → External)
    (h : (session.external id).Grows (change (session.external id))) :
    session.Grows (session.setExternal id change) where
  modules_length := Nat.le_refl _
  module := fun other _ => .refl _
  externals_length := by simp
  external := fun other _ => by
    rw [external_setExternal]
    split
    · rename_i hother
      rw [hother.1]
      exact h
    · exact .refl _
  records := List.prefix_rfl
  bindings := List.prefix_rfl

theorem store (session : Session) (module : Module) : session.Grows (session.store module) where
  modules_length := by simp
  module := fun id hid => by
    rw [module_store, if_neg (Nat.ne_of_lt hid)]
    exact .refl _
  externals_length := Nat.le_refl _
  external := fun _ _ => .refl _
  records := List.prefix_rfl
  bindings := List.prefix_rfl

variable {before after : Session} (h : before.Grows after)
include h

theorem record (id : RecordId) (record : ExportRecord)
    (hrecord : before.records[id]? = some record) :
    after.records[id]? = some record :=
  getElem?_of_isPrefix _ _ h.records id record hrecord

theorem binding (id : BindingId) (binding : Binding)
    (hbinding : before.bindings[id]? = some binding) : after.bindings[id]? = some binding :=
  getElem?_of_isPrefix _ _ h.bindings id binding hbinding

end Session.Grows

/-! ## Reaching modules -/

theorem mem_moduleDependencies (module : Module) (id : ModuleId) :
    id ∈ module.moduleDependencies ↔ .module id ∈ module.dependencyTargets := by
  simp only [Module.moduleDependencies, moduleTargets, List.mem_eraseDups, List.mem_filterMap]
  refine ⟨fun ⟨target, htarget, heq⟩ => ?_, fun h => ⟨_, h, rfl⟩⟩
  cases target with
  | external external => exact absurd heq nofun
  | module other => exact Option.some.inj heq ▸ htarget

theorem not_mem_dependencies_of_length_le (session : Session) (id : ModuleId)
    (h : session.modules.length ≤ id) (dependency : ModuleId) :
    dependency ∉ (session.module id).moduleDependencies := by
  rw [session.module_of_length_le id h, mem_moduleDependencies]
  exact List.not_mem_nil

/-- A module is another one or depends on it, directly or not. -/
def Session.Reaches (session : Session) : ModuleId → ModuleId → Prop :=
  Relation.ReflTransGen fun first second => second ∈ (session.module first).moduleDependencies

theorem Session.Grows.reaches {before after : Session} (h : before.Grows after)
    (first second : ModuleId) (hreaches : before.Reaches first second) :
    after.Reaches first second := by
  refine Relation.ReflTransGen.mono (fun id dependency hdependency => ?_) first second hreaches
  by_cases hid : id < before.modules.length
  · rwa [(h.module id hid).moduleDependencies_eq]
  · exact absurd hdependency
      (not_mem_dependencies_of_length_le before id (Nat.le_of_not_lt hid) dependency)

end ScopeHoist
