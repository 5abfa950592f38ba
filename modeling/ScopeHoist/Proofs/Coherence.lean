import ScopeHoist.Proofs.Editing
import ScopeHoist.Proofs.Reach

/-!
# Coherent sessions

The web of numbers that a session is made of: modules and externals are found under their paths and
specifiers, dependents mirror dependencies, every number leads somewhere, and what stands behind a
record is what the record says. A finished module fits into the web of a coherent session.
-/

set_option autoImplicit false

namespace ScopeHoist

namespace Session

structure Coherent (session : Session) : Prop where
  id_eq : ∀ id, id < session.modules.length → (session.module id).id = id
  /-- A path leads to the one module that has it, and so do all numbers of modules. -/
  paths : ∀ path id, session.moduleAt? path = some id ↔
    id < session.modules.length ∧ (session.module id).path = path
  specifiers : ∀ specifier id, session.externalNamed? specifier = some id ↔
    id < session.externals.length ∧ (session.external id).specifier = specifier
  /-- What a module depends on was there before the module. -/
  dependencies : ∀ id, id < session.modules.length →
    ∀ target ∈ (session.module id).dependencyTargets, session.Valid target ∧
      ∀ dependency, target = .module dependency → dependency < id
  dependents : ∀ id dependent, dependent ∈ (session.module id).dependents ↔
    dependent < session.modules.length ∧
      .module id ∈ (session.module dependent).dependencyTargets
  importers : ∀ id dependent, dependent ∈ (session.external id).dependents ↔
    dependent < session.modules.length ∧
      .external id ∈ (session.module dependent).dependencyTargets
  entry : ∀ id, session.entry = some id → id < session.modules.length
  bindings : ∀ id, id < session.modules.length → ∀ binding ∈ (session.module id).bindings,
    ∃ found, session.bindings[binding]? = some found ∧ found.module = id
  imports : ∀ id, id < session.modules.length → ∀ binding ∈ (session.module id).imports,
    binding.target ∈ (session.module id).dependencyTargets ∧
      ∀ record, binding.resolved = some record → record < session.records.length
  unnamed : ∀ id, id < session.modules.length → ∀ record,
    (session.module id).unnamedDefault = some record → record < session.records.length
  placed : session.Placed session.modules.length
  grounded : session.Grounded

/-- What the web asks of a module with some number: it knows its number, depends on what was there
before it, and all that it refers to is there. -/
structure Fits (session : Session) (id : ModuleId) (module : Module) : Prop where
  id_eq : module.id = id
  dependencies : ∀ target ∈ module.dependencyTargets, session.Valid target ∧
    ∀ dependency, target = .module dependency → dependency < id
  bindings : ∀ binding ∈ module.bindings,
    ∃ found, session.bindings[binding]? = some found ∧ found.module = id
  imports : ∀ binding ∈ module.imports, binding.target ∈ module.dependencyTargets ∧
    ∀ record, binding.resolved = some record → record < session.records.length
  unnamed : ∀ record, module.unnamedDefault = some record → record < session.records.length

theorem Coherent.fits {session : Session} (h : session.Coherent) (id : ModuleId)
    (hid : id < session.modules.length) : session.Fits id (session.module id) :=
  ⟨h.id_eq id hid, h.dependencies id hid, h.bindings id hid, h.imports id hid, h.unnamed id hid⟩

theorem Fits.grows {before after : Session} {id : ModuleId} {module module' : Module}
    (h : before.Fits id module) (hgrows : before.Grows after) (hmodule : module.Grows module') :
    after.Fits id module' := by
  have hrecords := hgrows.records.length_le
  constructor
  · rw [hmodule.id_eq, h.id_eq]
  · intro target htarget
    rw [hmodule.dependencyTargets_eq] at htarget
    obtain ⟨hvalid, hbelow⟩ := h.dependencies target htarget
    exact ⟨hgrows.valid target hvalid, hbelow⟩
  · intro binding hbinding
    rw [hmodule.bindings_eq] at hbinding
    obtain ⟨found, hfound, hplace⟩ := h.bindings binding hbinding
    exact ⟨found, hgrows.binding binding found hfound, hplace⟩
  · intro binding hbinding
    rw [hmodule.imports_eq] at hbinding
    rw [hmodule.dependencyTargets_eq]
    obtain ⟨htarget, hrecord⟩ := h.imports binding hbinding
    exact ⟨htarget, fun record heq => Nat.lt_of_lt_of_le (hrecord record heq) hrecords⟩
  · intro record hrecord
    rw [hmodule.unnamedDefault_eq] at hrecord
    exact Nat.lt_of_lt_of_le (h.unnamed record hrecord) hrecords

/-! ## Lookups by path and by specifier -/

theorem pathsDistinct_iff (session : Session) :
    session.PathsDistinct ↔ ∀ path id, session.moduleAt? path = some id ↔
      id < session.modules.length ∧ (session.module id).path = path :=
  findIdx?_key_iff Module.path session.modules session.module session.module_getElem

theorem specifiersDistinct_iff (session : Session) :
    session.SpecifiersDistinct ↔ ∀ specifier id, session.externalNamed? specifier = some id ↔
      id < session.externals.length ∧ (session.external id).specifier = specifier :=
  findIdx?_key_iff External.specifier session.externals session.external session.external_getElem

theorem coherent_new (options : BundleOptions) : (Session.new options).Coherent where
  id_eq := fun id hid => absurd hid (Nat.not_lt_zero id)
  paths := (pathsDistinct_iff _).mp fun first hfirst => absurd hfirst (Nat.not_lt_zero first)
  specifiers := (specifiersDistinct_iff _).mp fun first hfirst =>
    absurd hfirst (Nat.not_lt_zero first)
  dependencies := fun id hid => absurd hid (Nat.not_lt_zero id)
  dependents := fun id dependent => by
    constructor
    · exact fun hmem => absurd hmem List.not_mem_nil
    · exact fun h => absurd h.1 (Nat.not_lt_zero dependent)
  importers := fun id dependent => by
    constructor
    · exact fun hmem => absurd hmem List.not_mem_nil
    · exact fun h => absurd h.1 (Nat.not_lt_zero dependent)
  entry := fun _ h => absurd h nofun
  bindings := fun id hid => absurd hid (Nat.not_lt_zero id)
  imports := fun id hid => absurd hid (Nat.not_lt_zero id)
  unnamed := fun id hid => absurd hid (Nat.not_lt_zero id)
  placed := ⟨nofun, nofun, nofun, nofun⟩
  grounded :=
    { proper := fun id hid => absurd hid (Nat.not_lt_zero id)
      stars := fun id hid => absurd hid (Nat.not_lt_zero id)
      externals := fun id hid => absurd hid (Nat.not_lt_zero id)
      exports := fun id hid => absurd hid (Nat.not_lt_zero id)
      imports := fun id hid => absurd hid (Nat.not_lt_zero id) }

theorem Offers.lt {session : Session} {target : Target} {record : RecordId}
    (h : session.Offers target record) : record < session.records.length := by
  obtain ⟨found, hfound, -⟩ := h
  exact (List.getElem?_eq_some_iff.mp hfound).1

theorem Coherent.of_same {before after : Session} (h : before.Coherent)
    (hmodules : after.modules = before.modules) (hexternals : after.externals = before.externals)
    (hrecords : after.records = before.records) (hbindings : after.bindings = before.bindings)
    (hentry : after.entry = before.entry) : after.Coherent := by
  have hgrows : before.Grows after := .of_same hmodules hexternals (hrecords ▸ List.prefix_rfl)
    (hbindings ▸ List.prefix_rfl)
  have hgrounded := h.grounded.of_same hgrows hmodules hexternals
  obtain ⟨options, modules, externals, records, bindings, entry, warnings, journal, comments,
    offset⟩ := after
  cases hmodules
  cases hexternals
  cases hrecords
  cases hbindings
  cases hentry
  exact ⟨h.id_eq, h.paths, h.specifiers, h.dependencies, h.dependents, h.importers, h.entry,
    h.bindings, h.imports, h.unnamed, h.placed.of_same rfl rfl rfl, hgrounded⟩

/-! ## New externals -/

theorem Grounded.addExternal {session : Session} (h : session.Grounded) (specifier : String) :
    (session.addExternal specifier).Grounded := by
  have hgrows := Grows.addExternal session specifier
  have hexternal := session.external_addExternal specifier
  refine h.grows hgrows rfl h.proper (fun _ _ _ hrecord => .inl hrecord) fun id hid => ?_
  rw [session.addExternal_length] at hid
  rcases Nat.lt_succ_iff_lt_or_eq.mp hid with hlt | rfl
  · exact hgrows.soundExternal id (h.externals id hlt) (by
      rw [hexternal, if_neg (Nat.ne_of_lt hlt)])
  · have hself := hexternal session.externals.length
    rw [if_pos rfl] at hself
    exact ⟨by rw [hself]; exact Table.proper_nil, by simp [hself]⟩

theorem Coherent.addExternal {session : Session} (h : session.Coherent) (specifier : String)
    (hnew : session.externalNamed? specifier = none) :
    (session.addExternal specifier).Coherent := by
  have hgrows := Grows.addExternal session specifier
  have hlength := session.addExternal_length specifier
  have hexternal := session.external_addExternal specifier
  refine ⟨h.id_eq, h.paths,
    (specifiersDistinct_iff _).mp (((specifiersDistinct_iff _).mpr h.specifiers).addExternal hnew),
    fun id hid target htarget => ?_, h.dependents, fun id dependent => ?_, h.entry, h.bindings,
    h.imports, h.unnamed, ⟨h.placed.source, fun record hrecord external heq => ?_, h.placed.owner,
      h.placed.module⟩, h.grounded.addExternal specifier⟩
  · obtain ⟨hvalid, hbelow⟩ := h.dependencies id hid target htarget
    exact ⟨hgrows.valid target hvalid, hbelow⟩
  · rw [hexternal]
    split
    · -- nothing depends on an external that was not there
      rename_i hid
      constructor
      · exact fun hmem => absurd hmem List.not_mem_nil
      · rintro ⟨hdependent, htarget⟩
        have hvalid := (h.dependencies dependent hdependent _ htarget).1
        exact absurd (hid ▸ hvalid) (Nat.lt_irrefl _)
    · exact h.importers id dependent
  · rw [hlength]
    exact Nat.lt_succ_of_lt (h.placed.external record hrecord external heq)

/-! ## Dependents -/

/-- What becomes of a session when a module tells its targets that it depends on them. -/
structure Announces (id : ModuleId) (targets : List Target) (before after : Session) : Prop where
  grows : before.Grows after
  length : after.modules.length = before.modules.length
  outside : after.externals.length = before.externals.length
  records : after.records = before.records
  bindings : after.bindings = before.bindings
  entry : after.entry = before.entry
  options : after.options = before.options
  warnings : after.warnings = before.warnings
  exports : ∀ other, (after.module other).exports = (before.module other).exports
  table : ∀ other, (after.external other).exports = (before.external other).exports
  dependents : ∀ other dependent, dependent ∈ (after.module other).dependents ↔
    dependent ∈ (before.module other).dependents ∨ (dependent = id ∧ .module other ∈ targets)
  importers : ∀ other dependent, dependent ∈ (after.external other).dependents ↔
    dependent ∈ (before.external other).dependents ∨ (dependent = id ∧ .external other ∈ targets)

theorem Announces.refl (id : ModuleId) (session : Session) : session.Announces id [] session where
  grows := .refl session
  length := rfl
  outside := rfl
  records := rfl
  bindings := rfl
  entry := rfl
  options := rfl
  warnings := rfl
  exports := fun _ => rfl
  table := fun _ => rfl
  dependents := by simp
  importers := by simp

theorem Announces.trans {first second third : Session} {id : ModuleId}
    {targets others : List Target} (h : first.Announces id targets second)
    (h' : second.Announces id others third) :
    first.Announces id (targets ++ others) third where
  grows := h.grows.trans h'.grows
  length := h'.length.trans h.length
  outside := h'.outside.trans h.outside
  records := h'.records.trans h.records
  bindings := h'.bindings.trans h.bindings
  entry := h'.entry.trans h.entry
  options := h'.options.trans h.options
  warnings := h'.warnings.trans h.warnings
  exports := fun other => (h'.exports other).trans (h.exports other)
  table := fun other => (h'.table other).trans (h.table other)
  dependents := fun other dependent => by
    rw [h'.dependents, h.dependents, List.mem_append, and_or_left, or_assoc]
  importers := fun other dependent => by
    rw [h'.importers, h.importers, List.mem_append, and_or_left, or_assoc]

theorem announces_addDependent (session : Session) (id : ModuleId) (target : Target)
    (hvalid : session.Valid target) :
    session.Announces id [target] ((InSession.addDependent id target).run session).2 := by
  cases target with
  | module dependency =>
    have hmodule := session.module_setModule dependency
      fun module => { module with dependents := addNew module.dependents id }
    refine ⟨.setModule session dependency _ ⟨rfl, fun _ _ h => h⟩, setModule_length _ _ _, rfl, rfl,
      rfl, rfl, rfl, rfl, fun other => ?_, fun _ => rfl, fun other dependent => ?_,
      fun other dependent => ?_⟩
    · change ((session.setModule dependency _).module other).exports = _
      rw [hmodule]
      split
      · rename_i h
        rw [h.1]
      · rfl
    · change dependent ∈ ((session.setModule dependency _).module other).dependents ↔ _
      rw [hmodule]
      by_cases heq : other = dependency
      · rw [if_pos ⟨heq, hvalid⟩, mem_addNew, heq]
        simp
      · rw [if_neg fun h => heq h.1]
        simp [heq]
    · change dependent ∈ (session.external other).dependents ↔ _
      simp
  | external dependency =>
    have hexternal := session.external_setExternal dependency
      fun external => { external with dependents := addNew external.dependents id }
    refine ⟨.setExternal session dependency _ ⟨rfl, fun _ _ h => h⟩, rfl, setExternal_length _ _ _,
      rfl, rfl, rfl, rfl, rfl, fun _ => rfl, fun other => ?_, fun other dependent => ?_,
      fun other dependent => ?_⟩
    · change ((session.setExternal dependency _).external other).exports = _
      rw [hexternal]
      split
      · rename_i h
        rw [h.1]
      · rfl
    · change dependent ∈ (session.module other).dependents ↔ _
      simp
    · change dependent ∈ ((session.setExternal dependency _).external other).dependents ↔ _
      rw [hexternal]
      by_cases heq : other = dependency
      · rw [if_pos ⟨heq, hvalid⟩, mem_addNew, heq]
        simp
      · rw [if_neg fun h => heq h.1]
        simp [heq]

theorem announces_addDependents (session : Session) (id : ModuleId) (targets : List Target)
    (hvalid : ∀ target ∈ targets, session.Valid target) :
    session.Announces id targets
      ((targets.forM (InSession.addDependent id)).run session).2 := by
  induction targets generalizing session with
  | nil => exact .refl id session
  | cons first rest ih =>
    have hfirst := session.announces_addDependent id first (hvalid first List.mem_cons_self)
    exact hfirst.trans (ih _ fun target htarget =>
      hfirst.grows.valid target (hvalid target (List.mem_cons_of_mem _ htarget)))

theorem Grounded.announced {before after : Session} (hgrounded : before.Grounded) {id : ModuleId}
    {targets : List Target} (h : before.Announces id targets after) : after.Grounded := by
  apply hgrounded.grows h.grows h.length
  · intro other hother
    rw [h.exports]
    exact hgrounded.proper other hother
  · intro other _ record hrecord
    rw [h.exports] at hrecord
    exact .inl hrecord
  · intro other hother
    rw [h.outside] at hother
    exact h.grows.soundExternal other (hgrounded.externals other hother) (h.table other)

/-! ## New modules -/

section

variable {session : Session} {module : Module}

theorem Drafted.offers_stored (hgrounded : session.Grounded) (h : session.Drafted module)
    (entry : String × RecordId) (hentry : entry ∈ module.exports) :
    (session.store module).Offers (.module module.id) entry.2 := by
  have hid := h.opened.id_eq
  have hgrows := Grows.store session module
  have hmodule : (session.store module).module module.id = module := by
    rw [module_store, if_pos hid]
  have hvalid : module.id < (session.store module).modules.length := by
    rw [store_length, hid]
    exact Nat.lt_succ_self _
  have hself : ∀ found : ExportRecord, found.source = .module module.id →
      ∀ source, found.source = .module source →
        (session.store module).Reaches module.id source := by
    intro found hsource source heq
    rw [hsource] at heq
    obtain rfl := Target.module.inj heq
    exact Relation.ReflTransGen.refl
  rcases h.entries entry hentry with ⟨target, htarget, hoffers⟩ |
    ⟨found, owner, binding, hfound, hsource, howner, hmember, hbinding, hname, hidentifier⟩ |
    ⟨-, hdefault⟩
  · obtain ⟨found, hfound, hbacks, hsource⟩ := hoffers.grows hgrounded hgrows
    refine ⟨found, hfound, hbacks, fun source heq => ?_⟩
    cases target with
    | external external =>
      rw [hsource] at heq
      exact absurd heq nofun
    | module dependency =>
      have hstep : dependency ∈ ((session.store module).module module.id).moduleDependencies := by
        rw [hmodule]
        exact (mem_moduleDependencies module dependency).mpr htarget
      exact Relation.ReflTransGen.head hstep (hsource source heq)
  · refine ⟨found, hfound, .declared module.id owner binding hsource howner hvalid ?_ hbinding hname
      hidentifier ?_, hself found hsource⟩
    · rw [hmodule]
      exact hmember
    · rw [hmodule]
      exact List.mem_map_of_mem hentry
  · obtain ⟨found, hfound, -, hsource, howner⟩ := h.unnamed entry.2 hdefault
    refine ⟨found, hfound, .unnamed module.id hsource howner hvalid ?_, hself found hsource⟩
    rw [hmodule]
    exact hdefault

theorem lt_store {id : ModuleId} (hid : id < (session.store module).modules.length) :
    id < session.modules.length ∨ id = session.modules.length := by
  rw [store_length] at hid
  exact Nat.lt_succ_iff_lt_or_eq.mp hid

theorem module_store_old {id : ModuleId} (hid : id < session.modules.length) :
    (session.store module).module id = session.module id := by
  rw [module_store, if_neg (Nat.ne_of_lt hid)]

theorem module_store_new :
    (session.store module).module session.modules.length = module := by
  rw [module_store, if_pos rfl]

theorem forall_store (property : ModuleId → Module → Prop)
    (hold : ∀ id, id < session.modules.length → property id (session.module id))
    (hnew : property session.modules.length module) (id : ModuleId)
    (hid : id < (session.store module).modules.length) :
    property id ((session.store module).module id) := by
  rcases lt_store hid with hlt | rfl
  · rw [module_store_old hlt]
    exact hold id hlt
  · rw [module_store_new]
    exact hnew

theorem depends_store (target : Target) (dependent : ModuleId) :
    (dependent < (session.store module).modules.length ∧
      target ∈ ((session.store module).module dependent).dependencyTargets) ↔
    ((dependent < session.modules.length ∧
      target ∈ (session.module dependent).dependencyTargets) ∨
        (dependent = session.modules.length ∧ target ∈ module.dependencyTargets)) := by
  constructor
  · rintro ⟨hlt, htarget⟩
    rcases lt_store hlt with hlt | rfl
    · rw [module_store_old hlt] at htarget
      exact .inl ⟨hlt, htarget⟩
    · rw [module_store_new] at htarget
      exact .inr ⟨rfl, htarget⟩
  · rintro (⟨hlt, htarget⟩ | ⟨rfl, htarget⟩)
    · rw [module_store_old hlt]
      exact ⟨Nat.lt_of_lt_of_le hlt (Grows.store session module).modules_length, htarget⟩
    · rw [module_store_new, store_length]
      exact ⟨Nat.lt_succ_self _, htarget⟩

theorem Grounded.store (hgrounded : session.Grounded) (h : session.Drafted module) :
    (session.store module).Grounded := by
  have hgrows := Grows.store session module
  constructor
  · exact forall_store (fun _ module => module.exports.Proper) hgrounded.proper h.proper
  · exact forall_store (fun _ module => ∀ star ∈ module.stars,
      star.external < session.externals.length) hgrounded.stars h.stars
  · exact fun id hlt => hgrows.soundExternal id (hgrounded.externals id hlt) rfl
  · refine forall_store (fun id module => ∀ record ∈ module.exports.values,
      (session.store _).Offers (.module id) record)
      (fun id hlt record hrecord =>
        (hgrounded.exports id hlt record hrecord).grows hgrounded hgrows) fun record hrecord => ?_
    obtain ⟨name, hname⟩ := (Table.mem_values _ _).mp hrecord
    exact h.opened.id_eq ▸ h.offers_stored hgrounded (name, record) hname
  · exact forall_store (fun _ module => ∀ binding ∈ module.imports, 0 < binding.references →
      ∀ record, binding.resolved = some record → (session.store _).Offers binding.target record)
      (fun id hlt binding hbinding hlive record hrecord =>
        (hgrounded.imports id hlt binding hbinding hlive record hrecord).grows hgrounded hgrows)
      fun binding hbinding _ record hrecord =>
        ((h.imports binding hbinding).2 record hrecord).grows hgrounded hgrows

end

/-! ## Storing a module that was announced -/

theorem Drafted.fits {session : Session} {module : Module} (h : session.Drafted module) :
    session.Fits session.modules.length module where
  id_eq := h.opened.id_eq
  dependencies := fun target htarget => by
    have hvalid := h.opened.targets target htarget
    refine ⟨hvalid, fun dependency heq => ?_⟩
    rw [heq] at hvalid
    exact hvalid
  bindings := h.opened.id_eq ▸ h.bindings
  imports := fun binding hbinding => ⟨(h.imports binding hbinding).1, fun record heq =>
    ((h.imports binding hbinding).2 record heq).lt⟩
  unnamed := fun record hrecord => by
    obtain ⟨found, hfound, -⟩ := h.unnamed record hrecord
    exact (List.getElem?_eq_some_iff.mp hfound).1

theorem Grows.depends_iff {before after : Session} (hgrows : before.Grows after)
    (hlength : after.modules.length = before.modules.length) (target : Target)
    (dependent : ModuleId) :
    (dependent < after.modules.length ∧
      target ∈ (after.module dependent).dependencyTargets) ↔
    (dependent < before.modules.length ∧
      target ∈ (before.module dependent).dependencyTargets) := by
  rw [hlength]
  refine and_congr_right fun hlt => ?_
  rw [(hgrows.module dependent hlt).dependencyTargets_eq]

section

variable {before mid after : Session} {module : Module} (h : before.Coherent)
  (hannounced : before.Announces before.modules.length module.dependencyTargets mid)
  (hedited : mid.Edited after)

include hannounced hedited

theorem announced_length : after.modules.length = before.modules.length :=
  hedited.serves.length.trans hannounced.length

include h

theorem Coherent.dependents_store (hdraft : after.Drafted module)
    (hdependents : module.dependents = []) (id dependent : ModuleId) :
    dependent ∈ ((after.store module).module id).dependents ↔
      dependent < (after.store module).modules.length ∧
        .module id ∈ ((after.store module).module dependent).dependencyTargets := by
  have hserves := hedited.serves
  have hgrows := hannounced.grows.trans hserves.grows
  have hlength := announced_length hannounced hedited
  rw [depends_store, hgrows.depends_iff hlength, ← h.dependents id dependent, hlength,
    ← hannounced.dependents id dependent, ← hserves.dependents id, module_store]
  split
  · rename_i hnew
    -- nothing depends on the new module yet, since all targets were there before
    rw [hdependents, hserves.dependents, hannounced.dependents, h.dependents]
    refine ⟨fun hmem => absurd hmem List.not_mem_nil, fun hmem => ?_⟩
    have hvalid : after.Valid (.module id) := by
      rcases hmem with ⟨hlt, htarget⟩ | ⟨-, htarget⟩
      · exact hgrows.valid _ (h.dependencies dependent hlt _ htarget).1
      · exact hdraft.opened.targets _ htarget
    exact absurd (hnew ▸ hvalid) (Nat.lt_irrefl _)
  · rfl

theorem Coherent.importers_store (id : ExternalId) (dependent : ModuleId) :
    dependent ∈ ((after.store module).external id).dependents ↔
      dependent < (after.store module).modules.length ∧
        .external id ∈ ((after.store module).module dependent).dependencyTargets := by
  have hserves := hedited.serves
  have hlength := announced_length hannounced hedited
  rw [depends_store, (hannounced.grows.trans hserves.grows).depends_iff hlength,
    ← h.importers id dependent, hlength, ← hannounced.importers id dependent,
    ← hserves.importers id]
  rfl

theorem Coherent.placed_store :
    (after.store module).Placed (after.store module).modules.length := by
  have hmore := h.placed.of_same hannounced.records hannounced.bindings hannounced.outside
  have hplaced : mid.Placed (mid.modules.length + 1) := by
    rw [hannounced.length]
    exact ⟨fun record hrecord module heq => Nat.lt_succ_of_lt (hmore.source record hrecord module
      heq), hmore.external, hmore.owner, fun binding hbinding =>
        Nat.lt_succ_of_lt (hmore.module binding hbinding)⟩
  rw [store_length, hedited.serves.length]
  exact (hedited.serves.placed hplaced).of_same rfl rfl rfl

/-- A module fits into a coherent session, if all that it depends on is there and nothing has its
path. -/
theorem Coherent.store (hdraft : after.Drafted module) (hdependents : module.dependents = [])
    (hpath : ∀ id, id < before.modules.length → (before.module id).path ≠ module.path) :
    (after.store module).Coherent := by
  have hserves := hedited.serves
  have hgrows := hannounced.grows.trans hserves.grows
  have hlength := announced_length hannounced hedited
  have hstore := Grows.store after module
  have hfits := forall_store (fun id module => (after.store _).Fits id module)
    (fun id hlt => (h.fits id (hlength ▸ hlt)).grows (hgrows.trans hstore)
      (hgrows.module id (hlength ▸ hlt))) (hdraft.fits.grows hstore (.refl module))
  constructor
  case id_eq => exact fun id hid => (hfits id hid).id_eq
  case paths =>
    refine (pathsDistinct_iff _).mp (((pathsDistinct_iff before).mpr h.paths).grows_new
      (hgrows.trans hstore) ?_ fun id hid => ?_)
    · rw [store_length, hlength]
    · rw [← hlength, module_store_new]
      exact hpath id hid
  case specifiers =>
    exact (specifiersDistinct_iff _).mp (((specifiersDistinct_iff before).mpr h.specifiers).grows
      (hgrows.trans hstore) (hserves.outside.trans hannounced.outside))
  case dependencies => exact fun id hid => (hfits id hid).dependencies
  case dependents => exact h.dependents_store hannounced hedited hdraft hdependents
  case importers => exact h.importers_store hannounced hedited
  case entry =>
    intro id hentry
    simp only [Session.store] at hentry
    rw [store_length, hlength]
    split at hentry
    · obtain rfl := Option.some.inj hentry
      rw [hdraft.opened.id_eq, hlength]
      exact Nat.lt_succ_self _
    · rw [hserves.entry, hannounced.entry] at hentry
      exact Nat.lt_succ_of_lt (h.entry id hentry)
  case bindings => exact fun id hid => (hfits id hid).bindings
  case imports => exact fun id hid => (hfits id hid).imports
  case unnamed => exact fun id hid => (hfits id hid).unnamed
  case placed => exact h.placed_store hannounced hedited
  case grounded => exact ((h.grounded.announced hannounced).edited hedited).store hdraft

end

end Session

end ScopeHoist
