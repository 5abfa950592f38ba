import ScopeHoist.Proofs.Draft

/-!
# Interfaces of stored modules

Each part of completing a module keeps the draft of it sound: names from `export *` and imports are
borrowed from targets, and what an export statement publishes is borrowed, of a declaration that
counts as used, or the unnamed default. Storing a sound draft keeps the session sound.
-/

set_option autoImplicit false

namespace ScopeHoist

theorem target?_mem (module : Module) (specifier : String) (target : Target)
    (h : module.target? specifier = some target) : target ∈ module.dependencyTargets :=
  Table.value_mem_of_get? _ _ _ h

theorem bindingOf?_spec (module : Module) (session : Session) (id : Ident) (binding : BindingId)
    (h : module.bindingOf? session id = some binding) :
    binding ∈ module.bindings ∧
      ∃ found, session.bindings[binding]? = some found ∧ found.identity = id.identity := by
  have hfound := List.find?_some h
  refine ⟨List.mem_of_find?_eq_some h, ?_⟩
  cases hbinding : session.bindings[binding]? with
  | none => simp [hbinding] at hfound
  | some found => exact ⟨found, rfl, by simpa [hbinding] using hfound⟩

namespace Session

variable {session : Session} {module : Module}

theorem Borrows.supplies_stored {record : RecordId} (hsound : session.Sound)
    (hopened : session.Opened module) (h : session.Borrows module record) :
    (session.store module).Supplies (.module module.id) record := by
  obtain ⟨target, htarget, hsupplies⟩ := h
  have hgrows := Grows.store session module
  obtain ⟨found, hfound, hprovides, hsource⟩ := hgrows.supplies hsound target record hsupplies
  refine ⟨found, hfound, hprovides, fun source heq => ?_⟩
  cases target with
  | external external =>
    rw [hsource] at heq
    exact absurd heq nofun
  | module dependency =>
    have hstep : dependency ∈ ((session.store module).module module.id).moduleDependencies := by
      rw [module_store, if_pos hopened.id_eq]
      exact (mem_moduleDependencies module dependency).mpr htarget
    exact Relation.ReflTransGen.head hstep (hsource source heq)

theorem SoundDraft.supplies_stored (hsound : session.Sound) (h : session.SoundDraft module)
    (entry : String × RecordId) (hentry : entry ∈ module.exports) :
    (session.store module).Supplies (.module module.id) entry.2 := by
  have hid := h.opened.id_eq
  have hmodule : (session.store module).module module.id = module := by
    rw [module_store, if_pos hid]
  have hvalid : module.id < (session.store module).modules.length := by
    rw [store_length, hid]
    exact Nat.lt_succ_self _
  have hself : ∀ found : ExportRecord, found.source = .module module.id →
      ∀ source, found.source = .module source →
        (session.store module).Reaches module.id source := by
    intro found hsource source heq
    rw [hsource] at heq
    obtain rfl := Target.module.inj heq
    exact Relation.ReflTransGen.refl
  rcases h.entries entry hentry with hborrows | howns | ⟨-, hdefault⟩
  · exact hborrows.supplies_stored hsound h.opened
  · obtain ⟨found, owner, binding, hfound, hsource, howner, hmember, hbinding, hkept, hcounted⟩ :=
      howns
    refine ⟨found, hfound, .declared module.id owner binding hsource howner hvalid ?_ hbinding
      hkept hcounted ?_, hself found hsource⟩
    · rw [hmodule]
      exact hmember
    · rw [hmodule]
      exact List.mem_map_of_mem hentry
  · obtain ⟨found, hfound, hname, hsource, howner⟩ := h.unnamed entry.2 hdefault
    refine ⟨found, hfound, .unnamed module.id hsource howner hvalid hname ?_, hself found hsource⟩
    rw [hmodule]
    exact hdefault

theorem sound_store (hsound : session.Sound) (h : session.SoundDraft module) :
    (session.store module).Sound := by
  have hgrows := Grows.store session module
  have hid := h.opened.id_eq
  have hmodule : (session.store module).module session.modules.length = module := by
    rw [module_store, if_pos rfl]
  have hold : ∀ id, id < session.modules.length →
      (session.store module).module id = session.module id := fun id hlt => by
    rw [module_store, if_neg (Nat.ne_of_lt hlt)]
  refine ⟨fun id hlt => ?_, fun id hlt => ?_, fun id hlt => ?_, fun id hentry => ?_⟩
  · rw [store_length] at hlt
    rcases Nat.lt_succ_iff_lt_or_eq.mp hlt with hlt | rfl
    · rw [hold id hlt]
      exact hsound.id_eq id hlt
    · rw [hmodule]
      exact hid
  · rw [store_length] at hlt
    rcases Nat.lt_succ_iff_lt_or_eq.mp hlt with hlt | rfl
    · have hsame := hsound.modules id hlt
      rw [hold id hlt]
      exact SoundModule.grows hsound hgrows _ _ hsame (.refl _)
        (hgrows.soundExports hsound _ hsame.exports)
    · rw [hmodule]
      refine ⟨h.uses_eq, fun dependency hdependency => ?_, h.bindings_nodup, h.bindings,
        fun binding hbinding =>
          hgrows.soundImport hsound module binding (h.imports binding hbinding),
        h.imported, h.stars, ⟨h.proper, fun record hrecord => ?_, fun record hrecord => ?_⟩,
        h.unnamed, h.leaves⟩
      · rw [hid]
        exact h.opened.targets _ ((mem_moduleDependencies module dependency).mp hdependency)
      · obtain ⟨name, hname⟩ := (Table.mem_values _ _).mp hrecord
        exact h.supplies_stored hsound (name, record) hname
      · refine .inr (h.aggregate ?_)
        exact List.mem_map_of_mem (Table.mem_of_get? _ _ _ hrecord)
  · exact hgrows.soundExternal id (hsound.externals id hlt) rfl
  · rw [store_length]
    simp only [store] at hentry
    split at hentry
    · obtain rfl := Option.some.inj hentry
      rw [hid]
      exact Nat.lt_succ_self _
    · exact Nat.lt_succ_of_lt (hsound.entry id hentry)

/-! ## Names from `export *` -/

theorem draft_mergeModule (hsound : session.Sound) (h : session.SoundDraft module)
    (dependency : ModuleId) (htarget : .module dependency ∈ module.dependencyTargets) :
    session.SoundDraft (module.mergeModule (session.module dependency)) := by
  have hvalid : dependency < session.modules.length := h.opened.targets _ htarget
  have hdependency := hsound.modules dependency hvalid
  have hmem : ∀ entry ∈ (module.mergeModule (session.module dependency)).exports,
      entry ∈ module.exports ∨
        (entry ∈ (session.module dependency).exports ∧ entry.1 ≠ defaultName ∧
          entry.1 ≠ aggregateName) := by
    intro entry hentry
    rcases Table.mem_of_mem_insertAll _ h.proper _ entry hentry with hentry | hentry
    · exact .inl hentry
    · obtain ⟨hmem, hname⟩ := List.mem_filter.mp hentry
      exact .inr ⟨hmem, by simpa using hname⟩
  refine ⟨⟨h.opened.id_eq, h.opened.targets⟩, h.uses_eq, h.bindings_nodup, h.bindings,
    fun binding hbinding => ⟨(h.imports binding hbinding).target,
      (h.imports binding hbinding).references, (h.imports binding hbinding).resolved⟩,
    h.imported, fun star hstar => ?_, Table.proper_insertAll _ h.proper _, fun entry hentry => ?_,
    h.unnamed,
    fun haggregate => ?_, h.leaves⟩
  · rcases (mem_foldl_addNew _ _ _).mp hstar with hstar | hstar
    · exact h.stars star hstar
    · exact hdependency.stars star hstar
  · rcases hmem entry hentry with hentry | ⟨hentry, -⟩
    · exact h.entries entry hentry
    · refine .inl ⟨.module dependency, htarget, ?_⟩
      have := hdependency.exports.supplies entry.2 (List.mem_map_of_mem hentry)
      rwa [hsound.id_eq dependency hvalid] at this
  · obtain ⟨entry, hentry, hname⟩ := List.mem_map.mp haggregate
    rcases hmem entry hentry with hentry | ⟨-, -, hne⟩
    · exact h.aggregate (hname ▸ List.mem_map_of_mem hentry)
    · exact absurd hname hne

theorem draft_exportStar (hsound : session.Sound) (h : session.SoundDraft module)
    (specifier : String) : session.SoundDraft (module.exportStar session specifier) := by
  unfold Module.exportStar
  split
  · rename_i id htarget
    exact draft_mergeModule hsound h id (target?_mem module specifier _ htarget)
  · rename_i id htarget
    have hvalid := h.opened.targets _ (target?_mem module specifier _ htarget)
    refine ⟨⟨h.opened.id_eq, h.opened.targets⟩, h.uses_eq, h.bindings_nodup, h.bindings,
      fun binding hbinding => ⟨(h.imports binding hbinding).target,
        (h.imports binding hbinding).references, (h.imports binding hbinding).resolved⟩,
      h.imported, fun star hstar => ?_, h.proper, h.entries, h.unnamed, h.aggregate, h.leaves⟩
    rcases (mem_addNew _ _ _).mp hstar with hstar | rfl
    · exact h.stars star hstar
    · exact hvalid
  · exact h

theorem exportStar_unnamedDefault (specifier : String) :
    (module.exportStar session specifier).unnamedDefault = module.unnamedDefault := by
  unfold Module.exportStar
  split <;> rfl

theorem withStars_unnamedDefault :
    (module.withStars session).unnamedDefault = module.unnamedDefault := by
  unfold Module.withStars
  generalize module.starSpecifiers = specifiers
  induction specifiers generalizing module with
  | nil => rfl
  | cons first rest ih => rw [List.foldl_cons, ih, exportStar_unnamedDefault]

theorem draft_withStars (hsound : session.Sound) (h : session.SoundDraft module) :
    session.SoundDraft (module.withStars session) := by
  unfold Module.withStars
  generalize module.starSpecifiers = specifiers
  induction specifiers generalizing module with
  | nil => exact h
  | cons first rest ih => exact ih (draft_exportStar hsound h first)

end Session

namespace InSession

open Session

/-! ## Imports -/

theorem keeps_request (module : Module) (target : Target) (specifier name preferred : String) :
    Keeps (fun session => session.Valid target) (request module target specifier name preferred)
      fun result session => ∀ record, result = some record → session.Supplies target record := by
  refine keeps_bind (steady_valid target) (keeps_targetRecord? target name preferred)
    fun result => ?_
  cases result with
  | some record => exact keeps_pure fun session _ hpre => hpre.2
  | none =>
    have hreport : Keeps (fun _ => True)
        (modify fun session => session.report (.missingExport module.path specifier name))
        fun _ _ => True :=
      keeps_modify fun session hsound _ => ⟨.report session hsound _, trivial⟩
    refine keeps_weaken (keeps_bind (steady_const True) hreport fun _ =>
      keeps_pure fun _ _ _ => nofun) (fun _ _ => trivial) fun _ _ hpost => hpost

theorem keeps_importName (module : Module) (target : Target)
    (htarget : target ∈ module.dependencyTargets) (source : String)
    (specifier : ImportSpecifier) :
    Keeps (fun session => session.SoundDraft module) (importName module target source specifier)
      fun binding session => session.SoundImport module binding ∧
        binding.name = specifier.target.name := by
  refine keeps_bind (steady_draft module) (keeps_weaken (keeps_request module target source _ _)
    (fun session hdraft => hdraft.opened.targets target htarget) fun _ _ hpost => hpost)
    fun resolved => ?_
  refine keeps_bind (steady_and (steady_draft module) (steady_forall fun record =>
      steady_imp _ (steady_supplies target record))) (keeps_note _ _)
    fun _ => keeps_pure fun session _ hpre => ?_
  exact ⟨⟨htarget, rfl, hpre.1.2⟩, rfl⟩

theorem steady_soundImport (module : Module) (binding : ImportBinding) :
    Steady fun session => session.SoundImport module binding :=
  fun _ _ hsound hfills => hfills.grows.soundImport hsound module binding

def ImportsItem (module : Module) (item : Item) (bindings : List ImportBinding)
    (session : Session) : Prop :=
  (∀ binding ∈ bindings, session.SoundImport module binding) ∧
    (bindings.map ImportBinding.name).Sublist item.importedNames

theorem steady_importsItem (module : Module) (item : Item) (bindings : List ImportBinding) :
    Steady (ImportsItem module item bindings) := fun before after hsound hfills h =>
  ⟨fun binding hbinding => steady_soundImport module binding before after hsound hfills
    (h.1 binding hbinding), h.2⟩

theorem keeps_importsOf (module : Module) (item : Item) :
    Keeps (fun session => session.SoundDraft module) (importsOf module item)
      (ImportsItem module item) := by
  have hnone : Keeps (fun session => session.SoundDraft module)
      (pure [] : InSession (List ImportBinding)) (ImportsItem module item) :=
    keeps_pure fun _ _ _ => ⟨by simp, List.nil_sublist _⟩
  cases item with
  | importFrom specifiers source span =>
    simp only [importsOf]
    cases htarget : module.target? source.value with
    | none => exact hnone
    | some target =>
      refine keeps_weaken (keeps_mapM (steady_draft module)
        (fun specifier binding => steady_and (steady_soundImport module binding)
          (steady_const (binding.name = specifier.target.name)))
        specifiers fun specifier _ => keeps_importName module target
          (target?_mem module _ target htarget) source.value specifier)
        (fun _ hdraft => hdraft) fun bindings session hall => ⟨fun binding hbinding => ?_, ?_⟩
      · obtain ⟨_, _, hsound, _⟩ := forall₂_mem_right hall binding hbinding
        exact hsound
      · rw [forall₂_map_eq (fun specifier : ImportSpecifier => specifier.target.name) _
          (fun _ _ h => h.2) hall]
        exact List.Sublist.refl _
  | _ => exact hnone

theorem importsItem_flatten (module : Module) (session : Session) (items : List Item)
    (results : List (List ImportBinding))
    (h : List.Forall₂ (fun item bindings => ImportsItem module item bindings session) items
      results) :
    (∀ binding ∈ results.flatten, session.SoundImport module binding) ∧
      (results.flatten.map ImportBinding.name).Sublist (items.flatMap Item.importedNames) := by
  induction h with
  | nil => exact ⟨by simp, List.nil_sublist _⟩
  | cons hfirst _ ih =>
    refine ⟨fun binding hbinding => ?_, ?_⟩
    · rw [List.flatten_cons, List.mem_append] at hbinding
      exact hbinding.elim (hfirst.1 binding) (ih.1 binding)
    · rw [List.flatten_cons, List.map_append, List.flatMap_cons]
      exact hfirst.2.append ih.2

theorem keeps_importAll (module : Module) (hunnamed : module.unnamedDefault = none) :
    Keeps (fun session => session.SoundDraft module) (importAll module)
      fun result session => session.SoundDraft result := by
  refine keeps_bind (steady_draft module) (keeps_mapM (steady_draft module)
    (steady_importsItem module) module.program.items fun item _ => keeps_importsOf module item)
    fun results => keeps_pure fun session _ hpre => ?_
  obtain ⟨h, hall⟩ := hpre
  obtain ⟨himports, himported⟩ := importsItem_flatten module session _ results hall
  exact ⟨⟨h.opened.id_eq, h.opened.targets⟩, h.uses_eq, h.bindings_nodup, h.bindings,
    fun binding hbinding => ⟨(himports binding hbinding).target,
      (himports binding hbinding).references, (himports binding hbinding).resolved⟩,
    himported, h.stars, h.proper, h.entries, h.unnamed, h.aggregate,
    fun hdefault => absurd hunnamed hdefault⟩

end InSession

end ScopeHoist
