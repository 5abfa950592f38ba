import ScopeHoist.Bundle
import ScopeHoist.Proofs.Loading
import ScopeHoist.Proofs.Shake

/-!
# What is used survives

Decisions on what goes are just if they rest on one judgement of which records are used, positive
on all that a live import or an entry needs. Then a record that is used is still held after shaking:
it is in the table where it belongs, and its declaration was not taken out.
-/

set_option autoImplicit false

namespace ScopeHoist

/-! ## Declarations of a module -/

theorem firstDeclarations_nodup (declarations : List Declaration) :
    ((firstDeclarations declarations).map Declaration.name).Nodup := by
  induction declarations with
  | nil => exact List.nodup_nil
  | cons first rest ih =>
    rw [firstDeclarations, List.map_cons, List.nodup_cons]
    refine ⟨fun h => ?_, List.Nodup.sublist (List.filter_sublist.map _) ih⟩
    obtain ⟨other, hother, hname⟩ := List.mem_map.mp h
    have := (List.mem_filter.mp hother).2
    simp [hname] at this

namespace Session

variable {session : Session} {module : Module}

theorem SoundModule.isBinding (h : session.SoundModule module) (id : BindingId)
    (hid : id ∈ module.bindings) (binding : Binding)
    (hbinding : session.bindings[id]? = some binding) :
    ∃ declaration ∈ module.program.declarations,
      binding = ⟨declaration, declaration.name, module.id,
        usageOf module.program.uses declaration.name, false⟩ := by
  obtain ⟨declaration, hdeclaration, hstored⟩ := h.bindings_valid id hid
  rw [IsBinding, hbinding, h.uses_eq] at hstored
  exact ⟨declaration, hdeclaration, Option.some.inj hstored⟩

theorem SoundModule.binding_unique (h : session.SoundModule module) (first second : BindingId)
    (hfirst : first ∈ module.bindings) (hsecond : second ∈ module.bindings)
    (hsame : (session.bindings[first]?).map Binding.identity =
      (session.bindings[second]?).map Binding.identity) : first = second := by
  obtain ⟨i, hi, rfl⟩ := List.getElem_of_mem hfirst
  obtain ⟨j, hj, rfl⟩ := List.getElem_of_mem hsecond
  have hlength := h.bindings.length_eq
  have hall := (List.forall₂_iff_get.mp h.bindings).2
  have hi' := hall i hi (by omega)
  have hj' := hall j hj (by omega)
  simp only [List.get_eq_getElem, IsBinding] at hi' hj'
  rw [hi', hj'] at hsame
  have hname : module.program.declarations[i].name = module.program.declarations[j].name :=
    congrArg Identity.name (Option.some.inj hsame)
  have hnodup := firstDeclarations_nodup
    (module.program.occurrences.filterMap Occurrence.declaration?)
  have hsame_declaration :=
    List.inj_on_of_nodup_map hnodup (List.getElem_mem _) (List.getElem_mem _) hname
  have hindex : i = j := hnodup.of_map.getElem_inj_iff.mp hsame_declaration
  simp only [hindex]

theorem Sound.module_unique (h : session.Sound) (first second : ModuleId)
    (hfirst : first < session.modules.length) (hsecond : second < session.modules.length)
    (id : BindingId) (hid : id ∈ (session.module first).bindings)
    (hid' : id ∈ (session.module second).bindings) : first = second := by
  obtain ⟨_, -, hbinding⟩ := (h.modules first hfirst).bindings_valid id hid
  obtain ⟨_, -, hbinding'⟩ := (h.modules second hsecond).bindings_valid id hid'
  rw [IsBinding, hbinding] at hbinding'
  have := congrArg Binding.module (Option.some.inj hbinding')
  simp only [h.id_eq first hfirst, h.id_eq second hsecond] at this
  exact this

theorem module_of_mem (h : module ∈ session.modules) :
    ∃ id < session.modules.length, session.module id = module := by
  obtain ⟨id, hid, rfl⟩ := List.getElem_of_mem h
  exact ⟨id, hid, session.module_getElem id hid⟩

theorem external_of_mem {external : External} (h : external ∈ session.externals) :
    ∃ id < session.externals.length, session.external id = external := by
  obtain ⟨id, hid, rfl⟩ := List.getElem_of_mem h
  exact ⟨id, hid, session.external_getElem id hid⟩

theorem module_mem (id : ModuleId) (hid : id < session.modules.length) :
    session.module id ∈ session.modules := by
  rw [session.module_getElem id hid]
  exact List.getElem_mem hid

theorem external_mem (id : ExternalId) (hid : id < session.externals.length) :
    session.external id ∈ session.externals := by
  rw [session.external_getElem id hid]
  exact List.getElem_mem hid

/-! ## Just decisions -/

/-- Decisions on what goes that rest on a judgement of which records are used. -/
structure Just (session : Session) (gone : List BindingId) (dropped : List RecordId)
    (used : RecordId → Prop) : Prop where
  idle : ∀ id ∈ gone, ∃ module ∈ session.modules, id ∈ module.bindings ∧
    ∃ binding, session.bindings[id]? = some binding ∧
      (binding.usage.references = 0 ∨
        (module.isEntry = false ∧ binding.usage.localReferences = 0 ∧
          ∀ record ∈ session.ownedRecords module id, ¬ used record))
  unused : ∀ record ∈ dropped, ¬ used record
  kept : ∀ record ∈ session.removableRecords, record ∉ dropped → used record
  certain : ∀ record, .certain ∈ session.grounds record → used record

theorem just_verdict (session : Session) :
    ∃ used, session.Just (session.verdict.idle.map Prod.fst) session.verdict.unused used := by
  obtain ⟨final, hrests, hcertain⟩ := session.verdict_restsOn
  refine ⟨fun record => final.lookup record ≠ some false, fun id hid => ?_,
    fun record hrecord hused => hused (hrests.unused record hrecord).2,
    fun record hrecord hkept => ?_, hcertain⟩
  · obtain ⟨idle, hidle, rfl⟩ := List.mem_map.mp hid
    obtain ⟨module, hmodule, hmember, binding, hbinding, hreason⟩ := hrests.idle idle hidle
    refine ⟨module, hmodule, hmember, binding, hbinding, hreason.imp_right fun h => ?_⟩
    exact ⟨h.1, h.2.1, fun record hrecord hused => hused (h.2.2 record hrecord)⟩
  · rw [hrests.used record hrecord hkept]
    simp

theorem just_nothing (session : Session) : session.Just [] [] fun _ => True :=
  ⟨by simp, by simp, fun _ _ _ => trivial, fun _ _ => trivial⟩

theorem shaken_nothing (session : Session) (level : Level) (text : String) :
    session.Shaken [] [] (session.note level text) where
  length := rfl
  externals_length := rfl
  module := fun id _ => by
    refine ⟨(session.module id).stars, fun _ h => h, ?_⟩
    have hexports : exportsWithout [] (session.module id).exports =
        (session.module id).exports := by
      simp [exportsWithout]
    have hidle : session.idleIdentities [] (session.module id) = [] := by
      simp [idleIdentities]
    rw [hexports, ite_self, hidle]
    rfl
  external := fun id _ => by
    have hexports : exportsWithout [] (session.external id).exports =
        (session.external id).exports := by
      simp [exportsWithout]
    rw [hexports]
    rfl
  binding := fun id => by
    have hremoval : ∀ module, session.removal [] module = [] := fun module => by
      have hidle : session.idleIdentities [] (session.module module) = [] := by
        simp [idleIdentities]
      exact session.removal_eq_nil [] module (by
        rw [lostIdentities, hidle, Program.idleIdentities_nil])
    simp only [hremoval, List.not_mem_nil, and_false, exists_false, decide_false, Bool.or_false]
    change session.bindings[id]? = _
    cases session.bindings[id]? <;> rfl
  records := rfl
  entry := rfl

theorem shaken_shake (session : Session) :
    session.Shaken (session.verdict.idle.map Prod.fst) session.verdict.unused
      ((InSession.shake).run session).2 := by
  have hshaken := session.silent.shaken_relieve (session.verdict.idle.map Prod.fst)
    session.verdict.unused
  have hsilent : ((InSession.shake).run session).2.silent = session.silent.relieve
      (session.verdict.idle.map Prod.fst) session.verdict.unused session.silent.modules.length :=
    InSession.performs_shake session
  rw [← hsilent] at hshaken
  exact ⟨hshaken.length, hshaken.externals_length, hshaken.module, hshaken.external,
    hshaken.binding, hshaken.records, hshaken.entry⟩

theorem run_shakeIfAsked (session : Session) (h : session.options.treeshake = true) :
    ((InSession.shakeIfAsked).run session).2 = ((InSession.shake).run session).2 := by
  unfold InSession.shakeIfAsked
  rw [InSession.run_bind, InSession.run_get]
  simp only [h, if_true]
  rfl

theorem silent_shakeIfAsked (session : Session) (h : session.options.treeshake = true) :
    ((InSession.shakeIfAsked).run session).2.silent =
      session.silent.relieve (session.verdict.idle.map Prod.fst) session.verdict.unused
        session.silent.modules.length := by
  rw [session.run_shakeIfAsked h]
  exact InSession.performs_shake session

theorem shakeIfAsked_of_not (session : Session) (h : session.options.treeshake = false) :
    ((InSession.shakeIfAsked).run session).2 = session.note .debug "Tree shaking disabled" := by
  unfold InSession.shakeIfAsked
  rw [InSession.run_bind, InSession.run_get]
  simp only [h, Bool.false_eq_true, if_false]
  rfl

theorem shaken_verdict (session : Session) (h : session.options.treeshake = true) :
    session.Shaken (session.verdict.idle.map Prod.fst) session.verdict.unused
      ((InSession.shakeIfAsked).run session).2 := by
  rw [session.run_shakeIfAsked h]
  exact session.shaken_shake

theorem shaken_shakeIfAsked (session : Session) :
    ∃ idle unused used, session.Just idle unused used ∧
      session.Shaken idle unused ((InSession.shakeIfAsked).run session).2 := by
  cases htreeshake : session.options.treeshake with
  | true =>
    obtain ⟨used, hjust⟩ := session.just_verdict
    exact ⟨_, _, used, hjust, session.shaken_verdict htreeshake⟩
  | false =>
    rw [session.shakeIfAsked_of_not htreeshake]
    exact ⟨[], [], _, session.just_nothing, session.shaken_nothing _ _⟩

/-! ## Declarations that are taken out -/

theorem mem_of_mem_idleIdentities (unused : List Identity) (program : Program)
    (identity : Identity) (h : identity ∈ program.idleIdentities unused) : identity ∈ unused := by
  have hsole : ∀ tree : Tree, identity ∈ (soleIdentity? tree).toList.filter unused.contains →
      identity ∈ unused := fun tree hmem => by
    simpa using (List.mem_filter.mp hmem).2
  have htree : ∀ tree : Tree, identity ∈ tree.idleIdentities unused → identity ∈ unused := by
    intro tree hmem
    unfold Tree.idleIdentities at hmem
    split at hmem
    · obtain ⟨declarator, hdeclarator, hmem⟩ := List.mem_flatMap.mp hmem
      have hidle := (List.mem_filter.mp hdeclarator).2
      simp only [isIdle, Bool.and_eq_true, List.all_eq_true] at hidle
      simpa using hidle.2 identity hmem
    · exact hsole _ hmem
  obtain ⟨item, -, hitem⟩ := List.mem_flatMap.mp h
  cases item with
  | statement tree => exact htree tree hitem
  | exportDecl decl span => exact htree decl hitem
  | exportDefaultDecl decl span => exact hsole decl hitem
  | _ => simp [Item.idleIdentities] at hitem

variable {before after : Session} {gone : List BindingId} {dropped : List RecordId}
  {used : RecordId → Prop}

/-- A declaration is marked exactly if one of its name was taken out. -/
theorem Shaken.binding_eq (h : before.Shaken gone dropped after) (hsound : before.Sound)
    (id : ModuleId) (hid : id < before.modules.length) (binding : BindingId)
    (hmember : binding ∈ (before.module id).bindings) (found : Binding)
    (hfound : before.bindings[binding]? = some found) :
    after.bindings[binding]? = some { found with
      removed := decide (found.identity ∈ before.lostIdentities gone (before.module id)) } := by
  have hkept : found.removed = false := by
    obtain ⟨_, _, rfl⟩ := (hsound.modules id hid).isBinding binding hmember found hfound
    rfl
  have hiff : (∃ module < before.modules.length, binding ∈ before.removal gone module) ↔
      found.identity ∈ before.lostIdentities gone (before.module id) := by
    constructor
    · rintro ⟨module, hmodule, hmem⟩
      obtain ⟨hmember', hamong⟩ := List.mem_filter.mp hmem
      obtain rfl := hsound.module_unique module id hmodule hid binding hmember' hmember
      simpa [isAmong, hfound] using hamong
    · intro hlost
      refine ⟨id, hid, List.mem_filter.mpr ⟨hmember, ?_⟩⟩
      simpa [isAmong, hfound] using hlost
  rw [h.binding, hfound, Option.map_some, hkept]
  simp only [hiff, Bool.false_or]

theorem Sound.gone_of_lost (hsound : before.Sound) (id : ModuleId)
    (hid : id < before.modules.length) (binding : BindingId)
    (hmember : binding ∈ (before.module id).bindings) (found : Binding)
    (hfound : before.bindings[binding]? = some found)
    (hlost : found.identity ∈ before.lostIdentities gone (before.module id)) :
    binding ∈ gone := by
  have hidle := mem_of_mem_idleIdentities _ _ _ hlost
  obtain ⟨other, hother, hidentity⟩ := List.mem_filterMap.mp hidle
  obtain ⟨hother_mem, hother_gone⟩ := List.mem_filter.mp hother
  have : other = binding := (hsound.modules id hid).binding_unique other binding hother_mem
    hmember (by rw [hidentity, hfound]; rfl)
  rw [← this]
  simpa using hother_gone

theorem Just.idle_of_mem (hjust : before.Just gone dropped used) (hsound : before.Sound)
    (id : ModuleId) (hid : id < before.modules.length) (binding : BindingId)
    (hmember : binding ∈ (before.module id).bindings) (found : Binding)
    (hfound : before.bindings[binding]? = some found) (hgone : binding ∈ gone) :
    found.usage.references = 0 ∨ (found.usage.localReferences = 0 ∧
      ∀ record ∈ before.ownedRecords (before.module id) binding, ¬ used record) := by
  obtain ⟨module, hmodule, hmember', found', hfound', hreason⟩ := hjust.idle binding hgone
  obtain ⟨other, hother, rfl⟩ := module_of_mem hmodule
  obtain rfl := hsound.module_unique other id hother hid binding hmember' hmember
  rw [hfound] at hfound'
  obtain rfl := Option.some.inj hfound'
  exact hreason.imp_right fun h => ⟨h.2.1, h.2.2⟩

theorem removed_localReferences (hjust : before.Just gone dropped used) (hsound : before.Sound)
    (id : ModuleId) (hid : id < before.modules.length) (binding : BindingId)
    (hmember : binding ∈ (before.module id).bindings) (found : Binding)
    (hfound : before.bindings[binding]? = some found)
    (hlost : found.identity ∈ before.lostIdentities gone (before.module id)) :
    found.usage.localReferences = 0 := by
  have hgone := hsound.gone_of_lost id hid binding hmember found hfound hlost
  rcases hjust.idle_of_mem hsound id hid binding hmember found hfound hgone with h | h
  · simp [Usage.localReferences, h]
  · exact h.1

/-! ## Records that stay -/

theorem get?_exportsWithout (table : Table RecordId) (hproper : table.Proper) (name : String)
    (record : RecordId) (hentry : table.get? name = some record) (hkept : record ∉ dropped) :
    Table.get? (exportsWithout dropped table) name = some record := by
  refine Table.get?_of_mem _ (Table.proper_filter _ hproper _) name record ?_
  exact List.mem_filter.mpr ⟨Table.mem_of_get? _ _ _ hentry, by simpa using hkept⟩

theorem mem_exportsWithout (table : Table RecordId) (entry : String × RecordId) :
    entry ∈ exportsWithout dropped table ↔ entry ∈ table ∧ entry.2 ∉ dropped := by
  simp [exportsWithout, List.mem_filter]

theorem Shaken.mem_exports (h : before.Shaken gone dropped after) (id : ModuleId)
    (hid : id < before.modules.length) (entry : String × RecordId) :
    entry ∈ (after.module id).exports ↔ entry ∈ (before.module id).exports ∧
      ((before.module id).isEntry = true ∨ entry.2 ∉ dropped) := by
  obtain ⟨stars, -, hmodule⟩ := h.module id hid
  rw [hmodule]
  dsimp only
  split
  · rename_i hentry
    simp [hentry]
  · rename_i hentry
    rw [mem_exportsWithout]
    simp [hentry]

theorem Shaken.proper (h : before.Shaken gone dropped after) (id : ModuleId)
    (hid : id < before.modules.length) (hproper : (before.module id).exports.Proper) :
    (after.module id).exports.Proper := by
  obtain ⟨stars, -, hmodule⟩ := h.module id hid
  rw [hmodule]
  dsimp only
  split
  · exact hproper
  · exact Table.proper_filter _ hproper _

theorem Shaken.get?_exports (h : before.Shaken gone dropped after) (id : ModuleId)
    (hid : id < before.modules.length) (hproper : (before.module id).exports.Proper)
    (name : String) (record : RecordId)
    (hentry : (before.module id).exports.get? name = some record) (hkept : record ∉ dropped) :
    (after.module id).exports.get? name = some record :=
  Table.get?_of_mem _ (h.proper id hid hproper) name record <|
    (h.mem_exports id hid _).mpr ⟨Table.mem_of_get? _ _ _ hentry, .inr hkept⟩

/-- What is used is held after shaking where it was held before. -/
theorem Shaken.provides (h : before.Shaken gone dropped after) (hsound : before.Sound)
    (hjust : before.Just gone dropped used) (id : RecordId) (record : ExportRecord)
    (hrecord : before.records[id]? = some record) (hused : used id)
    (hprovides : before.Provides id record) : after.Provides id record := by
  have hkept : id ∉ dropped := fun hmem => hjust.unused id hmem hused
  cases hprovides with
  | external external hsource howner hvalid hentry =>
    refine .external external hsource howner (h.externals_length ▸ hvalid) ?_
    rw [h.external external hvalid]
    exact get?_exportsWithout _ (hsound.externals external hvalid).proper _ id hentry hkept
  | declared module owner binding hsource howner hvalid hmember hbinding hlive hcounted hentry =>
    have hnot : binding.identity ∉ before.lostIdentities gone (before.module module) := by
      intro hlost
      have hgone := hsound.gone_of_lost module hvalid owner hmember binding hbinding hlost
      rcases hjust.idle_of_mem hsound module hvalid owner hmember binding hbinding hgone with
        hnone | ⟨-, hunused⟩
      · omega
      · refine hunused id (List.mem_filter.mpr ⟨hentry, ?_⟩) hused
        simp [hrecord, howner]
    have hbinding' := h.binding_eq hsound module hvalid owner hmember binding hbinding
    have hproper := hsound.proper module hvalid
    obtain ⟨name, hname⟩ := Table.get?_of_mem_values _ hproper id hentry
    refine .declared module owner _ hsource howner (h.length ▸ hvalid) ?_ hbinding'
      (by simpa using hnot) hcounted (Table.value_mem_of_get? _ name id
        (h.get?_exports module hvalid hproper name id hname hkept))
    rw [h.bindings_eq module hvalid]
    exact hmember
  | unnamed module hsource howner hvalid hname hdefault =>
    refine .unnamed module hsource howner (h.length ▸ hvalid) hname ?_
    rw [h.unnamedDefault_eq module hvalid]
    exact hdefault
  | aggregate module hsource howner hvalid hname hentry =>
    exact .aggregate module hsource howner (h.length ▸ hvalid) hname
      (h.get?_exports module hvalid (hsound.proper module hvalid) _ id hentry hkept)

theorem Shaken.dependencyTargets_eq (h : before.Shaken gone dropped after) (id : ModuleId) :
    (after.module id).dependencyTargets = (before.module id).dependencyTargets := by
  by_cases hid : id < before.modules.length
  · obtain ⟨stars, -, hmodule⟩ := h.module id hid
    rw [hmodule]
    rfl
  · rw [before.module_of_length_le id (Nat.le_of_not_lt hid),
      after.module_of_length_le id (h.length ▸ Nat.le_of_not_lt hid)]

theorem Shaken.moduleDependencies (h : before.Shaken gone dropped after) (id : ModuleId) :
    (after.module id).moduleDependencies = (before.module id).moduleDependencies := by
  rw [Module.moduleDependencies, h.dependencyTargets_eq, Module.moduleDependencies]

theorem Shaken.reaches (h : before.Shaken gone dropped after) (first second : ModuleId) :
    after.Reaches first second ↔ before.Reaches first second := by
  unfold Reaches
  simp only [h.moduleDependencies]

theorem Shaken.supplies (h : before.Shaken gone dropped after) (hsound : before.Sound)
    (hjust : before.Just gone dropped used) (target : Target) (id : RecordId) (hused : used id)
    (hsupplies : before.Supplies target id) : after.Supplies target id := by
  obtain ⟨record, hrecord, hprovides, hsource⟩ := hsupplies
  refine ⟨record, h.records ▸ hrecord,
    h.provides hsound hjust id record hrecord hused hprovides, ?_⟩
  cases target with
  | module module => exact fun source heq => (h.reaches module source).mpr (hsource source heq)
  | external external => exact hsource

end Session

end ScopeHoist
