import ScopeHoist.Proofs.Exposure
import ScopeHoist.Proofs.Interruption

/-!
# What a program can observe

To be used is to be observed: by an import, by what the entry offers, or with a namespace. In a
graph of plain names no module holds its own namespace but as its namespace, since whatever else a
module holds it declares or has from modules that were there before. So no record is a ground for
itself.
-/

set_option autoImplicit false

namespace ScopeHoist

namespace Session

/-- What can be observed of a session: records that an import with uses resolves to, and those that
an entry exports. With the namespace of a module all that the module exports is observed, but for
its default, and so are the namespaces of all externals that it exports whole. -/
inductive Observed (session : Session) : RecordId → Prop
  | imported (module : Module) (hmodule : module ∈ session.modules) (binding : ImportBinding)
      (hbinding : binding ∈ module.imports) (hlive : 0 < binding.references) (record : RecordId)
      (hresolved : binding.resolved = some record) : Observed session record
  | offered (module : Module) (hmodule : module ∈ session.modules)
      (hentry : module.isEntry = true) (record : RecordId)
      (hrecord : record ∈ module.exports.values) : Observed session record
  | member (module : Module) (hmodule : module ∈ session.modules) (name : String)
      (record aggregate : RecordId) (hrecord : (name, record) ∈ module.exports)
      (hname : name ≠ defaultName ∧ name ≠ aggregateName)
      (haggregate : module.exports.get? aggregateName = some aggregate)
      (hobserved : Observed session aggregate) : Observed session record
  | whole (record : RecordId) (found : ExportRecord) (external : ExternalId)
      (hfound : session.records[record]? = some found) (hname : found.localName = aggregateName)
      (hsource : found.source = .external external) (module : Module)
      (hmodule : module ∈ session.modules) (star : StarReexport) (hstar : star ∈ module.stars)
      (hto : star.external = external) (aggregate : RecordId)
      (haggregate : module.exports.get? aggregateName = some aggregate)
      (hobserved : Observed session aggregate) : Observed session record

variable {session : Session}

/-- What is certainly used is imported or exported by an entry. -/
theorem of_certain_mem_grounds (record : RecordId) (h : .certain ∈ session.grounds record) :
    session.isImported record = true ∨
      ∃ module ∈ session.modules, module.isEntry = true ∧ record ∈ module.exports.values := by
  unfold grounds at h
  split at h
  · rename_i himported
    exact .inl himported
  · rcases List.mem_append.mp h with h | h
    · obtain ⟨module, hmodule, hground⟩ := List.mem_flatMap.mp h
      obtain ⟨entry, hentry, hground⟩ := List.mem_filterMap.mp hground
      obtain ⟨hmem, hrecord⟩ := List.mem_filter.mp hentry
      refine .inr ⟨module, hmodule, ?_, eq_of_beq hrecord ▸ List.mem_map_of_mem hmem⟩
      by_contra hnot
      simp only [exposureGround, hnot, if_false] at hground
      split at hground
      · cases hground
      · simp at hground
    · unfold starGrounds at h
      split at h
      · split at h
        · obtain ⟨module, -, hground⟩ := List.mem_flatMap.mp h
          obtain ⟨star, -, hground⟩ := List.mem_filterMap.mp hground
          simp at hground
        · exact absurd h List.not_mem_nil
      · exact absurd h List.not_mem_nil

theorem observed_of_used (record : RecordId) (h : session.Used record) :
    session.Observed record := by
  induction h with
  | certain record h =>
    rcases of_certain_mem_grounds record h with himported | ⟨module, hmodule, hentry, hrecord⟩
    · obtain ⟨module, hmodule, hany⟩ := List.any_eq_true.mp himported
      obtain ⟨binding, hbinding, hlive⟩ := List.any_eq_true.mp hany
      simp only [Bool.and_eq_true, decide_eq_true_eq, beq_iff_eq] at hlive
      exact .imported module hmodule binding hbinding hlive.1 record hlive.2
    · exact .offered module hmodule hentry record hrecord
  | through record aggregate h _ ih =>
    obtain ⟨id, hid, haggregate, hheld⟩ := through_of_mem_grounds record aggregate h
    have hmodule := session.module_mem id hid
    rcases hheld with ⟨name, hrecord, hname⟩ | ⟨star, hstar, found, hfound, hname, hsource⟩
    · exact .member _ hmodule name record aggregate hrecord hname haggregate ih
    · exact .whole record found _ hfound hname hsource _ hmodule star hstar rfl aggregate
        haggregate ih

theorem used_of_observed (record : RecordId) (h : session.Observed record) :
    session.Used record := by
  induction h with
  | imported module hmodule binding hbinding hlive record hresolved =>
    obtain ⟨id, hid, rfl⟩ := module_of_mem hmodule
    exact .certain record (session.certain_of_isImported record
      (session.isImported_of_mem id hid binding hbinding hlive record hresolved))
  | offered module hmodule hentry record hrecord =>
    obtain ⟨id, hid, rfl⟩ := module_of_mem hmodule
    obtain ⟨entry, hmem, rfl⟩ := List.mem_map.mp hrecord
    exact .certain _ (session.certain_of_entry id hid hentry entry hmem)
  | member module hmodule name record aggregate hrecord hname haggregate _ ih =>
    obtain ⟨id, hid, rfl⟩ := module_of_mem hmodule
    exact used_of_member id hid aggregate haggregate ih (name, record) hrecord
      (by simpa [isMemberName] using hname)
  | whole record found external hfound hname hsource module hmodule star hstar hto aggregate
      haggregate _ ih =>
    obtain ⟨id, hid, rfl⟩ := module_of_mem hmodule
    exact used_of_foreign id hid aggregate haggregate ih star hstar record found hfound hname
      (hto ▸ hsource)

theorem used_iff_observed (record : RecordId) :
    session.Used record ↔ session.Observed record :=
  ⟨observed_of_used record, used_of_observed record⟩

/-! ## No record is a ground for itself -/

theorem Publishes.yields_of_mem {module : Module} {clauses : List Clause}
    {published : List Published} (h : session.Publishes module clauses published)
    (entry : Published) (hentry : entry ∈ published) :
    ∃ referent, session.Yields module referent (some entry.record) := by
  induction h with
  | nil => exact absurd hentry List.not_mem_nil
  | made clause clauses record isUnnamed published hyields _ ih =>
    rcases List.mem_cons.mp hentry with rfl | hentry
    · exact ⟨_, hyields⟩
    · exact ih hentry
  | skipped clause clauses published _ _ ih => exact ih hentry

theorem Sound.not_aggregate_of_dependency (hsound : session.Sound) (id : ModuleId)
    (dependency : ModuleId) (htarget : .module dependency ∈ (session.module id).dependencyTargets)
    (name : String) (record : RecordId)
    (hrecord : (session.module dependency).exports.get? name = some record) :
    ¬ session.IsAggregate id record := fun haggregate => by
  have hlt := hsound.dependencies_lt id dependency ((mem_moduleDependencies _ _).mpr htarget)
  by_cases hvalid : dependency < session.modules.length
  · have hheld := hsound.aggregate_held dependency hvalid record
      (Table.value_mem_of_get? _ _ _ hrecord) id haggregate
    exact absurd hheld.1 (Nat.not_le_of_lt hlt)
  · rw [session.module_of_length_le dependency (Nat.le_of_not_lt hvalid)] at hrecord
    exact absurd hrecord nofun

theorem Sound.foreign_of_held (hsound : session.Sound) (id : ExternalId) (name : String)
    (record : RecordId) (h : (session.external id).exports.get? name = some record) :
    ∃ found, session.records[record]? = some found ∧ found.source = .external id := by
  by_cases hid : id < session.externals.length
  · obtain ⟨found, hfound, -, hsource, -⟩ :=
      (hsound.externals id hid).entries _ (Table.mem_of_get? _ _ _ h)
    exact ⟨found, hfound, hsource⟩
  · rw [external, List.getD_eq_getElem?_getD, List.getElem?_eq_none (Nat.le_of_not_lt hid)] at h
    cases h

theorem Yields.not_aggregate (hsound : session.Sound) (id : ModuleId) (referent : Referent)
    (record : RecordId) (h : session.Yields (session.module id) referent (some record)) :
    ¬ session.IsAggregate id record := by
  rintro ⟨found, hfound, hname, hsource, howner⟩
  have hgranted : ∀ (specifier name : String) (target : Target),
      (session.module id).target? specifier = some target →
      ¬ session.Granted name (some record) target := by
    intro specifier name target htarget hgranted
    cases target with
    | module dependency =>
      exact hsound.not_aggregate_of_dependency id dependency (target?_mem _ specifier _ htarget)
        name record hgranted.2.1 ⟨found, hfound, hname, hsource, howner⟩
    | external external =>
      obtain ⟨_, heq, hentry⟩ := hgranted
      obtain rfl := Option.some.inj heq
      obtain ⟨found', hfound', hforeign⟩ := hsound.foreign_of_held external name record hentry
      obtain rfl := Option.some.inj (hfound.symm.trans hfound')
      exact absurd (hsource.symm.trans hforeign) nofun
  have hunnamed : ¬ session.IsUnnamed (session.module id).id record := by
    rintro ⟨found', hfound', hdefault, -⟩
    obtain rfl := Option.some.inj (hfound.symm.trans hfound')
    exact absurd (hname.symm.trans hdefault) InSession.aggregateName_ne_defaultName
  cases h with
  | declared identity record h =>
    obtain ⟨found', owner, binding, hfound', -, howned, -⟩ := h
    obtain rfl := Option.some.inj (hfound.symm.trans hfound')
    exact absurd (howner.symm.trans howned) nofun
  | outer specifier name target result htarget h => exact hgranted specifier name target htarget h
  | imported specifier name target record htarget h =>
    exact hgranted specifier name target htarget h
  | unresolved specifier name target record htarget hnone h => exact hunnamed h
  | unnamed record h => exact hunnamed h

theorem mem_of_lastPublished (published : List Published) (name : String) (record : RecordId)
    (h : lastPublished published name = some record) :
    ∃ entry ∈ published, entry.record = record := by
  obtain ⟨entry, hentry, rfl⟩ := Option.map_eq_some_iff.mp h
  exact ⟨entry, (List.mem_filter.mp (List.mem_of_getLast? hentry)).1, rfl⟩

theorem mem_of_lastHeld (held : ModuleId → Table RecordId) (modules : List ModuleId)
    (name : String) (record : RecordId) (h : lastHeld held modules name = some record) :
    ∃ id ∈ modules, (held id).get? name = some record := by
  unfold lastHeld at h
  split at h
  · exact absurd h nofun
  · exact List.mem_filterMap.mp (List.mem_of_getLast? h)

theorem Wired.name_of_aggregate {first : ModuleId → Table RecordId}
    (hwired : session.Wired first) (hsound : session.Sound) (id : ModuleId)
    (hid : id < session.modules.length) (name : String) (record : RecordId)
    (hrecord : (session.module id).exports.get? name = some record)
    (haggregate : session.IsAggregate id record) : name = aggregateName := by
  have hcompleted := hwired.completed id hid
  obtain ⟨held, published, hpublishes, hholds, hentries⟩ := hcompleted.exports
  cases hfirst : (first (session.module id).id).get? name with
  | none =>
    rcases hcompleted.added name record hfirst hrecord with ⟨hname, -⟩ | ⟨-, -, hlent⟩
    · exact hname
    · obtain ⟨found, hfound, -, hsource, -⟩ := haggregate
      obtain ⟨star, -, found', hfound', hforeign⟩ := hlent
      obtain rfl := Option.some.inj (hfound.symm.trans hfound')
      exact absurd (hsource.symm.trans hforeign) nofun
  | some stored =>
    obtain rfl := Option.some.inj ((hcompleted.kept name stored hfirst).symm.trans hrecord)
    rw [hentries, firstEntry, Option.or_eq_some_iff] at hfirst
    rcases hfirst with hpublished | ⟨-, hpassed⟩
    · obtain ⟨entry, hentry, rfl⟩ := mem_of_lastPublished published name stored hpublished
      obtain ⟨referent, hyields⟩ := hpublishes.yields_of_mem entry hentry
      exact absurd haggregate (hyields.not_aggregate hsound id referent _)
    · obtain ⟨dependency, hdependency, hheld⟩ := mem_of_lastHeld held _ name stored hpassed
      exact absurd haggregate (hsound.not_aggregate_of_dependency id dependency
        (Module.mem_starModules _ _ hdependency) name stored
        ((hholds dependency hdependency).2 name stored |>.2 hheld))

/-- In a graph of plain names no record is used because it is. -/
theorem Wired.through_irrefl {first : ModuleId → Table RecordId} (hwired : session.Wired first)
    (hsound : session.Sound) (hplain : session.PlainNames) (record : RecordId) :
    .through record ∉ session.grounds record := fun h => by
  obtain ⟨id, hid, haggregate, hheld⟩ := through_of_mem_grounds record record h
  have hself := hplain.isAggregate hsound id hid record haggregate
  rcases hheld with ⟨name, hentry, -, hname⟩ | ⟨star, -, found, hfound, -, hforeign⟩
  · have hrecord := Table.get?_of_mem _ (hsound.proper id hid) name record hentry
    exact hname (hwired.name_of_aggregate hsound id hid name record hrecord hself)
  · obtain ⟨found', hfound', -, hsource, -⟩ := hself
    obtain rfl := Option.some.inj (hfound.symm.trans hfound')
    exact absurd (hforeign.symm.trans hsource) nofun

end Session

end ScopeHoist
