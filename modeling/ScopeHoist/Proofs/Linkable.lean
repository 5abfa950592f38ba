import ScopeHoist.Proofs.Liveness
import ScopeHoist.Proofs.Order
import ScopeHoist.Proofs.TopLevel

/-!
# Sessions that can be linked

What is left after shaking, asked for or not: every table still holds only records that are held
where they belong, and so does every import with uses, while declarations stay apart. This is all
that naming and assembling rely on.
-/

set_option autoImplicit false

namespace ScopeHoist

/-! ## Programs without idle declarations -/

theorem Program.relieved_item (unused : List Identity) (program : Program) (rest : Item)
    (h : rest ∈ (program.relieved unused).items) :
    ∃ item ∈ program.items, rest.occurrences ⊆ item.occurrences ∧
      (rest = item ∨ item.withoutIdle unused = some rest) := by
  unfold Program.relieved at h
  split at h
  · exact ⟨rest, h, List.Subset.refl _, .inl rfl⟩
  · obtain ⟨item, hitem, hrest, hsub⟩ := program.withoutIdle_item unused rest h
    exact ⟨item, hitem, hsub, .inr hrest⟩

theorem Program.relieved_occurrences (unused : List Identity) (program : Program) :
    (program.relieved unused).occurrences ⊆ program.occurrences := fun occurrence h => by
  obtain ⟨rest, hrest, hmem⟩ := List.mem_flatMap.mp h
  obtain ⟨item, hitem, hsub, -⟩ := program.relieved_item unused rest hrest
  exact List.mem_flatMap.mpr ⟨item, hitem, hsub hmem⟩

theorem Program.topLevel_relieved (unused : List Identity) (program : Program) (id : Ident)
    (h : id ∈ program.topLevel) :
    id.identity ∈ program.idleIdentities unused ∨ id ∈ (program.relieved unused).topLevel := by
  unfold Program.relieved
  split
  · exact .inr h
  · exact program.topLevel_withoutIdle unused id h

theorem exists_firstDeclarations (declarations : List Declaration) (declaration : Declaration)
    (h : declaration ∈ declarations) :
    ∃ first ∈ firstDeclarations declarations, first.name = declaration.name := by
  induction declarations with
  | nil => exact absurd h List.not_mem_nil
  | cons head rest ih =>
    rw [firstDeclarations]
    by_cases hname : head.name = declaration.name
    · exact ⟨head, List.mem_cons_self, hname⟩
    · have hrest : declaration ∈ rest := (List.mem_cons.mp h).resolve_left fun heq =>
        hname (heq ▸ rfl)
      obtain ⟨first, hfirst, heq⟩ := ih hrest
      refine ⟨first, List.mem_cons_of_mem _ (List.mem_filter.mpr ⟨hfirst, ?_⟩), heq⟩
      simpa [heq] using fun hsame => hname hsame.symm

theorem Program.exists_declaration (program : Program) (occurrence : Occurrence)
    (h : occurrence ∈ program.occurrences) (kind : BindingKind)
    (hrole : occurrence.role = .declares kind) (hscope : occurrence.ident.scope = .module) :
    ∃ declaration ∈ program.declarations, declaration.name = occurrence.ident.name := by
  refine exists_firstDeclarations _ ⟨occurrence.ident.name, kind⟩ (List.mem_filterMap.mpr
    ⟨occurrence, h, ?_⟩)
  simp [Occurrence.declaration?, hrole, hscope]

namespace Session

theorem SoundModule.exists_binding {session : Session} {module : Module}
    (h : session.SoundModule module) (declaration : Declaration)
    (hdeclaration : declaration ∈ module.program.declarations) :
    ∃ id ∈ module.bindings, session.IsBinding module id declaration := by
  obtain ⟨i, hi, rfl⟩ := List.getElem_of_mem hdeclaration
  have hlength := h.bindings.length_eq
  exact ⟨module.bindings[i], List.getElem_mem _,
    (List.forall₂_iff_get.mp h.bindings).2 i (by omega) hi⟩

/-- A session in which all that is left of tables and imports is held in modules of an order. The
programs are what is left of those of another session. -/
structure Linkable (source session : Session) (order : List ModuleId) : Prop where
  order : session.OrderedBy order
  bindings_nodup : ∀ id < session.modules.length, (session.module id).bindings.Nodup
  bindings_apart : ∀ first < session.modules.length, ∀ second < session.modules.length,
    ∀ binding ∈ (session.module first).bindings, binding ∈ (session.module second).bindings →
      first = second
  bindings_valid : ∀ id < session.modules.length, ∀ binding ∈ (session.module id).bindings,
    ∃ found, session.bindings[binding]? = some found
  bindings_unique : ∀ id < session.modules.length, ∀ first ∈ (session.module id).bindings,
    ∀ second ∈ (session.module id).bindings,
      (session.bindings[first]?).map Binding.identity =
        (session.bindings[second]?).map Binding.identity → first = second
  proper : ∀ id < session.modules.length, (session.module id).exports.Proper
  supplies : ∀ id < session.modules.length, ∀ record ∈ (session.module id).exports.values,
    session.Supplies (.module id) record
  imports : ∀ id < session.modules.length, ∀ binding ∈ (session.module id).imports,
    0 < binding.references → ∀ record, binding.resolved = some record →
      session.Supplies binding.target record ∧
        binding.target ∈ (session.module id).dependencyTargets
  aggregate : ∀ id < session.modules.length, ∀ record,
    (session.module id).exports.get? aggregateName = some record →
      session.IsAggregate id record ∨ (source.module id).program.ExportsAggregateName
  declared : ∀ id < session.modules.length, ∀ occurrence ∈ (session.module id).program.occurrences,
    ∀ kind, occurrence.role = .declares kind → occurrence.ident.scope = .module →
      ∃ binding ∈ (session.module id).bindings,
        (session.bindings[binding]?).map Binding.identity = some occurrence.ident.identity
  unnamed : ∀ id < session.modules.length, ∀ record,
    (session.module id).unnamedDefault = some record → session.IsUnnamed id record
  stars : ∀ id < session.modules.length, ∀ star ∈ (session.module id).stars,
    star.external < session.externals.length
  externals : ∀ id < session.externals.length, session.SoundExternal id

/-! ## What is needed counts as used -/

theorem certain_of_isImported (session : Session) (record : RecordId)
    (h : session.isImported record = true) : .certain ∈ session.grounds record := by
  simp [grounds, h]

theorem isImported_of_mem (session : Session) (id : ModuleId) (hid : id < session.modules.length)
    (binding : ImportBinding) (hbinding : binding ∈ (session.module id).imports)
    (hlive : 0 < binding.references) (record : RecordId)
    (hresolved : binding.resolved = some record) : session.isImported record = true := by
  refine List.any_eq_true.mpr ⟨_, session.module_mem id hid,
    List.any_eq_true.mpr ⟨binding, hbinding, ?_⟩⟩
  simp [hlive, hresolved]

theorem certain_of_entry (session : Session) (id : ModuleId) (hid : id < session.modules.length)
    (hentry : (session.module id).isEntry = true) (entry : String × RecordId)
    (hmem : entry ∈ (session.module id).exports) : .certain ∈ session.grounds entry.2 := by
  by_cases himported : session.isImported entry.2 = true
  · exact session.certain_of_isImported entry.2 himported
  · simp only [grounds, himported, Bool.false_eq_true, if_false]
    refine List.mem_append_left _ (List.mem_flatMap.mpr ⟨_, session.module_mem id hid,
      List.mem_filterMap.mpr ⟨entry, List.mem_filter.mpr ⟨hmem, by simp⟩, ?_⟩⟩)
    simp [exposureGround, hentry]

theorem removable_of_export (session : Session) (id : ModuleId)
    (hid : id < session.modules.length) (hentry : (session.module id).isEntry = false)
    (entry : String × RecordId) (hmem : entry ∈ (session.module id).exports) :
    entry.2 ∈ session.removableRecords := by
  refine List.mem_append_left _ (List.mem_flatMap.mpr ⟨session.module id,
    List.mem_filter.mpr ⟨session.module_mem id hid, by simpa using hentry⟩, ?_⟩)
  exact List.mem_map_of_mem hmem

theorem removable_of_foreign (session : Session) (id : ExternalId)
    (hid : id < session.externals.length) (entry : String × RecordId)
    (hmem : entry ∈ (session.external id).exports) : entry.2 ∈ session.removableRecords :=
  List.mem_append_right _ (List.mem_flatMap.mpr
    ⟨_, session.external_mem id hid, List.mem_map_of_mem hmem⟩)

variable {before after : Session} {gone : List BindingId} {dropped : List RecordId}
  {used : RecordId → Prop}

theorem Just.used_export (hjust : before.Just gone dropped used)
    (h : before.Shaken gone dropped after) (id : ModuleId) (hid : id < before.modules.length)
    (entry : String × RecordId) (hentry : entry ∈ (after.module id).exports) : used entry.2 := by
  obtain ⟨hmem, hkept⟩ := (h.mem_exports id hid entry).mp hentry
  by_cases hentry : (before.module id).isEntry = true
  · exact hjust.certain _ (before.certain_of_entry id hid hentry entry hmem)
  · exact hjust.kept entry.2 (before.removable_of_export id hid (by simpa using hentry) entry hmem)
      (hkept.resolve_left hentry)

theorem Shaken.soundExternal (h : before.Shaken gone dropped after) (hsound : before.Sound)
    (id : ExternalId) (hid : id < before.externals.length) : after.SoundExternal id := by
  have hold := hsound.externals id hid
  have hexports : (after.external id).exports =
      exportsWithout dropped (before.external id).exports := by
    rw [h.external id hid]
  refine ⟨hexports ▸ Table.proper_filter _ hold.proper _, fun entry hentry => ?_⟩
  rw [hexports] at hentry
  obtain ⟨record, hrecord, hrest⟩ := hold.entries entry ((mem_exportsWithout _ entry).mp hentry).1
  exact ⟨record, h.records ▸ hrecord, hrest⟩

section

variable (hsound : before.Sound) (h : before.Shaken gone dropped after) (id : ModuleId)
  (hid : id < before.modules.length)
include hsound h hid

theorem Shaken.supplies_export (hjust : before.Just gone dropped used) (record : RecordId)
    (hrecord : record ∈ (after.module id).exports.values) :
    after.Supplies (.module id) record := by
  obtain ⟨name, hentry⟩ := (Table.mem_values _ _).mp hrecord
  have hused := hjust.used_export h id hid (name, record) hentry
  have hmem := ((h.mem_exports id hid _).mp hentry).1
  have hsupplies := (hsound.modules id hid).exports.supplies record (List.mem_map_of_mem hmem)
  rw [hsound.id_eq id hid] at hsupplies
  exact h.supplies hsound hjust _ record hused hsupplies

theorem Shaken.supplies_import (hjust : before.Just gone dropped used) (binding : ImportBinding)
    (hbinding : binding ∈ (after.module id).imports) (hlive : 0 < binding.references)
    (record : RecordId) (hresolved : binding.resolved = some record) :
    after.Supplies binding.target record ∧
      binding.target ∈ (after.module id).dependencyTargets := by
  rw [h.imports_eq id hid] at hbinding
  rw [h.dependencyTargets_eq]
  have himport := (hsound.modules id hid).imports binding hbinding
  have hused := hjust.certain record (before.certain_of_isImported record
    (before.isImported_of_mem id hid binding hbinding hlive record hresolved))
  exact ⟨h.supplies hsound hjust _ record hused (himport.resolved record hresolved),
    himport.target⟩

/-- A namespace that a table still holds is that of the module, unless the module exports its
name. -/
theorem Shaken.isAggregate (record : RecordId)
    (hrecord : (after.module id).exports.get? aggregateName = some record) :
    after.IsAggregate id record ∨ (before.module id).program.ExportsAggregateName := by
  have hmem := ((h.mem_exports id hid _).mp (Table.mem_of_get? _ _ _ hrecord)).1
  have hold := (hsound.modules id hid).exports.aggregate record
    (Table.get?_of_mem _ (hsound.proper id hid) _ _ hmem)
  rw [hsound.id_eq id hid] at hold
  exact hold.imp_left fun ⟨found, hfound, hrest⟩ => ⟨found, h.records ▸ hfound, hrest⟩

theorem Shaken.exists_binding (occurrence : Occurrence)
    (hoccurrence : occurrence ∈ (after.module id).program.occurrences) (kind : BindingKind)
    (hrole : occurrence.role = .declares kind) (hscope : occurrence.ident.scope = .module) :
    ∃ binding ∈ (after.module id).bindings,
      (after.bindings[binding]?).map Binding.identity = some occurrence.ident.identity := by
  rw [h.program_eq id hid] at hoccurrence
  obtain ⟨declaration, hdeclaration, hname⟩ := Program.exists_declaration _ occurrence
    (Program.relieved_occurrences _ _ hoccurrence) kind hrole hscope
  obtain ⟨binding, hbinding, hstored⟩ :=
    (hsound.modules id hid).exists_binding declaration hdeclaration
  refine ⟨binding, (h.bindings_eq id hid).symm ▸ hbinding, ?_⟩
  rw [h.identity, hstored, Option.map_some, Option.some.injEq]
  exact Identity.mk.injEq .. |>.mpr ⟨hname, hscope.symm⟩

end

theorem linkable_of_shaken (hsound : before.Sound) (hjust : before.Just gone dropped used)
    (h : before.Shaken gone dropped after) (order : List ModuleId)
    (horder : before.OrderedBy order) : Linkable before after order := by
  constructor
  case order =>
    exact ⟨horder.nodup, fun id hid => h.length ▸ horder.valid id hid,
      fun id hid other hreaches => horder.reached id hid other ((h.reaches id other).mp hreaches)⟩
  case externals =>
    exact fun id hid => h.soundExternal hsound id (h.externals_length ▸ hid)
  all_goals rw [h.length]
  case bindings_nodup =>
    intro id hid
    rw [h.bindings_eq id hid]
    exact (hsound.modules id hid).bindings_nodup
  case bindings_apart =>
    intro first hfirst second hsecond binding hmem hmem'
    rw [h.bindings_eq first hfirst] at hmem
    rw [h.bindings_eq second hsecond] at hmem'
    exact hsound.module_unique first second hfirst hsecond binding hmem hmem'
  case bindings_valid =>
    intro id hid binding hmem
    rw [h.bindings_eq id hid] at hmem
    obtain ⟨_, -, hfound⟩ := (hsound.modules id hid).bindings_valid binding hmem
    exact ⟨_, h.binding_eq hsound id hid binding hmem _ hfound⟩
  case bindings_unique =>
    intro id hid first hfirst second hsecond hsame
    rw [h.bindings_eq id hid] at hfirst hsecond
    rw [h.identity, h.identity] at hsame
    exact (hsound.modules id hid).binding_unique first second hfirst hsecond hsame
  case proper => exact fun id hid => h.proper id hid (hsound.proper id hid)
  case supplies => exact fun id hid => h.supplies_export hsound id hid hjust
  case imports => exact fun id hid => h.supplies_import hsound id hid hjust
  case aggregate => exact fun id hid => h.isAggregate hsound id hid
  case declared => exact fun id hid => h.exists_binding hsound id hid
  case unnamed =>
    intro id hid record hrecord
    rw [h.unnamedDefault_eq id hid] at hrecord
    obtain ⟨found, hfound, hrest⟩ := (hsound.modules id hid).unnamed record hrecord
    rw [hsound.id_eq id hid] at hrest
    exact ⟨found, h.records ▸ hfound, hrest⟩
  case stars =>
    intro id hid star hstar
    rw [h.externals_length]
    exact (hsound.modules id hid).stars star (h.stars_subset id hid hstar)

end Session

end ScopeHoist
