import ScopeHoist.Proofs.Globals
import ScopeHoist.Proofs.Remains

/-!
# No reference dangles

Whatever a linked program names of a module or an external, it defines in its outermost scope under
the same name: what the statements of its modules read, what the entry exports, and what namespace
objects are made of.
-/

set_option autoImplicit false

namespace ScopeHoist

namespace Session

/-- Whether a declaration of a module that has its final name is left in the program. -/
def DeclaresBinding (session : Session) (order : List ModuleId) (module : ModuleId)
    (id : BindingId) : Prop :=
  ∃ found, session.bindings[id]? = some found ∧
    (.declaration module found.identity, found.name) ∈ session.origins order

/-- Whether the value of a record is defined in the program under the record's name. -/
def DefinesRecord (session : Session) (order : List ModuleId) (id : RecordId) : Prop :=
  ∃ record, session.records[id]? = some record ∧
    match record.owner with
    | some owner => ∃ module, record.source = .module module ∧
        owner ∈ (session.module module).bindings ∧ session.DeclaresBinding order module owner ∧
          session.identifier id = session.nameOf (.binding owner)
    | none => (record.origin, session.identifier id) ∈ session.origins order

/-- A program in which all names of merged values are defined. -/
structure SelfContained (session : Session) (order : List ModuleId) : Prop where
  /-- Statements call a declaration of their module by its name. -/
  references : ∀ module ∈ order, ∀ occurrence,
    session.Occurs (session.module module) occurrence →
    (∀ kind, occurrence.role ≠ .declares kind) →
    ∀ binding ∈ (session.module module).bindings,
    (session.bindings[binding]?).map Binding.identity = some occurrence.ident.identity →
      (occurrence.rename (session.renamesOf (session.module module))).ident.name =
          session.nameOf (.binding binding) ∧
        session.DeclaresBinding order module binding
  /-- Statements call an import by the name of the record that it stands for. -/
  imports : ∀ module ∈ order, ∀ occurrence,
    session.Occurs (session.module module) occurrence →
    ∀ binding ∈ (session.module module).imports, binding.identity = occurrence.ident.identity →
    ∀ record, binding.resolved = some record →
      (occurrence.rename (session.renamesOf (session.module module))).ident.name =
          session.identifier record ∧
        session.DefinesRecord order record
  /-- The entry exports records by their names. -/
  exports : ∀ module ∈ order, ∀ specifiers span,
    .exportList specifiers span ∈ session.entryExports (session.module module) →
    ∀ specifier ∈ specifiers, ∃ entry ∈ (session.module module).exports,
      specifier.namePair = (session.identifier entry.2, entry.1) ∧
        session.DefinesRecord order entry.2
  /-- A namespace object is made of records by their names, and of what generated code reads. -/
  members : ∀ module ∈ order, (session.module module).exports.has aggregateName = true →
    ∀ occurrence ∈ (session.aggregateValue (session.module module)).occurrences .reads,
      (∃ record, (record ∈ (session.module module).exports.values ∨
          record ∈ session.mergedRecords (session.module module)) ∧
        occurrence.ident.name = session.identifier record ∧ session.DefinesRecord order record) ∨
      (occurrence.ident.name = mergeHelperName ∧
        (.helper, mergeHelperName) ∈ session.origins order) ∨
      occurrence.ident.name = "Object"

section

variable {built linked : Session} {order : List ModuleId}

theorem mem_origins_of_module (module : ModuleId) (hmodule : module ∈ order)
    (entry : Origin × String) (h : entry ∈ linked.moduleOrigins module) :
    entry ∈ linked.origins order :=
  List.mem_append_right _ (List.mem_flatMap.mpr ⟨module, hmodule, h⟩)

theorem importedEntries_of_get? (external : External) (name : String) (record : RecordId)
    (h : external.exports.get? name = some record) :
    (name, record) ∈ external.importedEntries := by
  have hwhole : (name, record) ∈ (external.exports.get? name).toList.map fun record =>
      (name, record) := by
    rw [h]
    exact List.mem_singleton.mpr rfl
  have hmem : name = defaultName ∨ name = aggregateName ∨
      (name, record) ∈ external.exports.filter fun entry =>
        entry.1 != defaultName && entry.1 != aggregateName := by
    by_cases hdefault : name = defaultName
    · exact .inl hdefault
    · by_cases haggregate : name = aggregateName
      · exact .inr (.inl haggregate)
      · exact .inr (.inr (List.mem_filter.mpr ⟨Table.mem_of_get? _ _ _ h, by
          simp [hdefault, haggregate]⟩))
  unfold External.importedEntries
  dsimp only
  rcases hmem with rfl | rfl | hmem
  all_goals
    split <;> simp only [List.mem_append]
    all_goals first
      | exact .inl (.inl hwhole)
      | exact .inl (.inr hwhole)
      | exact .inr hwhole
      | exact .inr hmem
      | exact .inl (.inr hmem)

/-! ## Records -/

theorem defines_of_external (id : RecordId) (record : ExportRecord)
    (hrecord : linked.records[id]? = some record) (external : ExternalId)
    (hvalid : external < linked.externals.length) (hsource : record.source = .external external)
    (howner : record.owner = none)
    (hentry : (linked.external external).exports.get? record.localName = some id) :
    linked.DefinesRecord order id := by
  refine ⟨record, hrecord, ?_⟩
  rw [howner]
  refine List.mem_append_left _ (List.mem_append_left _ (List.mem_flatMap.mpr
    ⟨external, List.mem_range.mpr hvalid, List.mem_map.mpr
      ⟨_, importedEntries_of_get? _ _ _ hentry, ?_⟩⟩))
  rw [ExportRecord.origin, hsource]

/-- A record is defined if the module that it comes from is part of the program. -/
theorem Linked.defines_of_provides (h : built.Linked linked order)
    (hlawful : ∀ module ∈ order, (built.module module).program.Lawful) (id : RecordId)
    (record : ExportRecord) (hrecord : linked.records[id]? = some record)
    (hprovides : linked.Provides id record)
    (hsource : ∀ module, record.source = .module module → module ∈ order) :
    linked.DefinesRecord order id := by
  cases hprovides with
  | external external hfrom howner hvalid hentry =>
    exact defines_of_external id record hrecord external hvalid hfrom howner hentry
  | declared module owner binding hfrom howner hvalid hmember hbinding hkept hcounted hentry =>
    have hmodule := hsource module hfrom
    obtain ⟨unused, hleft⟩ := h.leftOf module hvalid
    refine ⟨record, hrecord, ?_⟩
    rw [howner]
    refine ⟨module, hfrom, hmember, ⟨binding, hbinding, mem_origins_of_module module hmodule _ ?_⟩,
      h.distinct.owned module hmodule id hentry record hrecord owner hmember howner
        ⟨binding, hbinding, hkept⟩⟩
    exact hleft.declared_of_kept h.sound h.linkable hvalid (hlawful module hmodule) owner
      (hleft.bindings ▸ hmember) binding hbinding hkept
  | unnamed module hfrom howner hvalid hname hdefault =>
    have hmodule := hsource module hfrom
    obtain ⟨unused, hleft⟩ := h.leftOf module hvalid
    refine ⟨record, hrecord, ?_⟩
    rw [howner]
    have horigin : record.origin = .unnamedDefault module := by
      rw [ExportRecord.origin, hfrom, hname]
      rfl
    exact horigin ▸ mem_origins_of_module module hmodule _
      (hleft.declared_of_unnamed h.sound (hlawful module hmodule) id hdefault)
  | aggregate module hfrom howner hvalid hname hentry =>
    have hmodule := hsource module hfrom
    refine ⟨record, hrecord, ?_⟩
    rw [howner]
    have horigin : record.origin = .aggregate module := by
      rw [ExportRecord.origin, hfrom, hname]
      rfl
    refine horigin ▸ mem_origins_of_module module hmodule _ (List.mem_append_right _ ?_)
    rw [hentry]
    exact List.mem_singleton.mpr rfl

theorem Linked.defines_export (h : built.Linked linked order)
    (hlawful : ∀ module ∈ order, (built.module module).program.Lawful) (module : ModuleId)
    (hmodule : module ∈ order) (id : RecordId)
    (hid : id ∈ (linked.module module).exports.values) : linked.DefinesRecord order id := by
  obtain ⟨record, hrecord, hprovides, hreaches⟩ :=
    h.linkable.supplies module (h.linkable.order.valid module hmodule) id hid
  exact h.defines_of_provides hlawful id record hrecord hprovides fun source hsource =>
    h.linkable.order.reached module hmodule source (hreaches source hsource)

theorem Linked.defines_merged (h : built.Linked linked order) (module : ModuleId)
    (hmodule : module ∈ order) (id : RecordId)
    (hid : id ∈ linked.mergedRecords (linked.module module)) : linked.DefinesRecord order id := by
  obtain ⟨star, hstar, hentry⟩ := linked.mergedRecords_external _ id hid
  have hvalid := h.linkable.stars module (h.linkable.order.valid module hmodule) star hstar
  obtain ⟨record, hrecord, hname, hsource, howner⟩ :=
    (h.linkable.externals star.external hvalid).entries _ (Table.mem_of_get? _ _ _ hentry)
  exact defines_of_external id record hrecord star.external hvalid hsource howner (hname ▸ hentry)

/-- What an import that is used stands for is defined. -/
theorem Linked.defines_import (h : built.Linked linked order)
    (hlawful : ∀ module ∈ order, (built.module module).program.Lawful) (module : ModuleId)
    (hmodule : module ∈ order) (binding : ImportBinding)
    (hbinding : binding ∈ (linked.module module).imports) (hlive : 0 < binding.references)
    (id : RecordId) (hresolved : binding.resolved = some id) : linked.DefinesRecord order id := by
  obtain ⟨⟨record, hrecord, hprovides, hfrom⟩, htarget⟩ :=
    h.linkable.imports module (h.linkable.order.valid module hmodule) binding hbinding hlive id
      hresolved
  refine h.defines_of_provides hlawful id record hrecord hprovides fun source hsource => ?_
  cases hto : binding.target with
  | external external =>
    rw [hto] at hfrom
    exact absurd (hsource.symm.trans hfrom) nofun
  | module target =>
    rw [hto] at hfrom htarget
    refine h.linkable.order.reached module hmodule source ?_
    exact Relation.ReflTransGen.head ((mem_moduleDependencies _ _).mpr htarget)
      (hfrom source hsource)

/-! ## Imports -/

theorem LeftOf.spelling_import {module : ModuleId} {unused : List Identity}
    (h : built.LeftOf linked module unused) (hsound : built.Sound)
    (hlawful : (built.module module).program.Lawful) (binding : ImportBinding)
    (hbinding : binding ∈ (linked.module module).imports) (record : RecordId)
    (hresolved : binding.resolved = some record) :
    linked.spelling (linked.module module) binding.identity = linked.identifier record := by
  have hkey : binding.identity ∈ (linked.topLevelRenames (linked.module module)).map Prod.fst := by
    rw [topLevelRenames_keys]
    exact .inr (List.mem_map_of_mem hbinding)
  have hmem := mem_of_mem_lastNames _ _ (spelling_of_key linked _ _ hkey)
  rw [h.imports] at hbinding
  rcases List.mem_append.mp hmem with hmem | hmem
  · obtain ⟨id, hid, hname⟩ := List.mem_filterMap.mp hmem
    split at hname
    · rename_i found hfound
      split at hname
      · exact absurd hname nofun
      · obtain ⟨hsame, -⟩ := Prod.mk.inj (Option.some.inj hname)
        rw [h.bindings] at hid
        obtain ⟨earlier, hearlier, hidentity, -⟩ := h.built_binding hsound id hid found hfound
        exact absurd (hidentity.trans hsame)
          (h.not_declared hsound hlawful binding hbinding id hid earlier hearlier)
    · exact absurd hname nofun
  · obtain ⟨other, hother, heq⟩ := List.mem_map.mp hmem
    obtain ⟨hsame, hname⟩ := Prod.mk.inj heq
    rw [h.imports] at hother
    obtain rfl := h.import_unique hsound hlawful other binding hother hbinding
      (congrArg Identity.name hsame)
    rw [← hname, hresolved]
    rfl

/-! ## The whole program -/

theorem exportItem_pairs (entries : List (String × String)) (specifiers : List ExportSpecifier)
    (span : Span) (h : .exportList specifiers span = exportItem entries) :
    ∀ specifier ∈ specifiers, specifier.namePair ∈ entries := by
  obtain ⟨rfl, -⟩ := Item.exportList.inj h
  intro specifier hspecifier
  obtain ⟨entry, hentry, rfl⟩ := List.mem_map.mp hspecifier
  have hvalue : ∀ name, (OuterName.generated name).value = name := fun name => by
    unfold OuterName.generated
    split <;> rfl
  have hself : ∀ name, (OuterName.ident (.generated name)).value = name := fun _ => rfl
  suffices hpair : ExportSpecifier.namePair (.named (.ident (.generated entry.1))
      (if entry.1 == entry.2 then none else some (.generated entry.2)) .generated) = entry from
    hpair.symm ▸ hentry
  by_cases heq : entry.1 = entry.2
  · simp [ExportSpecifier.namePair, hself, heq, Prod.ext_iff]
  · simp [ExportSpecifier.namePair, hself, hvalue, heq]

theorem Linked.selfContained (h : built.Linked linked order)
    (hlawful : ∀ module ∈ order, (built.module module).program.Lawful) :
    linked.SelfContained order where
  references := by
    intro module hmodule occurrence hoccurs hrole binding hbinding hidentity
    have hvalid := h.linkable.order.valid module hmodule
    obtain ⟨unused, hleft⟩ := h.leftOf module hvalid
    obtain ⟨found, hfound, hsame⟩ := Option.map_eq_some_iff.mp hidentity
    have hmember := hleft.bindings ▸ hbinding
    have hkept := hleft.kept_of_read h.sound (hlawful module hmodule) occurrence hoccurs hrole
      binding hmember found hfound hsame
    have hdeclared := hleft.declared_of_kept h.sound h.linkable hvalid (hlawful module hmodule)
      binding hmember found hfound hkept
    have himported : found.identity ∉ importIdentities (linked.module module) := by
      intro hmem
      obtain ⟨other, hother, heq⟩ := List.mem_map.mp hmem
      obtain ⟨earlier, hearlier, hidentity, -⟩ :=
        hleft.built_binding h.sound binding hmember found hfound
      exact hleft.not_declared h.sound (hlawful module hmodule) other (hleft.imports ▸ hother)
        binding hmember earlier hearlier (hidentity.trans heq.symm)
    refine ⟨?_, found, hfound, mem_origins_of_module module hmodule _ hdeclared⟩
    have hspelling := h.linkable.spelling_binding module hvalid binding hbinding found hfound hkept
      himported
    rw [hsame] at hspelling
    rw [nameOf, hfound]
    exact hspelling
  imports := by
    intro module hmodule occurrence hoccurs binding hbinding hsame record hresolved
    obtain ⟨unused, hleft⟩ := h.leftOf module (h.linkable.order.valid module hmodule)
    have hlive := hleft.live_of_read h.sound (hlawful module hmodule) occurrence hoccurs binding
      (hleft.imports ▸ hbinding) record hresolved hsame
    have hspelling := hleft.spelling_import h.sound (hlawful module hmodule) binding hbinding record
      hresolved
    rw [hsame] at hspelling
    exact ⟨hspelling,
      h.defines_import hlawful module hmodule binding hbinding hlive record hresolved⟩
  exports := by
    intro module hmodule specifiers span hitem specifier hspecifier
    rcases List.mem_append.mp hitem with hitem | hitem
    · split at hitem
      · exact absurd hitem List.not_mem_nil
      · have hpair := exportItem_pairs _ specifiers span (List.mem_singleton.mp hitem) specifier
          hspecifier
        obtain ⟨entry, hentry, heq⟩ := List.mem_map.mp hpair
        have hmem := (List.mem_filter.mp hentry).1
        exact ⟨entry, hmem, heq.symm,
          h.defines_export hlawful module hmodule entry.2 (List.mem_map_of_mem hmem)⟩
    · obtain ⟨star, -, heq⟩ := List.mem_map.mp hitem
      cases heq
  members := by
    intro module hmodule haggregate occurrence hoccurs
    rcases linked.aggregateValue_names _ occurrence hoccurs with ⟨record, hrecord, hname⟩ |
      ⟨hname, hmerged⟩ | hname
    · refine .inl ⟨record, hrecord, hname, ?_⟩
      rcases hrecord with hrecord | hrecord
      · exact h.defines_export hlawful module hmodule record hrecord
      · exact h.defines_merged module hmodule record hrecord
    · refine .inr (.inl ⟨hname, List.mem_append_left _ (List.mem_append_right _ ?_)⟩)
      have hneeds : linked.needsMergeHelper order = true :=
        List.any_eq_true.mpr ⟨module, hmodule, by simp [haggregate, hmerged]⟩
      rw [helperOrigins, if_pos hneeds]
      exact List.mem_singleton.mpr rfl
    · exact .inr (.inr hname)

end

end Session

/-- Nothing dangles in a bundle of modules that are lawful: all that its program names of a module
or an external it defines, and its text is that of the program. -/
theorem bundle_self_contained (tree : FileTree) (entry : Path) (output : Option Path)
    (options : BundleOptions) (bundled : Bundle)
    (h : (bundle tree entry output options).outcome = .ok bundled)
    (hlawful : ∀ module ∈ bundleOrder tree entry options,
      ((builtSession tree entry options).module module).program.Lawful) :
    let linked := linkedSession tree entry options
    let order := bundleOrder tree entry options
    let program := bundledProgram tree entry options
    bundled.code = program.text linked.comments linked.options.minify ∧
      program.topLevel.map Ident.name = (linked.origins order).map Prod.snd ∧
      (∀ module, (linked.hoistedStatements (linked.module module)).flatMap Item.occurrences =
        ((linked.keptItems (linked.module module)).flatMap Item.occurrences).map
          (Occurrence.rename (linked.renamesOf (linked.module module)))) ∧
      linked.SelfContained order :=
  ⟨bundle_code tree entry output options bundled h, Session.linkedProgram_names _ _,
    fun _ => Session.hoistedStatements_occurrences _ _,
    (linked_linkedSession tree entry options).selfContained hlawful⟩

/-- An entry that exports what it reads of another module. -/
def borrowing : FileTree :=
  ⟨[(["i"], .file "import{a}from'./l';export const b=a".toUTF8),
    (["l"], .file "export const a=1".toUTF8)], []⟩

set_option maxRecDepth 100000 in
theorem bundle_self_contained_borrowing :
    (bundle borrowing "/i" none .standard).outcome =
        .ok ⟨"const a = 1;\nconst b = a;\nexport { b };\n", ⟨51, 40, 2, 0, false, true⟩, []⟩ ∧
      (linkedSession borrowing "/i" .standard).SelfContained
        (bundleOrder borrowing "/i" .standard) := by
  have hbundle : (bundle borrowing "/i" none .standard).outcome =
      .ok ⟨"const a = 1;\nconst b = a;\nexport { b };\n", ⟨51, 40, 2, 0, false, true⟩, []⟩ := by
    decide +kernel
  have hlawful : ∀ module ∈ bundleOrder borrowing "/i" .standard,
      ((builtSession borrowing "/i" .standard).module module).program.Lawful := by
    decide +kernel
  exact ⟨hbundle, (bundle_self_contained borrowing "/i" none .standard _ hbundle hlawful).2.2.2⟩

/-- A module with two default exports, of which the second reads what is not used elsewhere. -/
def defaultTwice : FileTree :=
  ⟨[(["i"], .file "import'./l';f(1)".toUTF8),
    (["l"], .file "export default 1;const x=2;export default x".toUTF8)], []⟩

set_option maxRecDepth 100000 in
/-- Not every bundle is free of dangling names: the declaration of `x` is gone, its use is not. -/
theorem bundle_not_always_self_contained :
    ¬ ∀ (tree : FileTree) (entry : Path) (output : Option Path) (options : BundleOptions)
      (bundled : Bundle), (bundle tree entry output options).outcome = .ok bundled →
        (linkedSession tree entry options).SelfContained (bundleOrder tree entry options) := by
  intro hall
  have hbundle : (bundle defaultTwice "/i" none .standard).outcome =
      .ok ⟨"const l = 1;\nconst l = x;\nf(1);\n", ⟨59, 32, 2, 0, false, true⟩, []⟩ := by
    decide +kernel
  have hread : 0 ∈ bundleOrder defaultTwice "/i" .standard ∧
      (∃ kept ∈ (linkedSession defaultTwice "/i" .standard).keptItems
          ((linkedSession defaultTwice "/i" .standard).module 0),
        ⟨⟨"x", .module, ⟨60, 61⟩⟩, .reads⟩ ∈ kept.occurrences) ∧
      0 ∈ ((linkedSession defaultTwice "/i" .standard).module 0).bindings ∧
      ((linkedSession defaultTwice "/i" .standard).bindings[0]?).map Binding.identity =
        some ⟨"x", .module⟩ := by
    decide +kernel
  have hgone : ∀ origin ∈ (linkedSession defaultTwice "/i" .standard).origins
      (bundleOrder defaultTwice "/i" .standard), origin.1.isDeclaration = false := by
    decide +kernel
  obtain ⟨hmodule, hoccurs, hmember, hidentity⟩ := hread
  obtain ⟨-, found, -, horigin⟩ := (hall _ _ _ _ _ hbundle).references 0 hmodule _ hoccurs
    (fun _ => nofun) 0 hmember hidentity
  exact absurd (hgone _ horigin) nofun

end ScopeHoist
