import ScopeHoist.Proofs.Fusion

/-!
# Globals stay global

What a program reads without declaring it: names that the statements of its modules leave free,
`undefined` for imports of nothing, and what generated code reads. No name that was claimed is one
of these, but for `Array`, which only the function that merges namespaces reads. So a global is
hidden by a declaration that strayed, by that function, or in it.
-/

set_option autoImplicit false

namespace ScopeHoist

def MergeHelper.globals : List String := ["Object", "Array"]

def MergeHelper.locals : List String := [mergeHelperName, "n", "m", "e", "k", "d"]

theorem mergeHelper_names : ∀ occurrence ∈ mergeHelper.occurrences .reads,
    occurrence.ident.name ∉ MergeHelper.locals →
      occurrence.ident.name ∈ MergeHelper.globals := by
  decide +kernel

theorem mergeHelper_reads : ∀ name ∈ MergeHelper.globals,
    name ∉ MergeHelper.locals ∧
      ∃ occurrence ∈ mergeHelper.occurrences .reads, occurrence.ident.name = name := by
  decide +kernel

namespace Session

/-- Whether the statements of a module have a name of which there is no declaration in it. -/
def LeavesFree (session : Session) (module : Module) (name : String) : Prop :=
  ∃ item ∈ session.hoistedStatements module, ∃ occurrence ∈ item.occurrences,
    occurrence.ident.scope = .free ∧ occurrence.ident.name = name

/-- Whether the program of an order reads a global of some name. -/
inductive ReadsGlobal (session : Session) (order : List ModuleId) : String → Prop
  | free (module : ModuleId) (name : String) (hmodule : module ∈ order)
      (hfree : session.LeavesFree (session.module module) name) : ReadsGlobal session order name
  | missing (module : ModuleId) (binding : ImportBinding) (hmodule : module ∈ order)
      (hbinding : binding ∈ (session.module module).imports) (hmissing : binding.resolved = none) :
      ReadsGlobal session order "undefined"
  | aggregate (module : ModuleId) (hmodule : module ∈ order)
      (haggregate : (session.module module).exports.has aggregateName = true) :
      ReadsGlobal session order "Object"
  | helper (occurrence : Occurrence) (hneeds : session.needsMergeHelper order = true)
      (hoccurs : occurrence ∈ mergeHelper.occurrences .reads)
      (hname : occurrence.ident.name ∉ MergeHelper.locals) :
      ReadsGlobal session order occurrence.ident.name

theorem mem_childOccurrences (form : Form) (h : ∀ place, childRole form place .reads = .reads)
    (place : Nat) (trees : List Tree) (occurrence : Occurrence)
    (hoccurs : occurrence ∈ childOccurrences form place .reads trees) :
    ∃ tree ∈ trees, occurrence ∈ tree.occurrences .reads := by
  induction trees generalizing place with
  | nil => exact absurd hoccurs List.not_mem_nil
  | cons tree rest ih =>
    rw [childOccurrences, h, List.mem_append] at hoccurs
    rcases hoccurs with hoccurs | hoccurs
    · exact ⟨tree, List.mem_cons_self, hoccurs⟩
    · obtain ⟨other, hother, hmem⟩ := ih (place + 1) hoccurs
      exact ⟨other, List.mem_cons_of_mem _ hother, hmem⟩

theorem name_of_generatedIdent (name : String) (occurrence : Occurrence)
    (h : occurrence ∈ (generatedIdent name).occurrences .reads) : occurrence.ident.name = name := by
  rw [List.mem_singleton.mp h]
  rfl

theorem mergedRecords_external (session : Session) (module : Module) (record : RecordId)
    (h : record ∈ session.mergedRecords module) :
    ∃ star ∈ module.stars,
      (session.external star.external).exports.get? aggregateName = some record :=
  List.mem_filterMap.mp h

theorem members_names (session : Session) (module : Module) (occurrence : Occurrence)
    (h : occurrence ∈ (objectOf (session.aggregateMembers module)).occurrences .reads) :
    ∃ record ∈ module.exports.values, occurrence.ident.name = session.identifier record := by
  obtain ⟨property, hproperty, h⟩ := mem_childOccurrences .object (fun _ => rfl) 0 _ _ h
  obtain ⟨member, hmember, rfl⟩ := List.mem_map.mp hproperty
  obtain ⟨entry, hentry, rfl⟩ := List.mem_map.mp hmember
  obtain ⟨part, hpart, h⟩ := mem_childOccurrences .property (fun place => ite_self _) 0 _ _ h
  rcases List.mem_cons.mp hpart with rfl | hpart
  · exact absurd h List.not_mem_nil
  · obtain rfl := List.mem_singleton.mp hpart
    exact ⟨entry.2, List.mem_map_of_mem (List.mem_filter.mp hentry).1, name_of_generatedIdent _ _ h⟩

/-- All that a namespace object reads is a value of the program, the function that merges
namespaces, or one global. -/
theorem aggregateValue_names (session : Session) (module : Module) (occurrence : Occurrence)
    (h : occurrence ∈ (session.aggregateValue module).occurrences .reads) :
    (∃ record, (record ∈ module.exports.values ∨ record ∈ session.mergedRecords module) ∧
        occurrence.ident.name = session.identifier record) ∨
      (occurrence.ident.name = mergeHelperName ∧ (session.mergedRecords module).isEmpty = false) ∨
      occurrence.ident.name = "Object" := by
  unfold aggregateValue at h
  dsimp only at h
  split at h
  · obtain ⟨part, hpart, h⟩ := mem_childOccurrences .call (fun _ => rfl) 0 _ _ h
    rcases List.mem_cons.mp hpart with rfl | hpart
    · obtain ⟨part, hpart, h⟩ := mem_childOccurrences .member (fun _ => rfl) 0 _ _ h
      rcases List.mem_cons.mp hpart with rfl | hpart
      · exact .inr (.inr (name_of_generatedIdent _ _ h))
      · obtain rfl := List.mem_singleton.mp hpart
        exact absurd h List.not_mem_nil
    · obtain rfl := List.mem_singleton.mp hpart
      obtain ⟨record, hrecord, hname⟩ := session.members_names module occurrence h
      exact .inl ⟨record, .inl hrecord, hname⟩
  · rename_i hmerged
    obtain ⟨part, hpart, h⟩ := mem_childOccurrences .call (fun _ => rfl) 0 _ _ h
    rcases List.mem_cons.mp hpart with rfl | hpart
    · exact .inr (.inl ⟨name_of_generatedIdent _ _ h, by simpa using hmerged⟩)
    · rcases List.mem_cons.mp hpart with rfl | hpart
      · obtain ⟨record, hrecord, hname⟩ := session.members_names module occurrence h
        exact .inl ⟨record, .inl hrecord, hname⟩
      · obtain rfl := List.mem_singleton.mp hpart
        obtain ⟨part, hpart, h⟩ := mem_childOccurrences .array (fun _ => rfl) 0 _ _ h
        obtain ⟨record, hrecord, rfl⟩ := List.mem_map.mp hpart
        exact .inl ⟨record, .inr hrecord, name_of_generatedIdent _ _ h⟩

theorem LeavesFree.mem_freeNames (session : Session) (module : Module) (name : String)
    (h : session.LeavesFree module name) : name ∈ module.program.freeNames := by
  obtain ⟨item, hitem, occurrence, hoccurs, hscope, rfl⟩ := h
  rcases session.occurs_of_hoisted module item hitem occurrence hoccurs with ⟨name, heq⟩ |
    ⟨source, hsource, original, hkeeps, rfl⟩
  · rw [heq] at hscope
    exact absurd hscope nofun
  · have hsame : (original.rename (session.renamesOf module)).ident.name = original.ident.name :=
      session.spelling_free module original.ident.identity hscope
    rw [hsame]
    exact Program.mem_freeNames.mpr ⟨original.ident, List.mem_flatMap.mpr
      ⟨source, hsource, hkeeps.mem_idents⟩, hscope, rfl⟩

theorem ReadsGlobal.of_helper (session : Session) (order : List ModuleId)
    (hneeds : session.needsMergeHelper order = true) (name : String)
    (hname : name ∈ MergeHelper.globals) : session.ReadsGlobal order name := by
  obtain ⟨hglobal, occurrence, hoccurs, rfl⟩ := mergeHelper_reads name hname
  exact .helper occurrence hneeds hoccurs hglobal

theorem ReadsGlobal.reserved (session : Session) (order : List ModuleId) (name : String)
    (h : session.ReadsGlobal order name) :
    name ∈ session.reservedNames order ∨
      (name = "Array" ∧ session.needsMergeHelper order = true) := by
  have hgenerated : ∀ name ∈ generatedReads, name ∈ session.reservedNames order :=
    fun name hname => List.mem_append_left _ hname
  cases h with
  | free module _ hmodule hfree =>
    exact .inl (List.mem_append_right _ (List.mem_flatMap.mpr
      ⟨module, hmodule, hfree.mem_freeNames⟩))
  | missing module binding hmodule hbinding hmissing => exact .inl (hgenerated _ (by decide))
  | aggregate module hmodule haggregate => exact .inl (hgenerated _ (by decide))
  | helper occurrence hneeds hoccurs hname =>
    rcases List.mem_cons.mp (mergeHelper_names occurrence hoccurs hname) with heq | hname
    · exact .inl (heq ▸ hgenerated _ (by decide))
    · exact .inr ⟨List.mem_singleton.mp hname, hneeds⟩

section

variable {built linked : Session} {order : List ModuleId}

/-- What hides a global that a program reads. -/
theorem Linked.hides (h : built.Linked linked order) (name : String)
    (hreads : linked.ReadsGlobal order name) (entry : Origin × String)
    (hentry : entry ∈ linked.origins order) (hname : entry.2 = name) :
    Stray built linked entry.1 ∨
      (linked.needsMergeHelper order = true ∧
        (name = "Array" ∨ ∃ module ∈ order,
          linked.LeavesFree (linked.module module) mergeHelperName)) := by
  rcases named_of_mem_origins h.linkable entry hentry with hstray | rfl |
    ⟨holder, -, hbears, hholder⟩
  · exact .inl hstray
  · have hneeds : linked.needsMergeHelper order = true := by
      by_contra hnot
      have hnone : ∀ module, (.helper, mergeHelperName) ∉ linked.moduleOrigins module :=
        fun module hmem => absurd (moduleOrigins_module module _ hmem) nofun
      rcases List.mem_append.mp hentry with hentry | hentry
      · rcases List.mem_append.mp hentry with hentry | hentry
        · obtain ⟨id, -, hentry⟩ := List.mem_flatMap.mp hentry
          obtain ⟨_, -, heq⟩ := List.mem_map.mp hentry
          exact absurd (congrArg Prod.fst heq) nofun
        · rw [helperOrigins, if_neg hnot] at hentry
          exact List.not_mem_nil hentry
      · obtain ⟨module, -, hentry⟩ := List.mem_flatMap.mp hentry
        exact hnone module hentry
    refine .inr ⟨hneeds, ?_⟩
    cases hreads with
    | free module _ hmodule hfree =>
      subst hname
      exact .inr ⟨module, hmodule, hfree⟩
    | missing module binding hmodule hbinding hmissing => exact absurd hname (by decide)
    | aggregate module hmodule haggregate => exact absurd hname (by decide)
    | helper occurrence _ _ hlocal => exact absurd (hname ▸ hlocal) (by decide)
  · rcases hreads.reserved with hreserved | ⟨harray, hneeds⟩
    · rw [← hname, hholder] at hreserved
      exact absurd hreserved (h.distinct.fresh holder hbears)
    · exact .inr ⟨hneeds, .inl harray⟩

theorem Linked.globals_free (h : built.Linked linked order) :
    (∀ name, linked.ReadsGlobal order name →
        name ∉ (linked.linkedProgram order).topLevel.map Ident.name) ↔
      (∀ origin ∈ linked.origins order, Stray built linked origin.1 →
        ¬ linked.ReadsGlobal order origin.2) ∧
      (linked.needsMergeHelper order = true →
        "Array" ∉ (linked.linkedProgram order).topLevel.map Ident.name ∧
          ∀ module ∈ order, ¬ linked.LeavesFree (linked.module module) mergeHelperName) := by
  rw [linkedProgram_names]
  refine ⟨fun hfree => ⟨fun origin horigin _ hreads => ?_, fun hneeds => ⟨?_, ?_⟩⟩,
    fun ⟨hstray, hhelper⟩ name hreads hmem => ?_⟩
  · exact hfree _ hreads (List.mem_map_of_mem horigin)
  · exact hfree "Array" (.of_helper _ _ hneeds _ (by decide))
  · intro module hmodule hleaves
    refine hfree mergeHelperName (.free module _ hmodule hleaves) ?_
    refine List.mem_map.mpr ⟨(.helper, mergeHelperName), ?_, rfl⟩
    refine List.mem_append_left _ (List.mem_append_right _ ?_)
    rw [helperOrigins, if_pos hneeds]
    exact List.mem_singleton.mpr rfl
  · obtain ⟨origin, horigin, hname⟩ := List.mem_map.mp hmem
    rcases h.hides name hreads origin horigin hname with
      hout | ⟨hneeds, rfl | ⟨module, hmodule, hout⟩⟩
    · exact hstray origin horigin hout (hname ▸ hreads)
    · exact (hhelper hneeds).1 hmem
    · exact (hhelper hneeds).2 module hmodule hout

end

end Session

/-- In a bundle every global that is read stays one exactly if no declaration that strayed has its
name, and, where the function that merges namespaces is emitted, nothing is called `Array` and no
module reads a global of the name of the function. -/
theorem bundle_globals_free (tree : FileTree) (entry : Path) (output : Option Path)
    (options : BundleOptions) (bundled : Bundle)
    (h : (bundle tree entry output options).outcome = .ok bundled) :
    let built := builtSession tree entry options
    let linked := linkedSession tree entry options
    let order := bundleOrder tree entry options
    let program := bundledProgram tree entry options
    bundled.code = program.text linked.comments linked.options.minify ∧
      ((∀ name, linked.ReadsGlobal order name → name ∉ program.topLevel.map Ident.name) ↔
        (∀ origin ∈ linked.origins order, built.Stray linked origin.1 →
          ¬ linked.ReadsGlobal order origin.2) ∧
        (linked.needsMergeHelper order = true → "Array" ∉ program.topLevel.map Ident.name ∧
          ∀ module ∈ order, ¬ linked.LeavesFree (linked.module module) mergeHelperName)) :=
  ⟨bundle_code tree entry output options bundled h,
    (linked_linkedSession tree entry options).globals_free⟩

/-- A module that declares a name that another one reads as a global. -/
def globalTaken : FileTree :=
  ⟨[(["i"], .file "import'./l';f(1)".toUTF8), (["l"], .file "const f=1;g(f)".toUTF8)], []⟩

set_option maxRecDepth 100000 in
theorem bundle_globals_free_taken :
    (bundle globalTaken "/i" none .standard).outcome =
        .ok ⟨"const f$1 = 1;\ng(f$1);\nf(1);\n", ⟨30, 29, 2, 0, false, true⟩, []⟩ ∧
      ∀ origin ∈ (linkedSession globalTaken "/i" .standard).origins
          (bundleOrder globalTaken "/i" .standard),
        (builtSession globalTaken "/i" .standard).Stray (linkedSession globalTaken "/i" .standard)
            origin.1 →
          ¬ (linkedSession globalTaken "/i" .standard).ReadsGlobal
            (bundleOrder globalTaken "/i" .standard) origin.2 := by
  have hbundle : (bundle globalTaken "/i" none .standard).outcome =
      .ok ⟨"const f$1 = 1;\ng(f$1);\nf(1);\n", ⟨30, 29, 2, 0, false, true⟩, []⟩ := by
    decide +kernel
  have hnames : ∀ name ∈ (bundledProgram globalTaken "/i" .standard).topLevel.map Ident.name,
      name ∉ (linkedSession globalTaken "/i" .standard).reservedNames
        (bundleOrder globalTaken "/i" .standard) ∧ name ≠ "Array" := by
    decide +kernel
  refine ⟨hbundle, ((bundle_globals_free globalTaken "/i" none .standard _ hbundle).2.mp
    fun name hreads hmem => ?_).1⟩
  rcases hreads.reserved with hreserved | ⟨harray, -⟩
  · exact (hnames name hmem).1 hreserved
  · exact (hnames name hmem).2 harray

/-- A module that declares a global of the function that merges namespaces, and needs it. -/
def arrayTaken : FileTree :=
  ⟨[(["i"], .file "import*as n from'./l';f(n)".toUTF8),
    (["l"], .file "export const Array=1;export*from'p'".toUTF8)], []⟩

set_option maxRecDepth 100000 in
/-- Some bundles hide a global: the function that merges namespaces reads the `Array` of a module.
-/
theorem bundle_may_hide_globals :
    ¬ ∀ (tree : FileTree) (entry : Path) (output : Option Path) (options : BundleOptions)
      (bundled : Bundle), (bundle tree entry output options).outcome = .ok bundled →
        ∀ name,
          (linkedSession tree entry options).ReadsGlobal (bundleOrder tree entry options) name →
          name ∉ (bundledProgram tree entry options).topLevel.map Ident.name := by
  intro hall
  have hsome : (bundle arrayTaken "/i" none .standard).outcome.toOption.isSome = true := by
    decide +kernel
  have hneeds : (linkedSession arrayTaken "/i" .standard).needsMergeHelper
      (bundleOrder arrayTaken "/i" .standard) = true := by
    decide +kernel
  have hmem : "Array" ∈ (bundledProgram arrayTaken "/i" .standard).topLevel.map Ident.name := by
    decide +kernel
  cases hbundle : (bundle arrayTaken "/i" none .standard).outcome with
  | error problem =>
    rw [hbundle] at hsome
    exact absurd hsome nofun
  | ok bundled =>
    exact hall _ _ _ _ bundled hbundle "Array" (.of_helper _ _ hneeds _ (by decide)) hmem

end ScopeHoist
