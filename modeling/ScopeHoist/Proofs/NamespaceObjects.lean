import ScopeHoist.Proofs.Exposure
import ScopeHoist.Proofs.Options
import ScopeHoist.Proofs.Origins
import ScopeHoist.Proofs.Reach

/-!
# Namespace objects are complete

The bundle declares the namespace of a module once, behind the statements of the module. The object
has a member for each name that was in the table of the module when the graph was built, and takes
in the namespaces of all externals that the module exports whole. None of this depends on whether
the graph was shaken in between.
-/

set_option autoImplicit false

namespace ScopeHoist

def CallsMergeHelper (statement : Tree) : Prop :=
  ∃ name arguments,
    statement = constDeclaration name (callOf (generatedIdent mergeHelperName) arguments)

namespace Session

def specifierOf (session : Session) (record : RecordId) : Option String :=
  match (session.records[record]?).map ExportRecord.source with
  | some (.external id) => some (session.external id).specifier
  | _ => none

/-- The specifiers of the externals that the namespace of a module takes in. -/
def mergedSpecifiers (session : Session) (module : Module) : List (Option String) :=
  (session.mergedRecords module).map session.specifierOf

/-- What the namespace of a module of the built graph has to hold: the names of its table but for
the default and the namespace itself, each with what it is called in the end. -/
def wantedMembers (built linked : Session) (id : ModuleId) : List (String × Tree) :=
  ((built.module id).exports.filter fun entry => isMemberName entry.1).map fun entry =>
    (entry.1, generatedIdent (linked.identifier entry.2))

/-- The namespaces that the one of a module of the built graph has to take in. -/
def wantedWholes (built : Session) (id : ModuleId) : List (Option RecordId) :=
  (built.module id).stars.map fun star => (built.external star.external).exports.get? aggregateName

/-- The namespace object of a module in the program of an order, given its record. -/
structure ObjectWhole (built linked : Session) (order : List ModuleId) (id : ModuleId)
    (aggregate : RecordId) : Prop where
  placed : ∃ before after, order = before ++ id :: after ∧
    (linked.linkedProgram order).items =
      linked.externalImports ++ linked.helperItems order
        ++ before.flatMap (fun other => linked.hoistedItems (linked.module other))
        ++ linked.hoistedStatements (linked.module id)
        ++ [.statement (constDeclaration (linked.identifier aggregate)
          (linked.aggregateValue (linked.module id)))]
        ++ (if (linked.module id).isEntry then linked.entryExports (linked.module id) else [])
        ++ after.flatMap fun other => linked.hoistedItems (linked.module other)
  once : (linked.origins order).filter (fun origin => origin.1 = .aggregate id) =
    [(.aggregate id, linked.identifier aggregate)]
  value : linked.aggregateValue (linked.module id) =
    if (built.module id).stars.isEmpty then
      callOf (memberOf (generatedIdent "Object") "freeze") [objectOf (built.wantedMembers linked id)]
    else
      callOf (generatedIdent mergeHelperName) [objectOf (built.wantedMembers linked id),
        arrayOf ((linked.mergedRecords (linked.module id)).map fun record =>
          generatedIdent (linked.identifier record))]
  members : linked.aggregateMembers (linked.module id) = built.wantedMembers linked id
  names : ((linked.aggregateMembers (linked.module id)).map Prod.fst).Nodup
  merged : (linked.mergedRecords (linked.module id)).map some = built.wantedWholes id
  specifiers : linked.mergedSpecifiers (linked.module id) =
    (built.module id).stars.map fun star => some (built.external star.external).specifier
  stars : (built.module id).stars = built.starsOf (built.module id)

/-! ## The statements that declare namespace objects -/

section

variable (session : Session)

theorem callsMergeHelper_iff (module : Module) (statement : Tree)
    (h : session.aggregateDeclaration? module = some statement) :
    CallsMergeHelper statement ↔ session.mergedRecords module ≠ [] := by
  obtain ⟨record, -, rfl⟩ := Option.map_eq_some_iff.mp h
  unfold aggregateValue CallsMergeHelper
  cases session.mergedRecords module with
  | nil => simp [constDeclaration, callOf, Form.of, generatedIdent, memberOf]
  | cons first rest => simp [constDeclaration, callOf, Form.of, generatedIdent]

theorem needsMergeHelper_iff (order : List ModuleId) :
    session.needsMergeHelper order = true ↔ ∃ id ∈ order, ∃ statement,
      session.aggregateDeclaration? (session.module id) = some statement ∧
        CallsMergeHelper statement := by
  simp only [needsMergeHelper, List.any_eq_true]
  apply exists_congr
  intro id
  apply and_congr_right
  intro _
  simp only [Bool.and_eq_true, Bool.not_eq_true', List.isEmpty_eq_false_iff, Table.has]
  constructor
  · rintro ⟨hsome, hmerged⟩
    obtain ⟨record, hrecord⟩ := Option.isSome_iff_exists.mp hsome
    have hstatement : session.aggregateDeclaration? (session.module id) =
        some (constDeclaration (session.identifier record)
          (session.aggregateValue (session.module id))) := by
      rw [aggregateDeclaration?, hrecord]
      rfl
    exact ⟨_, hstatement, (session.callsMergeHelper_iff _ _ hstatement).mpr hmerged⟩
  · rintro ⟨statement, hstatement, hcalls⟩
    refine ⟨?_, (session.callsMergeHelper_iff _ _ hstatement).mp hcalls⟩
    obtain ⟨record, hrecord, -⟩ := Option.map_eq_some_iff.mp hstatement
    exact Option.isSome_iff_exists.mpr ⟨record, hrecord⟩

theorem helperItems_iff (order : List ModuleId) :
    .statement mergeHelper ∈ session.helperItems order ↔ ∃ id ∈ order, ∃ statement,
      session.aggregateDeclaration? (session.module id) = some statement ∧
        CallsMergeHelper statement := by
  rw [← session.needsMergeHelper_iff order, helperItems]
  cases session.needsMergeHelper order <;> simp

/-! ## Origins that are namespaces -/

theorem itemOrigins_ne_aggregate (other id : ModuleId) (item : Item) (origin : Origin × String)
    (horigin : origin ∈ session.itemOrigins other item) : origin.1 ≠ .aggregate id := by
  unfold itemOrigins at horigin
  cases item with
  | statement tree | exportDecl tree span | exportDefault tree span =>
    obtain ⟨_, -, rfl⟩ := List.mem_map.mp horigin
    nofun
  | exportDefaultDecl decl span =>
    dsimp only at horigin
    split at horigin <;> obtain ⟨_, -, rfl⟩ := List.mem_map.mp horigin <;> nofun
  | _ => exact absurd horigin List.not_mem_nil

theorem moduleOrigins_aggregate (other id : ModuleId) :
    (session.moduleOrigins other).filter (fun origin => origin.1 = .aggregate id) =
      if other = id then ((session.module id).exports.get? aggregateName).toList.map fun record =>
        (.aggregate id, session.identifier record)
      else [] := by
  have hitems : ((session.module other).program.items.flatMap (session.itemOrigins other)).filter
      (fun origin => origin.1 = .aggregate id) = [] := by
    apply List.filter_eq_nil_iff.mpr
    intro origin horigin
    obtain ⟨item, -, horigin⟩ := List.mem_flatMap.mp horigin
    simpa using session.itemOrigins_ne_aggregate other id item origin horigin
  rw [moduleOrigins, List.filter_append, hitems, List.nil_append]
  by_cases heq : other = id
  · subst heq
    simp
  · simp [heq]

/-- The namespace of a module is declared once in the program of an order that lists the module
once. -/
theorem origins_aggregate (order : List ModuleId) (hnodup : order.Nodup) (id : ModuleId)
    (hid : id ∈ order) :
    (session.origins order).filter (fun origin => origin.1 = .aggregate id) =
      ((session.module id).exports.get? aggregateName).toList.map fun record =>
        (.aggregate id, session.identifier record) := by
  have hexternal :
      session.externalOrigins.filter (fun origin => origin.1 = .aggregate id) = [] := by
    apply List.filter_eq_nil_iff.mpr
    intro origin horigin
    obtain ⟨external, -, horigin⟩ := List.mem_flatMap.mp horigin
    obtain ⟨entry, -, rfl⟩ := List.mem_map.mp horigin
    simp
  have hhelper : (session.helperOrigins order).filter (fun origin => origin.1 = .aggregate id) =
      [] := by
    unfold helperOrigins
    split <;> simp
  have hothers : ∀ others : List ModuleId, id ∉ others →
      (others.flatMap session.moduleOrigins).filter (fun origin => origin.1 = .aggregate id) =
        [] := by
    intro others hnot
    rw [List.filter_flatMap]
    apply List.flatMap_eq_nil_iff.mpr
    intro other hother
    have hne : other ≠ id := fun heq => hnot (heq ▸ hother)
    rw [moduleOrigins_aggregate, if_neg hne]
  obtain ⟨before, after, rfl⟩ := List.append_of_mem hid
  obtain ⟨-, hafter, hapart⟩ := List.nodup_append.mp hnodup
  rw [origins, List.filter_append, List.filter_append, hexternal, hhelper, List.flatMap_append,
    List.flatMap_cons, List.filter_append, List.filter_append, moduleOrigins_aggregate, if_pos rfl,
    hothers before fun hmem => hapart id hmem id List.mem_cons_self rfl,
    hothers after (List.nodup_cons.mp hafter).1]
  simp

theorem linkedProgram_items (before after : List ModuleId) (id : ModuleId) (aggregate : RecordId)
    (h : (session.module id).exports.get? aggregateName = some aggregate) :
    (session.linkedProgram (before ++ id :: after)).items =
      session.externalImports ++ session.helperItems (before ++ id :: after)
        ++ before.flatMap (fun other => session.hoistedItems (session.module other))
        ++ session.hoistedStatements (session.module id)
        ++ [.statement (constDeclaration (session.identifier aggregate)
          (session.aggregateValue (session.module id)))]
        ++ (if (session.module id).isEntry then session.entryExports (session.module id) else [])
        ++ after.flatMap fun other => session.hoistedItems (session.module other) := by
  have hitems : session.hoistedItems (session.module id) =
      session.hoistedStatements (session.module id)
        ++ [.statement (constDeclaration (session.identifier aggregate)
          (session.aggregateValue (session.module id)))]
        ++ if (session.module id).isEntry then session.entryExports (session.module id)
          else [] := by
    rw [hoistedItems, aggregateDeclaration?, h]
    rfl
  rw [linkedProgram, List.flatMap_append, List.flatMap_cons, hitems]
  simp only [List.append_assoc]

end

/-! ## What is spared -/

namespace Spared

variable {built linked : Session} {id : ModuleId} (h : built.Spared linked id)
include h

theorem aggregateMembers_eq :
    linked.aggregateMembers (linked.module id) = built.wantedMembers linked id := by
  unfold aggregateMembers wantedMembers
  rw [← h.members]
  rfl

theorem mergedRecords_eq :
    linked.mergedRecords (linked.module id) = built.mergedRecords (built.module id) := by
  unfold mergedRecords
  rw [h.stars]
  exact List.filterMap_congr h.wholes

theorem map_mergedRecords (hwholes : built.HasWholes id) :
    (linked.mergedRecords (linked.module id)).map some = built.wantedWholes id := by
  rw [h.mergedRecords_eq]
  apply map_filterMap_eq
  intro star hstar
  obtain ⟨record, hrecord⟩ := Option.ne_none_iff_exists'.mp (hwholes star hstar)
  exact ⟨record, hrecord, hrecord.symm⟩

theorem aggregateValue_eq (hwholes : built.HasWholes id) :
    linked.aggregateValue (linked.module id) =
      if (built.module id).stars.isEmpty then
        callOf (memberOf (generatedIdent "Object") "freeze")
          [objectOf (built.wantedMembers linked id)]
      else
        callOf (generatedIdent mergeHelperName) [objectOf (built.wantedMembers linked id),
          arrayOf ((linked.mergedRecords (linked.module id)).map fun record =>
            generatedIdent (linked.identifier record))] := by
  have hempty := congrArg List.isEmpty (h.map_mergedRecords hwholes)
  rw [wantedWholes, List.isEmpty_map, List.isEmpty_map] at hempty
  rw [aggregateValue, h.aggregateMembers_eq, List.isEmpty_map, hempty]

theorem specifierOf_eq (hsound : built.Sound) (hid : id < built.modules.length)
    (star : StarReexport) (hstar : star ∈ (built.module id).stars) (record : RecordId)
    (hrecord : (built.external star.external).exports.get? aggregateName = some record) :
    linked.specifierOf record = some (built.external star.external).specifier := by
  have hvalid := (hsound.modules id hid).stars star hstar
  obtain ⟨found, hfound, -, hsource, -⟩ :=
    (hsound.externals star.external hvalid).entries _ (Table.mem_of_get? _ _ _ hrecord)
  unfold specifierOf
  rw [h.sources, hfound, Option.map_some, hsource]
  exact congrArg some (h.specifiers star hstar)

theorem memberNames_eq : (linked.aggregateMembers (linked.module id)).map Prod.fst =
    ((built.module id).exports.filter fun entry => isMemberName entry.1).map Prod.fst := by
  rw [h.aggregateMembers_eq, wantedMembers, List.map_map]
  rfl

theorem mergedSpecifiers_eq (hsound : built.Sound) (hid : id < built.modules.length)
    (hwholes : built.HasWholes id) :
    linked.mergedSpecifiers (linked.module id) =
      (built.module id).stars.map fun star => some (built.external star.external).specifier := by
  rw [mergedSpecifiers, h.mergedRecords_eq]
  apply map_filterMap_eq
  intro star hstar
  obtain ⟨record, hrecord⟩ := Option.ne_none_iff_exists'.mp (hwholes star hstar)
  exact ⟨record, hrecord, h.specifierOf_eq hsound hid star hstar record hrecord⟩

end Spared

theorem Used.withOptions {session : Session} {record : RecordId} (h : session.Used record)
    (options : BundleOptions) :
    (session.withOptions options).Used record := by
  induction h with
  | certain record hground => exact .certain record hground
  | through record aggregate hground _ ih => exact .through record aggregate hground ih

end Session

/-! ## Bundles -/

theorem respelled_linkedSession (tree : FileTree) (entry : Path) (options : BundleOptions) :
    (shakenSession tree entry options).Respelled (linkedSession tree entry options) := by
  have hsound := sound_builtSession tree entry options
  obtain ⟨gone, dropped, used, hjust, hshaken⟩ :=
    (builtSession tree entry options).shaken_shakeIfAsked
  exact (Session.linked_assignNames _ _ _
    (Session.linkable_of_shaken hsound hjust hshaken _ hsound.orderedBy)).2.2

section

variable (tree : FileTree) (entry : Path) (options : BundleOptions)

/-- With the namespace of a module, the namespaces of all externals that it exports whole are
there. -/
theorem wholes_builtSession (hplain : (builtSession tree entry options).PlainNames)
    (id : ModuleId) (hid : id < (builtSession tree entry options).modules.length)
    (haggregate :
      ((builtSession tree entry options).module id).exports.get? aggregateName ≠ none) :
    (builtSession tree entry options).HasWholes id := by
  obtain ⟨first, hwired⟩ := wired_builtSession tree entry options
  have hfirst := hwired.first_aggregate (sound_builtSession tree entry options) id hid
    (hplain id hid).2
  exact (hwired.whole id hid haggregate).resolve_left fun hsome => hsome hfirst

theorem spared_linkedSession (hplain : (builtSession tree entry options).PlainNames)
    (id : ModuleId) (hid : id < (builtSession tree entry options).modules.length)
    (aggregate : RecordId) (haggregate :
      ((builtSession tree entry options).module id).exports.get? aggregateName = some aggregate)
    (hused : (builtSession tree entry options).options.treeshake = true →
      (builtSession tree entry options).Used aggregate) :
    (builtSession tree entry options).Spared (linkedSession tree entry options) id := by
  have hwholes := wholes_builtSession tree entry options hplain id hid
    (haggregate ▸ Option.some_ne_none aggregate)
  exact (hplain.spared (sound_builtSession tree entry options) id hid aggregate haggregate hused
    hwholes).respelled (respelled_linkedSession tree entry options)

theorem objectWhole_of_used (hbuilds : Builds tree entry options)
    (hplain : (builtSession tree entry options).PlainNames) (id : ModuleId)
    (hid : id < (builtSession tree entry options).modules.length) (aggregate : RecordId)
    (haggregate :
      ((builtSession tree entry options).module id).exports.get? aggregateName = some aggregate)
    (hused : options.treeshake = true → (builtSession tree entry options).Used aggregate) :
    (builtSession tree entry options).ObjectWhole (linkedSession tree entry options)
      (bundleOrder tree entry options) id aggregate := by
  have hsound := sound_builtSession tree entry options
  obtain ⟨root, hrooted, hoptions⟩ := rooted_builtSession tree entry options hbuilds
  obtain ⟨first, hwired⟩ := wired_builtSession tree entry options
  have hwholes := wholes_builtSession tree entry options hplain id hid
    (haggregate ▸ Option.some_ne_none aggregate)
  have hspared := spared_linkedSession tree entry options hplain id hid aggregate haggregate
    fun htreeshake => hused (hoptions ▸ htreeshake)
  have hlinked := hspared.aggregate.trans haggregate
  have horder : id ∈ bundleOrder tree entry options :=
    hsound.mem_executionOrder root hrooted.entry id (hrooted.reached id hid)
  constructor
  · obtain ⟨before, after, hsplit⟩ := List.append_of_mem horder
    refine ⟨before, after, hsplit, ?_⟩
    rw [hsplit]
    exact Session.linkedProgram_items _ before after id aggregate hlinked
  · have honce := (linkedSession tree entry options).origins_aggregate _ hsound.orderedBy.nodup id
      horder
    rw [hlinked] at honce
    exact honce
  · exact hspared.aggregateValue_eq hwholes
  · exact hspared.aggregateMembers_eq
  · rw [hspared.memberNames_eq]
    exact Table.proper_filter _ (hsound.proper id hid) _
  · exact hspared.map_mergedRecords hwholes
  · exact hspared.mergedSpecifiers_eq hsound hid hwholes
  · exact (hwired.completed id hid).stars

theorem spared_withOptions (others : BundleOptions)
    (hothers : others.extensions = options.extensions)
    (hplain : (builtSession tree entry options).PlainNames) (id : ModuleId)
    (hid : id < (builtSession tree entry options).modules.length) (aggregate : RecordId)
    (haggregate :
      ((builtSession tree entry options).module id).exports.get? aggregateName = some aggregate)
    (hused : (builtSession tree entry options).Used aggregate) :
    (builtSession tree entry options).Spared (linkedSession tree entry others) id := by
  have hbuilt := builtSession_withOptions tree entry options others hothers
  have hspared := spared_linkedSession tree entry others (hbuilt ▸ hplain) id (hbuilt ▸ hid)
    aggregate (hbuilt ▸ haggregate) fun _ => hbuilt ▸ hused.withOptions others
  rw [hbuilt] at hspared
  exact ⟨hspared.aggregate, hspared.members, hspared.stars, hspared.wholes, hspared.specifiers,
    hspared.sources⟩

end

/-- In every bundle of modules with plain names, a namespace object that is used is declared once,
behind the statements of its module, and is complete: it has a member for each export and takes in
the namespace of each external that the module exports whole. Other options do not change what it
consists of, and the function that merges namespaces is there for those who call it. -/
theorem namespace_objects_whole (tree : FileTree) (entry : Path) (output : Option Path)
    (options : BundleOptions) (bundled : Bundle)
    (h : (bundle tree entry output options).outcome = .ok bundled)
    (hplain : (builtSession tree entry options).PlainNames) :
    let built := builtSession tree entry options
    let linked := linkedSession tree entry options
    let order := bundleOrder tree entry options
    bundled.code =
        (linked.linkedProgram order).text linked.comments linked.options.minify ∧
      (∀ record, ((built.isUsed record).run []).1 = true ↔ built.Used record) ∧
      (∀ id < built.modules.length, ∀ aggregate,
        (built.module id).exports.get? aggregateName = some aggregate →
        (options.treeshake = true → built.Used aggregate) →
          built.ObjectWhole linked order id aggregate) ∧
      (∀ id < built.modules.length, ∀ aggregate,
        (built.module id).exports.get? aggregateName = some aggregate → built.Used aggregate →
        ∀ others : BundleOptions, others.extensions = options.extensions →
          let linked' := linkedSession tree entry others
          (linked'.aggregateMembers (linked'.module id)).map Prod.fst =
              (linked.aggregateMembers (linked.module id)).map Prod.fst ∧
            linked'.mergedSpecifiers (linked'.module id) =
              linked.mergedSpecifiers (linked.module id)) ∧
      (.statement mergeHelper ∈ linked.helperItems order ↔
        ∃ id ∈ order, ∃ statement,
          linked.aggregateDeclaration? (linked.module id) = some statement ∧
            CallsMergeHelper statement) := by
  intro built linked order
  have hsound := sound_builtSession tree entry options
  have hbuilds := builds_of_bundle tree entry output options bundled h
  refine ⟨bundle_code tree entry output options bundled h,
    Session.isUsed_iff (hplain.ranked hsound), ?_, ?_, linked.helperItems_iff order⟩
  · intro id hid aggregate haggregate hused
    exact objectWhole_of_used tree entry options hbuilds hplain id hid aggregate haggregate hused
  · intro id hid aggregate haggregate hused others hothers
    have hwholes := wholes_builtSession tree entry options hplain id hid
      (haggregate ▸ Option.some_ne_none aggregate)
    have hspared := spared_linkedSession tree entry options hplain id hid aggregate haggregate
      fun _ => hused
    have hspared' := spared_withOptions tree entry options others hothers hplain id hid aggregate
      haggregate hused
    exact ⟨hspared'.memberNames_eq.trans hspared.memberNames_eq.symm,
      (hspared'.mergedSpecifiers_eq hsound hid hwholes).trans
        (hspared.mergedSpecifiers_eq hsound hid hwholes).symm⟩

/-- The namespace of a module that exports an external and another module whole. -/
def gathered : FileTree :=
  ⟨[(["i"], .file "import*as n from'./m';f(n)".toUTF8),
    (["m"], .file "export*from'p';export*from'./d';export const a=1;export default 2".toUTF8),
    (["d"], .file "export const b=3,c=4".toUTF8)], []⟩

set_option maxRecDepth 100000 in
theorem namespace_objects_whole_gathered :
    ∃ bundled, (bundle gathered "/i" none .standard).outcome = .ok bundled ∧
      (builtSession gathered "/i" .standard).PlainNames ∧
      ((builtSession gathered "/i" .standard).module 1).exports.get? aggregateName = some 4 ∧
      (builtSession gathered "/i" .standard).Used 4 ∧
      (((linkedSession gathered "/i" .standard).aggregateMembers
        ((linkedSession gathered "/i" .standard).module 1)).map Prod.fst = ["b", "c", "a"]) ∧
      (builtSession gathered "/i" .standard).wantedWholes 1 = [some 5] ∧
      (builtSession gathered "/i" .standard).ObjectWhole (linkedSession gathered "/i" .standard)
        (bundleOrder gathered "/i" .standard) 1 4 := by
  have hchecked : (bundle gathered "/i" none .standard).outcome.toOption.isSome = true ∧
      (builtSession gathered "/i" .standard).PlainNames ∧
      1 < (builtSession gathered "/i" .standard).modules.length ∧
      ((builtSession gathered "/i" .standard).module 1).exports.get? aggregateName = some 4 ∧
      (((builtSession gathered "/i" .standard).isUsed 4).run []).1 = true ∧
      (((linkedSession gathered "/i" .standard).aggregateMembers
        ((linkedSession gathered "/i" .standard).module 1)).map Prod.fst = ["b", "c", "a"]) ∧
      (builtSession gathered "/i" .standard).wantedWholes 1 = [some 5] := by
    decide +kernel
  obtain ⟨houtcome, hplain, hid, haggregate, hasked, hmembers, hmerged⟩ := hchecked
  generalize houtcome' : (bundle gathered "/i" none .standard).outcome = outcome at houtcome
  cases outcome with
  | error error => exact absurd houtcome nofun
  | ok bundled =>
    obtain ⟨-, husedIff, hwhole, -⟩ :=
      namespace_objects_whole gathered "/i" none .standard bundled houtcome' hplain
    have hused := (husedIff 4).mp hasked
    exact ⟨bundled, rfl, hplain, haggregate, hused, hmembers, hmerged,
      hwhole 1 hid 4 haggregate fun _ => hused⟩

end ScopeHoist
