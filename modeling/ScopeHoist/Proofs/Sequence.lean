import ScopeHoist.Proofs.Economy
import ScopeHoist.Proofs.Encounters
import ScopeHoist.Proofs.Integrity
import ScopeHoist.Proofs.Remains
import ScopeHoist.Proofs.Stars
import ScopeHoist.Proofs.Traversals

/-!
# The statements of the bundle, in order

The one program begins with imports, of the externals as they come up, and ends with the exports of
the entry. In between stand the statements of all modules that the entry reaches, each module once
and in execution order, and nothing of what makes them modules is left.
-/

set_option autoImplicit false

namespace ScopeHoist

/-! ## Items without module syntax -/

/-- What an item leaves in the one program. A default that vanishes leaves nothing, any other value
is declared under a name. -/
def Item.erased (vanishes : Tree → Bool) (name : String) : Item → Option Item
  | .statement tree => some (.statement tree)
  | .exportDecl decl _ => some (.statement decl)
  | .exportDefaultDecl decl _ =>
    some (.statement ((namedDeclaration? decl).getD (constDeclaration name decl)))
  | .exportDefault value _ =>
    if vanishes value then none else some (.statement (constDeclaration name value))
  | .importFrom .. | .exportList .. | .exportFrom .. | .exportStar .. => none

/-- Whether a default value leaves nothing: it is another name of something, and the module has no
default value of its own besides. -/
def Module.vanishes (module : Module) (value : Tree) : Bool :=
  module.aliases value && !module.hasOwnDefault

theorem Program.mem_of_relieved_exportDefaultDecl (unused : List Identity) (program : Program)
    (decl : Tree) (span : Span)
    (h : .exportDefaultDecl decl span ∈ (program.relieved unused).items) :
    .exportDefaultDecl decl span ∈ program.items := by
  obtain ⟨item, hitem, -, heq⟩ := program.relieved_item unused _ h
  rcases heq with rfl | hrest
  · exact hitem
  · cases item with
    | exportDefaultDecl decl' span' =>
      obtain ⟨-, hsame⟩ := Option.ite_none_left_eq_some.mp hrest
      exact Option.some.inj hsame ▸ hitem
    | _ => simp [Item.withoutIdle] at hrest

/-- Hoisting an item of a settled module is erasing its module syntax, also when the module has lost
some declarations. -/
theorem Module.Settled.hoisted_eq {module : Module} (h : module.Settled)
    (hshape : module.program.WellShaped) (unused : List Identity) (nameOf : RecordId → String)
    (item : Item) (hitem : item ∈ (module.program.relieved unused).items) :
    item.hoisted (module.unnamedDefault.map nameOf) =
      item.erased module.vanishes ((module.unnamedDefault.map nameOf).getD "") := by
  have hown : module.hasOwnDefault = true →
      module.unnamedDefault.map nameOf = some ((module.unnamedDefault.map nameOf).getD "") := by
    intro hown
    obtain ⟨record, hrecord⟩ := Option.isSome_iff_exists.mp (h.trans hown)
    rw [hrecord]
    rfl
  cases item with
  | exportDefaultDecl decl span =>
    have hsource := Program.mem_of_relieved_exportDefaultDecl unused _ decl span hitem
    rw [Item.hoisted, Item.erased]
    cases hnamed : namedDeclaration? decl with
    | some named => rfl
    | none =>
      rw [hown (module.hasOwnDefault_of_nameless hshape decl span hsource hnamed)]
      rfl
  | exportDefault value span =>
    have hsource := (Program.relieved_exportDefault _ _ _ _).mp hitem
    rw [Item.hoisted, Item.erased, Module.vanishes]
    cases hdefault : module.hasOwnDefault with
    | true =>
      rw [hown hdefault]
      simp
    | false =>
      have hnone : module.unnamedDefault = none := by
        rw [← Option.not_isSome_iff_eq_none, h, hdefault]
        exact Bool.false_ne_true
      have haliases : module.aliases value = true := by
        have hnot := List.any_eq_false.mp hdefault _ hsource
        simpa [Module.exportsOwn] using hnot
      rw [hnone, haliases]
      rfl
  | _ => rfl

/-! ## What is left of modules and externals -/

namespace Session

theorem flatMap_last {order : List ModuleId} {root : ModuleId} (hlast : order.getLast? = some root)
    (hnodup : order.Nodup) (items body : ModuleId → List Item) (rest : List Item)
    (hitems : ∀ id ∈ order, items id = body id ++ if id = root then rest else []) :
    order.flatMap items = order.flatMap body ++ rest := by
  obtain ⟨init, rfl⟩ := List.getLast?_eq_some_iff.mp hlast
  obtain ⟨-, -, hapart⟩ := List.nodup_append.mp hnodup
  have hinit : ∀ id ∈ init, items id = body id := by
    intro id hid
    rw [hitems id (List.mem_append_left _ hid),
      if_neg (hapart id hid root List.mem_cons_self), List.append_nil]
  rw [List.flatMap_append, List.flatMap_append, List.flatMap_congr hinit, List.flatMap_singleton,
    List.flatMap_singleton, hitems root (List.mem_append_right _ List.mem_cons_self), if_pos rfl,
    List.append_assoc]

section

variable {built linked : Session} {order : List ModuleId} (h : built.Linked linked order)
include h

theorem Linked.externals_length : linked.externals.length = built.externals.length := by
  obtain ⟨gone, dropped, used, shaken, -, hshaken, hrespelled⟩ := h.shaken
  rw [hrespelled.externals, hshaken.externals_length]

theorem Linked.module_left (id : ModuleId) (hid : id < built.modules.length) :
    ∃ exports stars unused, stars ⊆ (built.module id).stars ∧
      linked.module id =
        { built.module id with
          exports, stars, program := (built.module id).program.relieved unused } := by
  obtain ⟨gone, dropped, used, shaken, -, hshaken, hrespelled⟩ := h.shaken
  obtain ⟨stars, hstars, hmodule⟩ := hshaken.module id hid
  exact ⟨_, stars, _, hstars, (hrespelled.module id).trans hmodule⟩

theorem Linked.external_left (id : ExternalId) (hid : id < built.externals.length) :
    ∃ exports, linked.external id = { built.external id with exports } := by
  obtain ⟨gone, dropped, used, shaken, -, hshaken, hrespelled⟩ := h.shaken
  exact ⟨_, (hrespelled.external id).trans (hshaken.external id hid)⟩

end

/-! ## The sequence -/

def ownName (session : Session) (module : Module) : String :=
  (module.unnamedDefault.map session.identifier).getD ""

/-- The statements of a module in the one program, where some default values leave nothing: its
items without module syntax and with their new spellings, and then the declaration of its namespace,
if that is wanted. -/
def erasedItems (session : Session) (vanishes : Tree → Bool) (module : Module) : List Item :=
  (module.program.items.filterMap (Item.erased vanishes (session.ownName module))).map
      (Item.rename (session.renamesOf module))
    ++ (session.aggregateDeclaration? module).toList.map .statement

/-- What the items of a program are that was linked from a built session: imports, perhaps the
function that merges namespaces, the statements of modules, and exports. Which default values leave
nothing is left open. -/
structure Sequenced (vanishes : Module → Tree → Bool) (built linked : Session) (root : ModuleId)
    (order : List ModuleId) (met : List ExternalId) (items : List Item) : Prop where
  /-- Going through the root is doing the modules of the order and meeting the externals. -/
  walked : ∀ order' met', Encounters (fun id => (built.module id).dependencyTargets) [] []
    [.module root] order' met' ↔ order' = order ∧ met' = met
  once : order.Nodup
  reached : ∀ id, id ∈ order ↔ built.Reaches root id
  last : order.getLast? = some root
  items_eq : items =
    met.flatMap (fun id => linked.importsOf (linked.external id)) ++ linked.helperItems order
      ++ order.flatMap (fun id =>
        linked.erasedItems (vanishes (built.module id)) (linked.module id))
      ++ linked.entryExports (linked.module root)
  helper : .statement mergeHelper ∈ linked.helperItems order ↔ ∃ id ∈ order, ∃ statement,
    linked.aggregateDeclaration? (linked.module id) = some statement ∧ CallsMergeHelper statement
  imports : ∀ id ∈ met, linked.importsOf (linked.external id) ≠ [] ∧
    ∀ item ∈ linked.importsOf (linked.external id), ∃ specifiers,
      item = importItem (built.external id).specifier specifiers
  between : ∀ item ∈ linked.helperItems order ++ order.flatMap (fun id =>
    linked.erasedItems (vanishes (built.module id)) (linked.module id)), ∃ tree,
      item = .statement tree
  exports : ∀ item ∈ linked.entryExports (linked.module root),
    (∃ entries, item = exportItem entries) ∨
      ∃ id ∈ met, item = exportStarItem (built.external id).specifier
  shaken : ∀ id ∈ order, ∃ unused,
    (linked.module id).program = (built.module id).program.relieved unused ∧
      (built.options.treeshake = false → unused = [])

theorem importsOf_ne_nil (session : Session) (external : External)
    (h : external.dependents ≠ []) : session.importsOf external ≠ [] := by
  have hdependents : external.dependents.isEmpty = false := List.isEmpty_eq_false_iff.mpr h
  unfold importsOf
  simp only [hdependents]
  split
  · nofun
  · split <;> nofun

theorem importsOf_specifier (session : Session) (external : External) (item : Item)
    (hitem : item ∈ session.importsOf external) :
    ∃ specifiers, item = importItem external.specifier specifiers := by
  unfold importsOf at hitem
  split at hitem
  · split at hitem
    · exact absurd hitem List.not_mem_nil
    · exact ⟨_, List.mem_singleton.mp hitem⟩
  · dsimp only at hitem
    split at hitem
    · exact ⟨_, List.mem_singleton.mp hitem⟩
    · rcases List.mem_pair.mp hitem with heq | heq <;> exact ⟨_, heq⟩

theorem statement_of_erased (vanishes : Tree → Bool) (name : String) (item kept : Item)
    (h : item.erased vanishes name = some kept) : ∃ tree, kept = .statement tree := by
  cases item with
  | statement tree | exportDecl tree span | exportDefaultDecl tree span =>
    exact ⟨_, (Option.some.inj h).symm⟩
  | exportDefault value span =>
    obtain ⟨-, heq⟩ := Option.ite_none_left_eq_some.mp h
    exact ⟨_, (Option.some.inj heq).symm⟩
  | _ => exact absurd h nofun

theorem statement_of_mem_erasedItems (session : Session) (vanishes : Tree → Bool) (module : Module)
    (item : Item) (hitem : item ∈ session.erasedItems vanishes module) :
    ∃ tree, item = .statement tree := by
  rcases List.mem_append.mp hitem with hitem | hitem
  · obtain ⟨kept, hkept, rfl⟩ := List.mem_map.mp hitem
    obtain ⟨source, -, herased⟩ := List.mem_filterMap.mp hkept
    obtain ⟨tree, rfl⟩ := statement_of_erased _ _ source kept herased
    exact ⟨_, rfl⟩
  · obtain ⟨tree, -, rfl⟩ := List.mem_map.mp hitem
    exact ⟨tree, rfl⟩

theorem statement_of_mem_helperItems (session : Session) (order : List ModuleId) (item : Item)
    (hitem : item ∈ session.helperItems order) : ∃ tree, item = .statement tree := by
  unfold helperItems at hitem
  split at hitem
  · exact ⟨_, List.mem_singleton.mp hitem⟩
  · exact absurd hitem List.not_mem_nil

theorem mem_entryExports (session : Session) (module : Module) (item : Item)
    (hitem : item ∈ session.entryExports module) :
    (∃ entries, item = exportItem entries) ∨
      ∃ star ∈ module.stars, item = exportStarItem star.specifier := by
  rcases List.mem_append.mp hitem with hitem | hitem
  · split at hitem
    · exact absurd hitem List.not_mem_nil
    · exact .inl ⟨_, List.mem_singleton.mp hitem⟩
  · obtain ⟨star, hstar, rfl⟩ := List.mem_map.mp hitem
    exact .inr ⟨star, hstar, rfl⟩

theorem Linked.hoistedItems_eq {built linked : Session} {order : List ModuleId}
    (h : built.Linked linked order) (id : ModuleId) (hid : id < built.modules.length)
    (hsettled : (built.module id).Settled) (hshape : (built.module id).program.WellShaped) :
    linked.hoistedItems (linked.module id) =
      linked.erasedItems (built.module id).vanishes (linked.module id) ++
        if (built.module id).isEntry then linked.entryExports (linked.module id) else [] := by
  obtain ⟨exports, stars, unused, -, hmodule⟩ := h.module_left id hid
  have hkept : linked.keptItems (linked.module id) = (linked.module id).program.items.filterMap
      (Item.erased (built.module id).vanishes (linked.ownName (linked.module id))) := by
    rw [keptItems, ownName, hmodule]
    exact List.filterMap_congr fun item hitem =>
      hsettled.hoisted_eq hshape unused linked.identifier item hitem
  rw [hoistedItems, hoistedStatements_eq, hkept, erasedItems]
  congr 1
  rw [hmodule]

theorem Linked.hoistedItems_gathered {built linked : Session} {order : List ModuleId}
    (h : built.Linked linked order) {root : ModuleId} {options : BundleOptions}
    (hgathers : (Session.new options).Gathers true [.module root] built)
    (hmarked : (built.module root).isEntry = true) (id : ModuleId)
    (hid : id < built.modules.length) :
    linked.hoistedItems (linked.module id) =
      linked.erasedItems (built.module id).vanishes (linked.module id) ++
        if id = root then linked.entryExports (linked.module root) else [] := by
  rw [h.hoistedItems_eq id hid (hgathers.settled id (Nat.zero_le id) hid)
    (hgathers.wellShaped id (Nat.zero_le id) hid)]
  by_cases heq : id = root
  · rw [heq, if_pos hmarked, if_pos rfl]
  · have hnot : (built.module id).isEntry ≠ true := fun hentry => by
      obtain ⟨-, hmem⟩ := hgathers.entries id (Nat.zero_le id) hid hentry
      exact heq (Target.module.inj (List.mem_singleton.mp hmem))
    rw [if_neg hnot, if_neg heq]

theorem Linked.importsOf_met {built linked : Session} {order : List ModuleId}
    (h : built.Linked linked order) (hcoherent : built.Coherent) (id : ExternalId)
    (hid : id < built.externals.length)
    (hasked : ∃ asker < built.modules.length, built.DependsOn asker id) :
    linked.importsOf (linked.external id) ≠ [] ∧
      ∀ item ∈ linked.importsOf (linked.external id), ∃ specifiers,
        item = importItem (built.external id).specifier specifiers := by
  obtain ⟨exports, hexternal⟩ := h.external_left id hid
  obtain ⟨asker, hasker⟩ := hasked
  have hdependent := (hcoherent.importers id asker).mpr hasker
  have hspecifier : (linked.external id).specifier = (built.external id).specifier := by
    rw [hexternal]
  have hdependents : (linked.external id).dependents ≠ [] := by
    rw [hexternal]
    exact List.ne_nil_of_mem hdependent
  exact ⟨linked.importsOf_ne_nil _ hdependents, fun item hitem =>
    hspecifier ▸ linked.importsOf_specifier _ item hitem⟩

theorem Linked.entryExports_met {built linked : Session} {order : List ModuleId}
    (h : built.Linked linked order) {tree : FileTree} {path : Path} {root : ModuleId}
    (hrooted : built.Rooted tree path root) {first : ModuleId → Table RecordId}
    (hwired : built.Wired first) (item : Item)
    (hitem : item ∈ linked.entryExports (linked.module root)) :
    (∃ entries, item = exportItem entries) ∨
      ∃ id ∈ List.range built.externals.length,
        item = exportStarItem (built.external id).specifier := by
  rcases linked.mem_entryExports _ item hitem with hentries | ⟨star, hstar, heq⟩
  · exact .inl hentries
  · obtain ⟨exports, stars, unused, hsub, hmodule⟩ := h.module_left root hrooted.valid
    rw [hmodule] at hstar
    have hbelow := (h.sound.modules root hrooted.valid).stars star (hsub hstar)
    obtain ⟨found, -, hstars⟩ := (hrooted.starsKept h.sound hwired).expands root hrooted.valid
    obtain ⟨external, -, rfl⟩ := List.mem_map.mp (hstars ▸ hsub hstar)
    exact .inr ⟨external, List.mem_range.mpr hbelow, heq⟩

/-- A session that was linked from one build has its items in sequence. -/
theorem Linked.sequenced {built linked : Session} {order : List ModuleId}
    (h : built.Linked linked order) (hcoherent : built.Coherent) {tree : FileTree} {path : Path}
    {root : ModuleId} (hrooted : built.Rooted tree path root) {options : BundleOptions}
    (hgathers : (Session.new options).Gathers true [.module root] built)
    (hmarked : (built.module root).isEntry = true)
    {first : ModuleId → Table RecordId} (hwired : built.Wired first)
    (horder : order = built.executionOrder)
    (hasked : built.options.treeshake = false → linked.modules = built.modules) :
    built.Sequenced Module.vanishes linked root order (List.range built.externals.length)
      (linked.linkedProgram order).items := by
  have hrange : order = List.range built.modules.length :=
    horder.trans (hrooted.executionOrder_eq h.sound)
  have hvalid : ∀ id ∈ order, id < built.modules.length := fun id hid =>
    List.mem_range.mp (hrange ▸ hid)
  have hlast : order.getLast? = some root := hrange ▸ hrooted.walked.getLast?_eq
  have hnodup : order.Nodup := hrange ▸ List.nodup_range
  constructor
  case walked =>
    intro order' met'
    rw [hrange]
    exact ⟨fun hwalk => hgathers.met.unique hwalk, fun hsame =>
      hsame.1 ▸ hsame.2 ▸ hgathers.met⟩
  case once => exact hnodup
  case reached =>
    rw [horder]
    exact h.sound.mem_executionOrder_iff root hrooted.entry
  case last => exact hlast
  case items_eq =>
    have himports : linked.externalImports = (List.range built.externals.length).flatMap
        fun id => linked.importsOf (linked.external id) := by
      rw [externalImports, linked.externals_eq_map, List.flatMap_map, h.externals_length]
    rw [linkedProgram, himports, flatMap_last hlast hnodup _ _ _ fun id hid =>
      h.hoistedItems_gathered hgathers hmarked id (hvalid id hid)]
    simp only [List.append_assoc]
  case helper => exact linked.helperItems_iff order
  case imports =>
    intro id hid
    have hid := List.mem_range.mp hid
    exact h.importsOf_met hcoherent id hid (hrooted.asked id hid)
  case between =>
    intro item hitem
    rcases List.mem_append.mp hitem with hitem | hitem
    · exact linked.statement_of_mem_helperItems order item hitem
    · obtain ⟨id, -, hitem⟩ := List.mem_flatMap.mp hitem
      exact linked.statement_of_mem_erasedItems _ _ item hitem
  case exports => exact fun item hitem => h.entryExports_met hrooted hwired item hitem
  case shaken =>
    intro id hid
    cases htreeshake : built.options.treeshake with
    | true =>
      obtain ⟨exports, stars, unused, -, hmodule⟩ := h.module_left id (hvalid id hid)
      exact ⟨unused, by rw [hmodule], fun hasleep => by cases hasleep⟩
    | false =>
      refine ⟨[], ?_, fun _ => rfl⟩
      rw [Session.module, hasked htreeshake]
      rfl

end Session

theorem coherent_builtSession (tree : FileTree) (entry : Path) (options : BundleOptions) :
    (builtSession tree entry options).Coherent := by
  have hnoted : ((Session.new options).note .info ("Bundling " ++ entry)).Coherent :=
    (Session.coherent_new options).of_same rfl rfl rfl rfl rfl
  have hbuild := hnoted.build tree entry
  have hrun : builtSession tree entry options = ((do
      let _ ← Building.build tree entry
      InSession.settleOrder : Building (List ModuleId)).run
        ((Session.new options).note .info ("Bundling " ++ entry))).2 := rfl
  rw [hrun, Building.run_bind]
  generalize (Building.build tree entry).run _ = result at *
  obtain ⟨outcome, built⟩ := result
  cases outcome with
  | error error => exact hbuild
  | ok root => exact hbuild.of_same rfl rfl rfl rfl rfl

theorem sequenced_linkedSession (tree : FileTree) (entry : Path) (options : BundleOptions)
    (h : Builds tree entry options) :
    let built := builtSession tree entry options
    ∃ root met, built.Rooted tree (canonicalOr tree entry .empty).1 root ∧
      (built.module root).isEntry = true ∧
        built.Sequenced Module.vanishes (linkedSession tree entry options) root
          (bundleOrder tree entry options) met (bundledProgram tree entry options).items := by
  intro built
  obtain ⟨root, hrooted, hgathers, hmarked⟩ := gathers_builtSession tree entry options h
  obtain ⟨first, hwired⟩ := wired_builtSession tree entry options
  refine ⟨root, _, hrooted, hmarked, (linked_linkedSession tree entry options).sequenced
    (coherent_builtSession tree entry options) hrooted hgathers hmarked hwired rfl fun hnot => ?_⟩
  rw [builtSession_options] at hnot
  exact (linkedSession_of_not tree entry options hnot).1

/-- An entry and a file that share another one. Two of the three files import an external. -/
def shared : FileTree :=
  ⟨[(["i"], .file "import*as n from'./b';import d from'./s';f(n,d);export{d}".toUTF8),
    (["b"], .file "import'./s';import'q';export const a=1".toUTF8),
    (["s"], .file "import'p';export default 2".toUTF8)], []⟩

/-- A module with two default exports. The first one is another name of a declaration. -/
def twoDefaults : FileTree :=
  ⟨[(["i.js"], .file "const x=1;f(x);export default x;export default 2".toUTF8)], []⟩

end ScopeHoist
