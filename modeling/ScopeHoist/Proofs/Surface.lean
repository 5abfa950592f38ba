import ScopeHoist.Proofs.Sequence

/-!
# What the bundle offers

The bundle exports what its entry does: the names of the table that the entry was built with, each
as the declaration that its record is called like in the end, and the externals that following
`export *` from the entry leads to. Shaking may take the rest of the graph apart, but not this.
-/

set_option autoImplicit false

namespace ScopeHoist

/-! ## Exports of a program -/

def Item.isExport : Item → Bool
  | .statement _ | .importFrom .. => false
  | _ => true

def Item.starSpecifier? : Item → Option String
  | .exportStar source _ => some source.value
  | _ => none

def Program.exportedNames (program : Program) : List String :=
  program.items.flatMap Item.exportedNames

def Program.exportedExternals (program : Program) : List String :=
  program.items.filterMap Item.starSpecifier?

theorem OuterName.value_generated (name : String) : (OuterName.generated name).value = name := by
  unfold OuterName.generated
  split <;> rfl

theorem exportItem_exportedNames (entries : List (String × String)) :
    (exportItem entries).exportedNames = entries.map Prod.snd := by
  rw [exportItem, Item.exportedNames, List.map_map]
  apply List.map_congr_left
  intro entry _
  by_cases hsame : entry.1 = entry.2
  · simp [ExportSpecifier.namePair, hsame]
    rfl
  · simp [ExportSpecifier.namePair, hsame, OuterName.value_generated]

theorem Item.exports_nothing (item : Item) (h : item.isExport = false) :
    item.exportedNames = [] ∧ item.starSpecifier? = none := by
  cases item with
  | statement tree | importFrom specifiers source span => exact ⟨rfl, rfl⟩
  | _ => exact absurd h nofun

namespace Session

def exportsOf (session : Session) (table : Table RecordId) : List Item :=
  if table.isEmpty then []
  else [exportItem (table.map fun entry => (session.identifier entry.2, entry.1))]

/-- What a program offers that was linked from a built session with a root, where following
`export *` from the root leads to some externals. -/
structure Surface (built linked : Session) (root : ModuleId) (found : List ExternalId)
    (program : Program) : Prop where
  items : program.items.filter Item.isExport =
    linked.exportsOf (built.module root).exports
      ++ found.eraseDups.map fun id => exportStarItem (built.external id).specifier
  names : program.exportedNames = (built.module root).exports.names
  names_once : program.exportedNames.Nodup
  externals : program.exportedExternals =
    found.eraseDups.map fun id => (built.external id).specifier
  externals_once : program.exportedExternals.Nodup

theorem Sequenced.exports_eq {vanishes : Module → Tree → Bool} {built linked : Session}
    {root : ModuleId} {order : List ModuleId} {met : List ExternalId} {program : Program}
    (h : built.Sequenced vanishes linked root order met program.items) :
    program.items.filter Item.isExport = linked.entryExports (linked.module root) ∧
      program.exportedNames =
        (linked.entryExports (linked.module root)).flatMap Item.exportedNames ∧
      program.exportedExternals =
        (linked.entryExports (linked.module root)).filterMap Item.starSpecifier? := by
  have hfront : ∀ item ∈ met.flatMap (fun id => linked.importsOf (linked.external id))
      ++ (linked.helperItems order ++ order.flatMap fun id =>
        linked.erasedItems (vanishes (built.module id)) (linked.module id)),
      item.isExport = false := by
    intro item hitem
    rcases List.mem_append.mp hitem with hitem | hitem
    · obtain ⟨id, hid, hitem⟩ := List.mem_flatMap.mp hitem
      obtain ⟨specifiers, rfl⟩ := (h.imports id hid).2 item hitem
      rfl
    · obtain ⟨tree, rfl⟩ := h.between item hitem
      rfl
  have hexports : ∀ item ∈ linked.entryExports (linked.module root), item.isExport = true := by
    intro item hitem
    rcases h.exports item hitem with ⟨entries, rfl⟩ | ⟨id, -, rfl⟩ <;> rfl
  rw [Program.exportedNames, Program.exportedExternals, h.items_eq, List.append_assoc _
    (linked.helperItems order)]
  refine ⟨?_, ?_, ?_⟩
  · rw [List.filter_append, List.filter_eq_self.mpr hexports, List.filter_eq_nil_iff.mpr,
      List.nil_append]
    exact fun item hitem => by simp [hfront item hitem]
  · rw [List.flatMap_append, List.flatMap_eq_nil_iff.mpr, List.nil_append]
    exact fun item hitem => (item.exports_nothing (hfront item hitem)).1
  · rw [List.filterMap_append, List.filterMap_eq_nil_iff.mpr, List.nil_append]
    exact fun item hitem => (item.exports_nothing (hfront item hitem)).2

theorem entryExports_eq (session : Session) (module : Module)
    (hnone : module.exports.get? aggregateName = none) :
    session.entryExports module =
      session.exportsOf module.exports
        ++ module.stars.map fun star => exportStarItem star.specifier := by
  have hall : (module.exports.filter fun entry => entry.1 != aggregateName) = module.exports := by
    apply List.filter_eq_self.mpr
    intro entry hentry
    have hne : entry.1 ≠ aggregateName := fun heq =>
      (Table.get?_eq_none _ _).mp hnone (heq ▸ List.mem_map_of_mem hentry)
    simpa using hne
  rw [entryExports, hall]
  rfl

theorem exportsOf_exportedNames (session : Session) (table : Table RecordId) :
    (session.exportsOf table).flatMap Item.exportedNames = table.names := by
  unfold exportsOf
  cases table with
  | nil => rfl
  | cons first rest =>
    rw [if_neg (by simp), List.flatMap_singleton, exportItem_exportedNames, List.map_map]
    rfl

theorem exportsOf_starSpecifiers (session : Session) (table : Table RecordId) :
    (session.exportsOf table).filterMap Item.starSpecifier? = [] := by
  unfold exportsOf
  split <;> rfl

theorem Sequenced.exports_of_root {vanishes : Module → Tree → Bool} {built linked : Session}
    {root : ModuleId} {order : List ModuleId} {met : List ExternalId} {program : Program}
    (h : built.Sequenced vanishes linked root order met program.items)
    (hexports : (linked.module root).exports = (built.module root).exports)
    (hstars : (linked.module root).stars = (built.module root).stars)
    (hnone : (built.module root).exports.get? aggregateName = none) :
    program.items.filter Item.isExport =
        linked.exportsOf (built.module root).exports
          ++ (built.module root).stars.map (fun star => exportStarItem star.specifier) ∧
      program.exportedNames = (built.module root).exports.names ∧
      program.exportedExternals = (built.module root).stars.map StarReexport.specifier := by
  obtain ⟨hitems, hnames, hexternals⟩ := h.exports_eq
  have hentry := linked.entryExports_eq (linked.module root) (by rw [hexports, hnone])
  rw [hexports, hstars] at hentry
  rw [hentry] at hitems hnames hexternals
  have hstarNames : (built.module root).stars.flatMap
      (fun star => (exportStarItem star.specifier).exportedNames) = [] :=
    List.flatMap_eq_nil_iff.mpr fun star _ => rfl
  refine ⟨hitems, hnames.trans ?_, hexternals.trans ?_⟩
  · rw [List.flatMap_append, exportsOf_exportedNames, List.flatMap_map, hstarNames,
      List.append_nil]
  · rw [List.filterMap_append, exportsOf_starSpecifiers, List.nil_append, List.filterMap_map]
    exact congrFun List.filterMap_eq_map _

/-- The root is not asked for its namespace, since no module depends on it. -/
theorem Rooted.get?_aggregate {session : Session} {tree : FileTree} {path : Path} {root : ModuleId}
    (h : session.Rooted tree path root) (hsound : session.Sound) {first : ModuleId → Table RecordId}
    (hwired : session.Wired first)
    (hplain : ¬ (session.module root).program.ExportsAggregateName) :
    (session.module root).exports.get? aggregateName = none := by
  by_contra hsome
  rcases hwired.aggregate root h.valid hsome with hfirst | ⟨asker, hasker, specifier, htarget, -⟩
  · exact hfirst (hwired.first_aggregate hsound root h.valid hplain)
  · have hbelow := (hsound.modules asker hasker).dependencies root
      ((mem_moduleDependencies _ root).mpr (target?_mem _ _ _ htarget))
    rw [hsound.id_eq asker hasker] at hbelow
    have hlast := h.walked.getLast?_eq
    rw [List.getLast?_range] at hlast
    grind

end Session

section

variable (tree : FileTree) (entry : Path) (options : BundleOptions)

theorem Builds.withOptions (h : Builds tree entry options) (others : BundleOptions)
    (hothers : others.extensions = options.extensions) : Builds tree entry others := by
  have hrun := Building.blind_settled tree entry (Session.new options) others hothers
  have houtcome : ((Building.settled tree entry).run (Session.new others)).1 =
      ((Building.settled tree entry).run (Session.new options)).1 := (congrArg Prod.fst hrun :)
  rwa [Builds, houtcome]

theorem entry_linkedSession (id : ModuleId)
    (hid : id < (builtSession tree entry options).modules.length)
    (hentry : ((builtSession tree entry options).module id).isEntry = true) :
    ((linkedSession tree entry options).module id).exports =
        ((builtSession tree entry options).module id).exports ∧
      ((linkedSession tree entry options).module id).stars =
        ((builtSession tree entry options).module id).stars := by
  obtain ⟨idle, unused, used, -, hshaken⟩ :=
    (builtSession tree entry options).shaken_shakeIfAsked
  obtain ⟨stars, -, hmodule⟩ := hshaken.module id hid
  rw [(respelled_linkedSession tree entry options).module id]
  refine ⟨?_, ((builtSession tree entry options).stars_left id hid).2 hentry⟩
  rw [shakenSession, hmodule]
  exact if_pos hentry

theorem exports_bundledProgram (h : Builds tree entry options)
    (hplain : (builtSession tree entry options).PlainNames) (root : ModuleId)
    (hroot : (builtSession tree entry options).entry = some root) :
    let module := (builtSession tree entry options).module root
    let program := bundledProgram tree entry options
    program.items.filter Item.isExport =
        (linkedSession tree entry options).exportsOf module.exports
          ++ module.stars.map (fun star => exportStarItem star.specifier) ∧
      program.exportedNames = module.exports.names ∧
      program.exportedExternals = module.stars.map StarReexport.specifier := by
  obtain ⟨root', met, hrooted, hmarked, hsequenced⟩ := sequenced_linkedSession tree entry options h
  obtain rfl : root = root' := Option.some.inj (hroot.symm.trans hrooted.entry)
  obtain ⟨first, hwired⟩ := wired_builtSession tree entry options
  obtain ⟨hexports, hstars⟩ := entry_linkedSession tree entry options root hrooted.valid hmarked
  exact hsequenced.exports_of_root hexports hstars
    (hrooted.get?_aggregate (sound_builtSession tree entry options) hwired
      (hplain root hrooted.valid).2)

end

/-- The bundle exports the names of its entry, in the order of the table that was built and each as
what its record is called in the end, and the externals that following `export *` leads to. Other
options, such as whether to shake, do not change what is exported. -/
theorem bundle_surface (tree : FileTree) (entry : Path) (output : Option Path)
    (options : BundleOptions) (bundled : Bundle)
    (h : (bundle tree entry output options).outcome = .ok bundled)
    (hplain : (builtSession tree entry options).PlainNames) :
    let built := builtSession tree entry options
    let linked := linkedSession tree entry options
    let program := bundledProgram tree entry options
    bundled.code = program.text linked.comments linked.options.minify ∧
      (∃ root found, built.Rooted tree (canonicalOr tree entry .empty).1 root ∧
        built.Expands (built.module root).starTargets found ∧
          built.Surface linked root found program) ∧
      ∀ others : BundleOptions, others.extensions = options.extensions →
        (bundledProgram tree entry others).exportedNames = program.exportedNames ∧
          (bundledProgram tree entry others).exportedExternals = program.exportedExternals := by
  intro built linked program
  have hbuilds := builds_of_bundle tree entry output options bundled h
  have hsound := sound_builtSession tree entry options
  obtain ⟨root, hrooted, -⟩ := rooted_builtSession tree entry options hbuilds
  obtain ⟨first, hwired⟩ := wired_builtSession tree entry options
  obtain ⟨found, hfound, hstars⟩ := (hrooted.starsKept hsound hwired).expands root hrooted.valid
  obtain ⟨hitems, hnames, hexternals⟩ :=
    exports_bundledProgram tree entry options hbuilds hplain root hrooted.entry
  refine ⟨bundle_code tree entry output options bundled h, ⟨root, found, hrooted, hfound, ?_⟩, ?_⟩
  · have hspecifiers : program.exportedExternals =
        found.eraseDups.map fun id => (built.external id).specifier := by
      rw [hexternals, hstars, List.map_map]
      rfl
    constructor
    · rw [hitems, hstars, List.map_map]
      rfl
    · exact hnames
    · exact hnames ▸ hsound.proper root hrooted.valid
    · exact hspecifiers
    · have hvalid : ∀ id ∈ found.eraseDups, id < built.externals.length := fun id hid =>
        (hsound.modules root hrooted.valid).stars (built.starOf id)
          (hstars ▸ List.mem_map_of_mem hid)
      rw [hspecifiers]
      exact (eraseDups_nodup found).map_on fun first hfirst second hsecond heq =>
        hrooted.named first (hvalid first hfirst) second (hvalid second hsecond) heq
  · intro others hothers
    have hbuilt := builtSession_withOptions tree entry options others hothers
    obtain ⟨-, hnames', hexternals'⟩ := exports_bundledProgram tree entry others
      (hbuilds.withOptions tree entry options others hothers) (hbuilt ▸ hplain) root
        (hbuilt ▸ hrooted.entry)
    rw [hbuilt] at hnames' hexternals'
    exact ⟨hnames'.trans hnames.symm, hexternals'.trans hexternals.symm⟩

/-- An entry that exports two externals whole, one of them only by way of a file. -/
def starred : FileTree :=
  ⟨[(["i"], .file
      "export*from'./m';export*from'p';const a=1,e=3;export{a as b};export default a".toUTF8),
    (["m"], .file "export*from'q';export*from'p';export const c=2,d=4".toUTF8)], []⟩

set_option maxRecDepth 100000 in
theorem bundle_surface_starred :
    ∃ bundled, (bundle starred "/i" none .standard).outcome = .ok bundled ∧
      (builtSession starred "/i" .standard).PlainNames ∧
      (bundledProgram starred "/i" .standard).exportedNames = ["c", "d", "b", "default"] ∧
      (bundledProgram starred "/i" .standard).exportedExternals = ["q", "p"] ∧
      (∃ root found, (builtSession starred "/i" .standard).Surface
        (linkedSession starred "/i" .standard) root found
          (bundledProgram starred "/i" .standard)) ∧
      (bundledProgram starred "/i" { BundleOptions.standard with treeshake := false }).exportedNames
        = ["c", "d", "b", "default"] := by
  have hchecked : (bundle starred "/i" none .standard).outcome.toOption.isSome = true ∧
      (builtSession starred "/i" .standard).PlainNames ∧
      (bundledProgram starred "/i" .standard).exportedNames = ["c", "d", "b", "default"] ∧
      (bundledProgram starred "/i" .standard).exportedExternals = ["q", "p"] := by
    decide +kernel
  obtain ⟨houtcome, hplain, hnames, hexternals⟩ := hchecked
  generalize houtcome' : (bundle starred "/i" none .standard).outcome = outcome at houtcome
  cases outcome with
  | error error => exact absurd houtcome nofun
  | ok bundled =>
    obtain ⟨-, ⟨root, found, -, -, hsurface⟩, hothers⟩ :=
      bundle_surface starred "/i" none .standard bundled houtcome' hplain
    obtain ⟨hsame, -⟩ := hothers { BundleOptions.standard with treeshake := false } rfl
    exact ⟨bundled, rfl, hplain, hnames, hexternals, ⟨root, found, hsurface⟩, hsame.trans hnames⟩

end ScopeHoist
