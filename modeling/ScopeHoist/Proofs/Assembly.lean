import ScopeHoist.Bundle
import ScopeHoist.Proofs.Loading
import ScopeHoist.Proofs.Naming

/-!
# What the bundle is the text of

Hoisting a module changes nothing that hoisting another one reads, so the program of a session with
names is a function of that session: the imports of externals, the function that merges namespaces,
and what each module of the order adds. The code of a bundle is the text of this program.
-/

set_option autoImplicit false

namespace ScopeHoist

namespace Session

def helperItems (session : Session) (order : List ModuleId) : List Item :=
  if session.needsMergeHelper order then [Item.statement mergeHelper] else []

/-- The one program of a session with names. -/
def linkedProgram (session : Session) (order : List ModuleId) : Program :=
  ⟨.generated, InSession.shebangOf session order,
    session.externalImports ++ session.helperItems order ++
      order.flatMap fun id => session.hoistedItems (session.module id)⟩

/-! ## Hoisting one module after the other -/

def hoistedModule (session : Session) (id : ModuleId) : Module :=
  let module := session.module id
  { module with program := { module.program with items := session.hoistedItems module } }

structure Hoisted (start : Session) (done : List ModuleId) (session : Session) : Prop where
  same : { session with modules := start.modules, journal := start.journal } = start
  length : session.modules.length = start.modules.length
  module : ∀ id, session.module id = if id ∈ done then start.hoistedModule id else start.module id

namespace Hoisted

variable {start session : Session} {done : List ModuleId} (h : start.Hoisted done session)
include h

theorem hoistedItems_eq (module : Module) :
    session.hoistedItems module = start.hoistedItems module :=
  show ({ session with modules := start.modules, journal := start.journal } : Session).hoistedItems
    module = _ from h.same ▸ rfl

theorem mergedRecords_eq (module : Module) :
    session.mergedRecords module = start.mergedRecords module :=
  show ({ session with modules := start.modules, journal := start.journal } : Session).mergedRecords
    module = _ from h.same ▸ rfl

theorem externalImports_eq : session.externalImports = start.externalImports :=
  show ({ session with
    modules := start.modules, journal := start.journal } : Session).externalImports
    = _ from h.same ▸ rfl

theorem comments_eq : session.comments = start.comments :=
  (congrArg Session.comments h.same :)

theorem options_eq : session.options = start.options :=
  (congrArg Session.options h.same :)

theorem note (level : Level) (text : String) : start.Hoisted done (session.note level text) :=
  ⟨h.same, h.length, h.module⟩

theorem helperItems_eq (order : List ModuleId) :
    session.helperItems order = start.helperItems order := by
  have hmodule : ∀ id, (session.module id).exports = (start.module id).exports ∧
      session.mergedRecords (session.module id) = start.mergedRecords (start.module id) := by
    intro id
    rw [h.mergedRecords_eq, h.module]
    split <;> exact ⟨rfl, rfl⟩
  simp only [helperItems, needsMergeHelper, hmodule]
  rfl

theorem shebangOf_eq (order : List ModuleId) :
    InSession.shebangOf session order = InSession.shebangOf start order := by
  have hmodule : ∀ id, (session.module id).isEntry = (start.module id).isEntry ∧
      (session.module id).program.shebang = (start.module id).program.shebang := fun id => by
    rw [h.module]
    split <;> exact ⟨rfl, rfl⟩
  simp only [InSession.shebangOf, List.filter_map, List.getLast?_map, Option.bind_map,
    Function.comp_def, hmodule]

theorem notes {α : Type} (level : Level) (text : α → String) (values : List α) :
    start.Hoisted done
      ((values.forM fun value => InSession.note level (text value)).run session).2 := by
  induction values generalizing session with
  | nil => exact h
  | cons value rest ih => exact ih (h.note level (text value))

theorem set (id : ModuleId) (hnew : id ∉ done) (hvalid : id < start.modules.length) :
    start.Hoisted (done ++ [id]) (session.setModule id fun module =>
      { module with program := { module.program with items := session.hoistedItems module } }) := by
  refine ⟨h.same, (session.setModule_length _ _).trans h.length, fun other => ?_⟩
  rw [module_setModule, h.length, h.module other, h.module id, if_neg hnew, h.hoistedItems_eq]
  by_cases heq : other = id
  · subst heq
    simp [hvalid, hoistedModule]
  · simp [heq]

theorem hoist (id : ModuleId) (hnew : id ∉ done) (hvalid : id < start.modules.length) :
    start.Hoisted (done ++ [id]) ((InSession.hoist id).run session).2 := by
  unfold InSession.hoist
  rw [InSession.run_bind, InSession.run_get, InSession.run_bind, InSession.run_bind]
  exact ((h.notes .debug _ _).note .debug _).set id hnew hvalid

end Hoisted

theorem hoisted_forM (session : Session) (order : List ModuleId) (hnodup : order.Nodup)
    (hvalid : ∀ id ∈ order, id < session.modules.length) :
    session.Hoisted order ((order.forM InSession.hoist).run session).2 := by
  have hrest : ∀ rest done current, order = done ++ rest → session.Hoisted done current →
      session.Hoisted order ((rest.forM InSession.hoist).run current).2 := by
    intro rest
    induction rest with
    | nil =>
      intro done current heq h
      rw [heq, List.append_nil]
      exact h
    | cons id rest ih =>
      intro done current heq h
      change session.Hoisted order
        ((InSession.hoist id >>= fun _ => rest.forM InSession.hoist).run current).2
      rw [InSession.run_bind]
      have hnew : id ∉ done := fun hmem => by
        rw [heq, List.nodup_append] at hnodup
        exact hnodup.2.2 id hmem id List.mem_cons_self rfl
      exact ih (done ++ [id]) _ (by simpa using heq) (h.hoist id hnew (hvalid id (by simp [heq])))
  exact hrest order [] session rfl ⟨rfl, rfl, fun id => by simp⟩

/-! ## Taking out what was hoisted -/

theorem takeItems_mapM (session : Session) (order : List ModuleId) (hnodup : order.Nodup) :
    ((order.mapM InSession.takeItems).run session).1 =
        order.map (fun id => (session.module id).program.items) ∧
      ((order.mapM InSession.takeItems).run session).2.comments = session.comments ∧
      ((order.mapM InSession.takeItems).run session).2.options = session.options := by
  induction order generalizing session with
  | nil => exact ⟨rfl, rfl, rfl⟩
  | cons id rest ih =>
    obtain ⟨hnew, hrest⟩ := List.nodup_cons.mp hnodup
    rw [List.mapM_cons, InSession.run_bind, InSession.run_bind]
    obtain ⟨hitems, hcomments, hoptions⟩ := ih ((InSession.takeItems id).run session).2 hrest
    refine ⟨?_, hcomments, hoptions⟩
    rw [List.map_cons, InSession.run_pure, hitems]
    refine congrArg (List.cons _) (List.map_congr_left fun other hother => ?_)
    have hne : other ≠ id := fun heq => hnew (heq ▸ hother)
    change ((session.setModule id _).module other).program.items = _
    rw [module_setModule, if_neg fun h => hne h.1]

theorem Hoisted.takeItems {start session : Session} {order : List ModuleId}
    (h : start.Hoisted order session) (hnodup : order.Nodup) (front : List Item)
    (hfront : front = start.externalImports ++ start.helperItems order) (shebang : Option String)
    (hshebang : shebang = InSession.shebangOf start order) :
    let action : InSession Program := do
      let bodies ← order.mapM InSession.takeItems
      return ⟨.generated, shebang, front ++ bodies.flatten⟩
    (action.run session).1 = start.linkedProgram order ∧
      (action.run session).2.comments = start.comments ∧
      (action.run session).2.options = start.options := by
  obtain ⟨hitems, hcomments, hoptions⟩ := session.takeItems_mapM order hnodup
  intro action
  refine ⟨?_, hcomments.trans h.comments_eq, hoptions.trans h.options_eq⟩
  have hhoisted : order.map (fun id => (session.module id).program.items) =
      order.map fun id => start.hoistedItems (start.module id) := by
    refine List.map_congr_left fun id hid => ?_
    rw [h.module, if_pos hid]
    rfl
  rw [InSession.run_bind, InSession.run_pure, hitems, hhoisted, hfront, hshebang, linkedProgram,
    List.flatMap_def]

theorem Hoisted.assembled {start session : Session} {order : List ModuleId}
    (h : start.Hoisted order session) (hnodup : order.Nodup) :
    ((InSession.assembled order).run session).1 = start.linkedProgram order ∧
      ((InSession.assembled order).run session).2.comments = start.comments ∧
      ((InSession.assembled order).run session).2.options = start.options := by
  have hfront : session.externalImports ++
      (if session.needsMergeHelper order then [Item.statement mergeHelper] else []) =
        start.externalImports ++ start.helperItems order := by
    rw [h.externalImports_eq, ← h.helperItems_eq]
    rfl
  unfold InSession.assembled
  rw [InSession.run_bind, InSession.run_get, InSession.run_bind]
  dsimp only
  split
  · rename_i hneeds
    rw [if_pos hneeds] at hfront
    rw [InSession.run_bind]
    exact ((h.note .debug _).note .debug _).takeItems hnodup _ hfront _ (h.shebangOf_eq order)
  · rename_i hneeds
    rw [if_neg hneeds] at hfront
    exact (h.note .debug _).takeItems hnodup _ hfront _ (h.shebangOf_eq order)

theorem merge_eq (session : Session) (order : List ModuleId) (hnodup : order.Nodup)
    (hvalid : ∀ id ∈ order, id < session.modules.length) :
    ((InSession.merge order).run session).1 =
      (session.linkedProgram order).text session.comments session.options.minify := by
  obtain ⟨hprogram, hcomments, hoptions⟩ :=
    (session.hoisted_forM order hnodup hvalid).assembled hnodup
  rw [← hprogram, ← hcomments, ← hoptions]
  rfl

end Session

/-! ## Runs -/

namespace Building

def settled (tree : FileTree) (entry : Path) : Building (List ModuleId) := do
  InSession.note .info ("Bundling " ++ entry)
  let _ ← build tree entry
  InSession.settleOrder

end Building

def builtSession (tree : FileTree) (entry : Path) (options : BundleOptions) : Session :=
  ((Building.settled tree entry).run (Session.new options)).2

def bundleOrder (tree : FileTree) (entry : Path) (options : BundleOptions) : List ModuleId :=
  (builtSession tree entry options).executionOrder

def shakenSession (tree : FileTree) (entry : Path) (options : BundleOptions) : Session :=
  ((InSession.shakeIfAsked).run (builtSession tree entry options)).2

def linkedSession (tree : FileTree) (entry : Path) (options : BundleOptions) : Session :=
  ((InSession.assignNames (bundleOrder tree entry options)).run
    (shakenSession tree entry options)).2

/-- The program that a run prints. -/
def bundledProgram (tree : FileTree) (entry : Path) (options : BundleOptions) : Program :=
  (linkedSession tree entry options).linkedProgram (bundleOrder tree entry options)

theorem keeps_settleOrder :
    InSession.Keeps (fun _ => True) InSession.settleOrder fun _ _ => True := by
  unfold InSession.settleOrder
  refine InSession.keeps_get fun before => ?_
  refine InSession.keeps_weaken ?_ (fun _ _ => trivial) fun _ _ h => h
  exact InSession.keeps_bind (InSession.steady_const True) (InSession.keeps_note _ _) fun _ =>
    InSession.keeps_weaken (InSession.keeps_bind (InSession.steady_const True)
      (InSession.keeps_note _ _) fun _ => InSession.keeps_pure fun _ _ _ => trivial)
        (fun _ _ => trivial) fun _ _ h => h

theorem sound_builtSession (tree : FileTree) (entry : Path) (options : BundleOptions) :
    (builtSession tree entry options).Sound := by
  have hsettled : Building.Keeps (fun _ => True) (Building.settled tree entry) fun _ _ => True :=
    Building.keeps_seq (Building.keeps_note _ _) fun _ =>
      Building.keeps_seq (Building.keeps_weaken (Building.keeps_build tree entry)
        (fun _ _ => trivial) fun _ _ _ => trivial) fun _ => Building.keeps_lift keeps_settleOrder
  exact (hsettled _ (Session.sound_new options) trivial).2.1

/-- What is known of a session with names, and of the one that it was built from. -/
structure Session.Linked (built linked : Session) (order : List ModuleId) : Prop where
  sound : built.Sound
  linkable : Linkable built linked order
  distinct : linked.Distinct order
  shaken : ∃ gone dropped used shaken, built.Just gone dropped used ∧
    built.Shaken gone dropped shaken ∧ shaken.Respelled linked

theorem linked_linkedSession (tree : FileTree) (entry : Path) (options : BundleOptions) :
    (builtSession tree entry options).Linked (linkedSession tree entry options)
      (bundleOrder tree entry options) := by
  have hsound := sound_builtSession tree entry options
  obtain ⟨gone, dropped, used, hjust, hshaken⟩ :=
    (builtSession tree entry options).shaken_shakeIfAsked
  obtain ⟨hlinkable, hdistinct, hrespelled⟩ := Session.linked_assignNames _ _ _
    (Session.linkable_of_shaken hsound hjust hshaken _ hsound.orderedBy)
  exact ⟨hsound, hlinkable, hdistinct, gone, dropped, used, _, hjust, hshaken, hrespelled⟩

theorem run_link (session : Session) :
    (InSession.link.run session).1 =
      ((InSession.merge session.executionOrder).run
        ((InSession.assignNames session.executionOrder).run
          ((InSession.shakeIfAsked).run ((InSession.settleOrder).run session).2).2).2).1 := by
  unfold InSession.link
  rw [InSession.run_bind, InSession.run_bind, InSession.run_bind]
  rfl

theorem run_bundle (tree : FileTree) (entry : Path) (output : Option Path) (session : Session)
    (bundled : Bundle) (written : FileTree) (final : Session)
    (h : (Building.bundle tree entry output).run session = (.ok (bundled, written), final)) :
    ∃ built, ((Building.settled tree entry).run session).2 = ((InSession.settleOrder).run built).2 ∧
      bundled.code = (InSession.link.run built).1 ∧
      bundled.stats.outputSize = bundled.code.utf8ByteSize := by
  unfold Building.bundle at h
  unfold Building.settled
  rw [Building.run_lift_bind, Building.run_bind] at h ⊢
  generalize (Building.build tree entry).run _ = result at h ⊢
  obtain ⟨outcome, built⟩ := result
  cases outcome with
  | error error => exact absurd (congrArg Prod.fst h) nofun
  | ok id =>
    refine ⟨built, rfl, ?_⟩
    dsimp only at h
    rw [Building.run_lift_bind, Building.run_bind] at h
    generalize (Building.writeBundle tree output _).run _ = result at h
    obtain ⟨outcome, left⟩ := result
    cases outcome with
    | error error => exact absurd (congrArg Prod.fst h) nofun
    | ok tree' =>
      have hbundled := (Prod.mk.inj (Except.ok.inj (congrArg Prod.fst h))).1
      rw [← hbundled]
      exact ⟨rfl, rfl⟩

theorem bundle_code (tree : FileTree) (entry : Path) (output : Option Path)
    (options : BundleOptions) (bundled : Bundle)
    (h : (bundle tree entry output options).outcome = .ok bundled) :
    bundled.code = (bundledProgram tree entry options).text
      (linkedSession tree entry options).comments
        (linkedSession tree entry options).options.minify := by
  unfold bundle at h
  split at h
  · rename_i found written final hrun
    obtain rfl := Except.ok.inj h
    obtain ⟨built, hbuilt, hcode, -⟩ := run_bundle tree entry output _ found written final hrun
    have horder : bundleOrder tree entry options = built.executionOrder := by
      rw [bundleOrder, builtSession, hbuilt]
      rfl
    have hlinked : linkedSession tree entry options =
        ((InSession.assignNames built.executionOrder).run
          ((InSession.shakeIfAsked).run ((InSession.settleOrder).run built).2).2).2 := by
      rw [linkedSession, horder, shakenSession, builtSession, hbuilt]
    have hlinkable := (linked_linkedSession tree entry options).linkable.order
    rw [hcode, run_link, ← hlinked, ← horder, bundledProgram]
    exact Session.merge_eq _ _ hlinkable.nodup hlinkable.valid
  · exact absurd h nofun

theorem bundle_outputSize (tree : FileTree) (entry : Path) (output : Option Path)
    (options : BundleOptions) (bundled : Bundle)
    (h : (bundle tree entry output options).outcome = .ok bundled) :
    bundled.stats.outputSize = bundled.code.utf8ByteSize := by
  unfold bundle at h
  split at h
  · rename_i found written final hrun
    obtain rfl := Except.ok.inj h
    obtain ⟨-, -, -, hsize⟩ := run_bundle tree entry output _ found written final hrun
    exact hsize
  · exact absurd h nofun

end ScopeHoist
