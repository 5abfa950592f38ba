import ScopeHoist.Proofs.Descent

/-!
# Two walks, one order

A build walks through files and stores a module behind all that it depends on. The execution order
walks through stored modules from the entry. Both take the dependencies of a module in the order of
its source, so that after one build the second walk finds the modules as they are stored.
-/

set_option autoImplicit false

namespace ScopeHoist

namespace Session

/-- Whether each module has its targets in the order of its source. -/
def InSourceOrder (session : Session) : Prop :=
  ∀ id < session.modules.length,
    (session.module id).dependencies.names = (session.module id).program.specifiers

theorem InSourceOrder.loads {tree : FileTree} {underWay : List Path} {targets : List Target}
    {before after : Session} (h : before.InSourceOrder)
    (hloads : before.Loads tree underWay targets after) : after.InSourceOrder := by
  intro id hid
  by_cases hold : id < before.modules.length
  · have hmodule := hloads.grows.module id hold
    rw [hmodule.dependencies_eq, hmodule.program_eq]
    exact h id hold
  · obtain ⟨program, -, hspecifiers, hnames⟩ := hloads.sourced id (Nat.le_of_not_lt hold) hid
    exact hnames.trans hspecifiers.symm

theorem FromBuilds.inSourceOrder {options : BundleOptions} {session : Session}
    (h : session.FromBuilds options) : session.InSourceOrder := by
  induction h with
  | new => exact fun id hid => absurd hid (Nat.not_lt_zero id)
  | @build session h tree hdir entry ih =>
    generalize hrun : (Building.build tree entry).run session = outcome
    obtain ⟨result, after⟩ := outcome
    cases result with
    | ok root =>
      exact ih.loads (Building.loaded_build tree entry session h.sound root after hrun).1.loads
    | error error =>
      obtain ⟨targets, hloads⟩ := (Building.failed_build hdir entry h.sound hrun).loads
      exact ih.loads hloads

theorem Sound.mem_executionOrder_iff {session : Session} (h : session.Sound) (entry : ModuleId)
    (hentry : session.entry = some entry) (id : ModuleId) :
    id ∈ session.executionOrder ↔ session.Reaches entry id := by
  refine ⟨fun hid => ?_, h.mem_executionOrder entry hentry id⟩
  rcases (h.visits_executionOrder entry hentry).added id hid with hid | ⟨root, hroot, hreaches⟩
  · exact absurd hid List.not_mem_nil
  · obtain rfl := List.mem_singleton.mp hroot
    exact hreaches

/-- After one build the execution order is that of storage. -/
theorem Rooted.executionOrder_eq {session : Session} (hsound : session.Sound) {tree : FileTree}
    {path : Path} {root : ModuleId} (h : session.Rooted tree path root) :
    session.executionOrder = List.range session.modules.length :=
  h.walked.unique (hsound.visits_executionOrder root h.entry)

end Session

/-- The execution order of a session is the order in which the recursive walk goes through what its
entry reaches, dependencies first. After one build it is the order of storage. -/
theorem executionOrder_recursive (options : BundleOptions) :
    (∀ session, Session.FromBuilds options session →
      session.InSourceOrder ∧ (session.entry = none → session.executionOrder = []) ∧
      ∀ entry, session.entry = some entry →
        (∀ order, Visits (fun id => (session.module id).moduleDependencies) [] [entry] order ↔
          order = session.executionOrder) ∧
        (∀ id, id ∈ session.executionOrder ↔ session.Reaches entry id) ∧
        session.executionOrder.Nodup ∧
        Ordered (fun id => (session.module id).moduleDependencies) session.executionOrder ∧
        session.executionOrder.getLast? = some entry) ∧
    ∀ (tree : FileTree) (entry : Path) (root : ModuleId),
      ((Building.build tree entry).run (.new options)).1 = .ok root →
        let session := ((Building.build tree entry).run (.new options)).2
        session.entry = some root ∧
          session.executionOrder = List.range session.modules.length := by
  constructor
  · intro session hsession
    have hsound := hsession.sound
    refine ⟨hsession.inSourceOrder, fun hnone => by rw [Session.executionOrder, hnone], ?_⟩
    intro entry hentry
    have hvisits := hsound.visits_executionOrder entry hentry
    refine ⟨fun order => ⟨fun horder => hvisits.unique horder, fun heq => heq ▸ hvisits⟩,
      hsound.mem_executionOrder_iff entry hentry, hsound.orderedBy.nodup,
      hvisits.ordered ?_, hvisits.getLast?_eq⟩
    intro front id hfront
    exact absurd (List.prefix_nil.mp hfront) (by simp)
  · intro tree entry root hroot session
    have hrooted := Building.rooted_build tree entry (.new options) (Session.sound_new options) rfl
      rfl root session (Prod.ext hroot rfl)
    have hsound := (Building.keeps_build tree entry (.new options) (Session.sound_new options)
      trivial).2.1
    exact ⟨hrooted.entry, hrooted.executionOrder_eq hsound⟩

/-- An entry that imports a file and, under two names, what this file imports as well. -/
def diamond : FileTree :=
  ⟨[(["i"], .file "import'./b';import'./s';import'./s.js'".toUTF8),
    (["b.js"], .file "import'./s'".toUTF8), (["s.js"], .file "".toUTF8),
    (["x"], .file "import'./s'".toUTF8)], []⟩

def diamondSession : Session :=
  ((Building.build diamond "i").run ((Building.build diamond "x").run (Session.new .standard)).2).2

set_option maxRecDepth 100000 in
theorem executionOrder_recursive_diamond :
    diamondSession.FromBuilds .standard ∧ diamondSession.entry = some 3 ∧
      Visits (fun id => (diamondSession.module id).moduleDependencies) [] [3] [0, 2, 3] ∧
      ((Building.build diamond "i").run (.new .standard)).2.executionOrder = [0, 1, 2] := by
  have hdir : diamond.Holds diamond.workingDir := FileTree.holds_nil
  have hsession : diamondSession.FromBuilds .standard :=
    .build (.build .new diamond hdir "x") diamond hdir "i"
  have hbuilt : diamondSession.entry = some 3 ∧ diamondSession.executionOrder = [0, 2, 3] := by
    decide +kernel
  have hfresh : ((Building.build diamond "i").run (.new .standard)).1 = .ok 2 ∧
      ((Building.build diamond "i").run (.new .standard)).2.modules.length = 3 := by
    decide +kernel
  obtain ⟨hvisits, -⟩ :=
    ((executionOrder_recursive .standard).1 diamondSession hsession).2.2 3 hbuilt.1
  refine ⟨hsession, hbuilt.1, (hvisits [0, 2, 3]).mpr hbuilt.2.symm, ?_⟩
  rw [((executionOrder_recursive .standard).2 diamond "i" 2 hfresh.1).2, hfresh.2]
  rfl

end ScopeHoist
