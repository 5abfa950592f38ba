import ScopeHoist.Proofs.Descent

/-!
# Which graphs are built

The graph below an entry can be built exactly if every file that the entry reaches through imports
has a program whose relative specifiers all mean files, and no file reaches itself. The modules of
the graph are then these files, each once, and its externals are their bare specifiers.
-/

set_option autoImplicit false

namespace ScopeHoist

/-! ## Files below an entry -/

namespace FileTree

/-- A file is the entry, by its canonical path, or imported below it. -/
def Reaches (tree : FileTree) (extensions : List String) (entry : Path) : Path → Prop :=
  Relation.ReflTransGen (tree.Imports extensions) (canonicalOr tree entry .empty).1

/-- Whether a file has a program and its relative specifiers all mean files. -/
def Complete (tree : FileTree) (extensions : List String) (file : Path) : Prop :=
  ∃ program, tree.programAt file = .ok program ∧ ∀ specifier ∈ program.specifiers,
    specifierKind specifier = .relative →
      (filePath? tree extensions file specifier).isSome = true

/-- Whether all files below an entry are complete and none of them imports itself, directly or
not. -/
structure Buildable (tree : FileTree) (extensions : List String) (entry : Path) : Prop where
  complete : ∀ file, tree.Reaches extensions entry file → tree.Complete extensions file
  acyclic : ∀ file, tree.Reaches extensions entry file →
    ¬ Relation.TransGen (tree.Imports extensions) file file

variable {tree : FileTree} {extensions : List String}

theorem Reaches.settled (hdir : tree.Holds tree.workingDir) {entry file : Path}
    (h : tree.Reaches extensions entry file) : tree.Settled file := by
  cases h with
  | refl => exact settled_canonicalOr hdir entry .empty
  | tail _ himports =>
    obtain ⟨program, -, specifier, -, -, hfile⟩ := himports
    exact settled_of_filePath? hdir hfile

/-- Where all is complete and nothing imports itself no descent fails. -/
theorem Buildable.not_fails {entry : Path} (h : tree.Buildable extensions entry)
    {underWay : List Path} {path : Path} {error : BundleError}
    (hfails : tree.Fails extensions underWay path error)
    (hreaches : tree.Reaches extensions entry path)
    (habove : ∀ other ∈ underWay, Relation.TransGen (tree.Imports extensions) other path) :
    False := by
  induction hfails with
  | @circular underWay path hunderWay => exact h.acyclic path hreaches (habove path hunderWay)
  | source hnew hsource =>
    obtain ⟨program, hprogram, -⟩ := h.complete _ hreaches
    exact absurd (hsource.symm.trans hprogram) nofun
  | unresolved hnew hprogram hspecifier hkind hfile =>
    obtain ⟨program, hprogram', hmeans⟩ := h.complete _ hreaches
    obtain rfl := Except.ok.inj (hprogram.symm.trans hprogram')
    have hsome := hmeans _ hspecifier hkind
    rw [hfile] at hsome
    exact absurd hsome nofun
  | imported hnew himports hfails ih =>
    refine ih (hreaches.tail himports) fun other hother => ?_
    rcases List.mem_append.mp hother with hother | hother
    · exact (habove other hother).tail himports
    · exact List.mem_singleton.mp hother ▸ .single himports

end FileTree

/-! ## Depth -/

namespace Building

variable {tree : FileTree}

theorem ext_run {α : Type} {first second : Building α}
    (h : ∀ session, first.run session = second.run session) : first = second := funext h

theorem throw_bind {α β : Type} (error : BundleError) (next : α → Building β) :
    (throw error >>= next) = throw error := rfl

theorem follow_congr (hdir : tree.Holds tree.workingDir) (path : Path)
    (first second : Path → Building ModuleId)
    (h : ∀ file, tree.Settled file → first file = second file) :
    follow tree path first = follow tree path second := by
  funext specifier
  refine ext_run fun session => ?_
  unfold follow
  cases specifierKind specifier with
  | bare => rfl
  | relative =>
    dsimp only
    rw [run_bind, run_bind, run_resolveFile, resolveSpecifier_eq]
    cases hfile : filePath? tree session.options.extensions path specifier with
    | none => rfl
    | some file =>
      dsimp only
      rw [h file (FileTree.settled_of_filePath? hdir hfile)]

/-- A depth of more than there are files left is never used up. -/
theorem load_succ (hdir : tree.Holds tree.workingDir) (depth : Nat) (underWay : List Path)
    (isEntry : Bool) (path : Path) (hopen : tree.Open underWay) (hsettled : tree.Settled path)
    (hdepth : tree.entries.length < depth + underWay.length) :
    load tree (depth + 1) underWay isEntry path = load tree depth underWay isEntry path := by
  induction depth generalizing underWay isEntry path with
  | zero => exact absurd hopen.length_le (by omega)
  | succ depth ih =>
    unfold load
    refine bind_congr fun session => ?_
    cases session.moduleAt? path with
    | some id => rfl
    | none =>
      dsimp only
      split
      · rw [throw_bind, throw_bind]
      rename_i hmem
      have hnew : path ∉ underWay := by simpa using hmem
      refine bind_congr fun _ => ?_
      unfold readSource
      cases hread : tree.read path with
      | error problem => exact (throw_bind _ _).trans (throw_bind _ _).symm
      | ok text =>
        have hfile := FileTree.isFile_of_read hread
        have hopen' := hopen.concat hnew (hsettled hfile) hfile
        refine bind_congr fun text => bind_congr fun program => ?_
        have hsame := follow_congr hdir path (load tree (depth + 1) (underWay ++ [path]) false)
          (load tree depth (underWay ++ [path]) false) fun file hfile =>
            ih _ false file hopen' hfile (by rw [List.length_append, List.length_singleton]; omega)
        exact congrArg (fun followAll => program.specifiers.mapM followAll >>= fun entries =>
          liftM (finish path isEntry text program entries)) hsame

theorem load_add (hdir : tree.Holds tree.workingDir) (entry : Path) (more : Nat) :
    load tree (tree.entries.length + 2 + more) [] true (canonicalOr tree entry .empty).1 =
      load tree (tree.entries.length + 2) [] true (canonicalOr tree entry .empty).1 := by
  induction more with
  | zero => rfl
  | succ more ih =>
    rw [← ih]
    exact load_succ hdir (tree.entries.length + 2 + more) [] true _ .nil
      (FileTree.settled_canonicalOr hdir entry .empty) (by rw [List.length_nil]; omega)

end Building

/-! ## Graphs that were built -/

namespace Session.Rooted

variable {session : Session} {tree : FileTree} {path : Path} {root : ModuleId}

theorem imports (h : session.Rooted tree path root) (id other : ModuleId)
    (hother : other ∈ (session.module id).moduleDependencies) :
    tree.Imports session.options.extensions (session.module id).path
      (session.module other).path := by
  by_cases hid : id < session.modules.length
  · rw [mem_moduleDependencies, Module.dependencyTargets] at hother
    obtain ⟨entry, hentry, htarget⟩ := List.mem_map.mp hother
    obtain ⟨program, hprogram, -, hnames⟩ := h.sourced id hid
    obtain ⟨-, hleads⟩ := h.led id hid entry hentry
    rw [htarget] at hleads
    obtain ⟨hkind, -, hfile⟩ := hleads
    exact ⟨program, hprogram, entry.1, hnames ▸ List.mem_map_of_mem hentry, hkind, hfile⟩
  · exact absurd hother
      (not_mem_dependencies_of_length_le session id (Nat.le_of_not_lt hid) other)

theorem leads (h : session.Rooted tree path root) (id : ModuleId)
    (hid : id < session.modules.length) {program : Program}
    (hprogram : tree.programAt (session.module id).path = .ok program) (specifier : String)
    (hspecifier : specifier ∈ program.specifiers) :
    ∃ target ∈ (session.module id).dependencyTargets,
      session.Leads tree (session.module id).path specifier target := by
  obtain ⟨found, hfound, -, hnames⟩ := h.sourced id hid
  obtain rfl := Except.ok.inj (hprogram.symm.trans hfound)
  rw [← hnames] at hspecifier
  obtain ⟨entry, hentry, rfl⟩ := List.mem_map.mp hspecifier
  exact ⟨entry.2, List.mem_map_of_mem hentry, (h.led id hid entry hentry).2⟩

theorem exists_dependency (h : session.Rooted tree path root) (id : ModuleId)
    (hid : id < session.modules.length) (file : Path)
    (himports : tree.Imports session.options.extensions (session.module id).path file) :
    ∃ other ∈ (session.module id).moduleDependencies, other < session.modules.length ∧
      (session.module other).path = file := by
  obtain ⟨program, hprogram, specifier, hspecifier, hkind, hfile⟩ := himports
  obtain ⟨target, htarget, hleads⟩ := h.leads id hid hprogram specifier hspecifier
  cases target with
  | external external => exact absurd (hkind.symm.trans hleads.1) nofun
  | module other =>
    obtain ⟨-, hother, hpath⟩ := hleads
    exact ⟨other, (mem_moduleDependencies _ _).mpr htarget, hother,
      (Option.some.inj (hfile.symm.trans hpath)).symm⟩

theorem exists_of_reaches (h : session.Rooted tree path root) (file : Path)
    (hreaches : Relation.ReflTransGen (tree.Imports session.options.extensions) path file) :
    ∃ id < session.modules.length, (session.module id).path = file := by
  induction hreaches with
  | refl => exact ⟨root, h.valid, h.path_eq⟩
  | tail _ himports ih =>
    obtain ⟨id, hid, rfl⟩ := ih
    obtain ⟨other, -, hother, hpath⟩ := h.exists_dependency id hid _ himports
    exact ⟨other, hother, hpath⟩

theorem reaches (h : session.Rooted tree path root) (id : ModuleId)
    (hid : id < session.modules.length) :
    Relation.ReflTransGen (tree.Imports session.options.extensions) path
      (session.module id).path := by
  rw [← h.path_eq]
  exact Relation.ReflTransGen.lift (fun id => (session.module id).path) h.imports _ _
    (h.reached id hid)

theorem exists_lt (h : session.Rooted tree path root) (hsound : session.Sound) (id : ModuleId)
    (hid : id < session.modules.length) (file : Path)
    (hbelow : Relation.TransGen (tree.Imports session.options.extensions)
      (session.module id).path file) :
    ∃ other < session.modules.length, other < id ∧ (session.module other).path = file := by
  induction hbelow with
  | single himports =>
    obtain ⟨other, hdependency, hother, hpath⟩ := h.exists_dependency id hid _ himports
    exact ⟨other, hother, hsound.dependencies_lt id other hdependency, hpath⟩
  | tail _ himports ih =>
    obtain ⟨mid, hmid, hlt, rfl⟩ := ih
    obtain ⟨other, hdependency, hother, hpath⟩ := h.exists_dependency mid hmid _ himports
    exact ⟨other, hother, Nat.lt_trans (hsound.dependencies_lt mid other hdependency) hlt, hpath⟩

end Session.Rooted

/-- The graph of the files below an entry: each of them is one module, however it is spelled, and
their bare specifiers are the externals. -/
structure Session.Graphs (session : Session) (tree : FileTree) (entry : Path) : Prop where
  stored : ∀ file, (∃ id < session.modules.length, (session.module id).path = file) ↔
    tree.Reaches session.options.extensions entry file
  distinct : session.PathsDistinct
  canonical : ∀ id < session.modules.length,
    tree.canonical (session.module id).path = .ok (session.module id).path
  spelled : ∀ id < session.modules.length, ∀ spelling,
    tree.canonical spelling = .ok (session.module id).path ↔
      tree.find spelling = tree.find (session.module id).path
  apart : ∀ first < session.modules.length, ∀ second < session.modules.length,
    tree.find (session.module first).path = tree.find (session.module second).path →
      first = second
  outside : ∀ specifier,
    (∃ id < session.externals.length, (session.external id).specifier = specifier) ↔
      ∃ file program, tree.Reaches session.options.extensions entry file ∧
        tree.programAt file = .ok program ∧ specifier ∈ program.specifiers ∧
          specifierKind specifier = .bare
  named : session.SpecifiersDistinct

namespace Session.Rooted

variable {session : Session} {tree : FileTree} {entry : Path} {root : ModuleId}

theorem buildable (h : session.Rooted tree (canonicalOr tree entry .empty).1 root)
    (hsound : session.Sound) : tree.Buildable session.options.extensions entry := by
  constructor
  · intro file hreaches
    obtain ⟨id, hid, rfl⟩ := h.exists_of_reaches file hreaches
    obtain ⟨program, hprogram, -⟩ := h.sourced id hid
    refine ⟨program, hprogram, fun specifier hspecifier hkind => ?_⟩
    obtain ⟨target, -, hleads⟩ := h.leads id hid hprogram specifier hspecifier
    cases target with
    | external external => exact absurd (hkind.symm.trans hleads.1) nofun
    | module other => exact Option.isSome_iff_exists.mpr ⟨_, hleads.2.2⟩
  · intro file hreaches hbelow
    obtain ⟨id, hid, rfl⟩ := h.exists_of_reaches file hreaches
    obtain ⟨other, hother, hlt, hpath⟩ := h.exists_lt hsound id hid _ hbelow
    exact Nat.ne_of_lt hlt (h.distinct other hother id hid hpath)

theorem graphs (hdir : tree.Holds tree.workingDir)
    (h : session.Rooted tree (canonicalOr tree entry .empty).1 root) :
    session.Graphs tree entry := by
  have hcanonical : ∀ id < session.modules.length,
      tree.canonical (session.module id).path = .ok (session.module id).path := by
    intro id hid
    obtain ⟨program, hprogram, -⟩ := h.sourced id hid
    exact FileTree.Reaches.settled hdir (h.reaches id hid) (FileTree.isFile_of_programAt hprogram)
  have hspelled : ∀ id < session.modules.length, ∀ spelling,
      tree.canonical spelling = .ok (session.module id).path ↔
        tree.find spelling = tree.find (session.module id).path := by
    intro id hid spelling
    obtain ⟨place, hplace, -⟩ := FileTree.canonical_eq_ok_iff.mp (hcanonical id hid)
    rw [← hcanonical id hid, hplace]
    cases hfind : tree.find spelling with
    | ok place' => rw [FileTree.canonical_eq_iff hdir hfind hplace, Except.ok.injEq]
    | error problem =>
      rw [hcanonical id hid, FileTree.canonical_eq_ok_iff, hfind]
      simp
  constructor
  · intro file
    constructor
    · rintro ⟨id, hid, rfl⟩
      exact h.reaches id hid
    · exact h.exists_of_reaches file
  · exact h.distinct
  · exact hcanonical
  · exact hspelled
  · intro first hfirst second hsecond hsame
    apply h.distinct first hfirst second hsecond
    have hpaths := (hspelled second hsecond _).mpr hsame
    exact Except.ok.inj ((hcanonical first hfirst).symm.trans hpaths)
  · intro specifier
    constructor
    · rintro ⟨external, hexternal, rfl⟩
      obtain ⟨id, hid, hdepends⟩ := h.asked external hexternal
      obtain ⟨entry, hentry, htarget⟩ := List.mem_map.mp hdepends
      obtain ⟨program, hprogram, -, hnames⟩ := h.sourced id hid
      obtain ⟨-, hleads⟩ := h.led id hid entry hentry
      rw [htarget] at hleads
      obtain ⟨hkind, -, hspecifier⟩ := hleads
      rw [hspecifier]
      exact ⟨_, program, h.reaches id hid, hprogram, hnames ▸ List.mem_map_of_mem hentry, hkind⟩
    · rintro ⟨file, program, hreaches, hprogram, hspecifier, hkind⟩
      obtain ⟨id, hid, rfl⟩ := h.exists_of_reaches file hreaches
      obtain ⟨target, -, hleads⟩ := h.leads id hid hprogram specifier hspecifier
      cases target with
      | module other => exact absurd (hkind.symm.trans hleads.1) nofun
      | external external => exact ⟨external, hleads.2⟩
  · exact h.named

end Session.Rooted

/-- A build comes to an end by itself. It succeeds exactly if the files below the entry can be put
together, and then their graph is what it leaves. -/
theorem build_complete (tree : FileTree) (hdir : tree.Holds tree.workingDir) (entry : Path)
    (options : BundleOptions) :
    let outcome := (Building.build tree entry).run (.new options)
    (∀ more, Building.load tree (tree.entries.length + 2 + more) [] true
        (canonicalOr tree entry .empty).1 =
      Building.load tree (tree.entries.length + 2) [] true (canonicalOr tree entry .empty).1) ∧
    ((∃ root, outcome.1 = .ok root) ↔ tree.Buildable options.extensions entry) ∧
    ((∃ root, outcome.1 = .ok root) →
      outcome.2.options = options ∧ outcome.2.Graphs tree entry) := by
  intro outcome
  have hsound := Session.sound_new options
  have hkept : outcome.2.Sound := (Building.keeps_build tree entry _ hsound trivial).2.1
  have hoptions : outcome.2.options = options :=
    (Building.blind_build tree entry).options_eq (.new options)
  have hrooted : ∀ root, outcome.1 = .ok root →
      outcome.2.Rooted tree (canonicalOr tree entry .empty).1 root := fun root hroot =>
    Building.rooted_build tree entry _ hsound rfl rfl root outcome.2 (Prod.ext hroot rfl)
  refine ⟨Building.load_add hdir entry, ⟨?_, fun hbuildable => ?_⟩, ?_⟩
  · rintro ⟨root, hroot⟩
    exact hoptions ▸ (hrooted root hroot).buildable hkept
  · cases hresult : outcome.1 with
    | ok root => exact ⟨root, rfl⟩
    | error error =>
      have hfailed := Building.failed_build hdir entry hsound (Prod.ext hresult rfl)
      exact (hbuildable.not_fails hfailed.fails .refl (by simp)).elim
  · rintro ⟨root, hroot⟩
    exact ⟨hoptions, (hrooted root hroot).graphs hdir⟩

/-- An entry that names one file in two ways, in a directory that is not the root. -/
def respelled : FileTree :=
  ⟨[(["p"], .directory), (["p", "i"], .file "import'./b';import'../p/b.js'".toUTF8),
    (["p", "b.js"], .file "import'q'".toUTF8)], ["p"]⟩

set_option maxRecDepth 100000 in
theorem build_complete_respelled :
    let outcome := (Building.build respelled "i").run (.new .standard)
    respelled.Holds respelled.workingDir ∧ outcome.1 = .ok 1 ∧
      outcome.2.modules.length = 2 ∧ outcome.2.externals.length = 1 ∧
      respelled.Buildable BundleOptions.standard.extensions "i" ∧
      outcome.2.Graphs respelled "i" := by
  intro outcome
  have hdir : respelled.Holds respelled.workingDir :=
    FileTree.holds_nil.below (by decide +kernel : FileTree.IsName "p") rfl rfl
  have hrun : outcome.1 = .ok 1 ∧ outcome.2.modules.length = 2 ∧
      outcome.2.externals.length = 1 := by
    decide +kernel
  obtain ⟨-, hbuildable, hgraphs⟩ := build_complete respelled hdir "i" .standard
  exact ⟨hdir, hrun.1, hrun.2.1, hrun.2.2, hbuildable.mp ⟨1, hrun.1⟩, (hgraphs ⟨1, hrun.1⟩).2⟩

end ScopeHoist
