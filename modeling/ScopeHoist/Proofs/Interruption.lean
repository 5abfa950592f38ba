import ScopeHoist.Proofs.Finishing
import ScopeHoist.Proofs.Integrity

/-!
# What a build adds

A build adds to a session and takes nothing back, whether it succeeds or fails. Each module that it
adds is complete. When it fails, the files under way lead from the entry to the one that the failure
is about, each importing the next, and none of them is stored.
-/

set_option autoImplicit false

namespace ScopeHoist

/-! ## Where a descent halts -/

/-- Why the last of the files under way cannot be stored: it imports one of them, it has no program,
or it has a specifier that means no file. -/
inductive FileTree.Halts (tree : FileTree) (extensions : List String) :
    List Path → BundleError → Prop
  | circular {chain : List Path} {path : Path}
      (himports : (chain ++ [path]).IsChain (tree.Imports extensions)) (hunderWay : path ∈ chain) :
    tree.Halts extensions chain (.circular (chain ++ [path]))
  | source {front : List Path} {last : Path} {error : BundleError}
      (hsource : tree.programAt last = .error error) : tree.Halts extensions (front ++ [last]) error
  | unresolved {front : List Path} {last : Path} {program : Program} {specifier : String}
      (hprogram : tree.programAt last = .ok program) (hspecifier : specifier ∈ program.specifiers)
      (hkind : specifierKind specifier = .relative)
      (hfile : filePath? tree extensions last specifier = none) :
    tree.Halts extensions (front ++ [last]) (.moduleNotFound last specifier)

/-- The files that were under way when a build failed: different ones, each importing the next. None
of them is stored. -/
structure Session.Halted (after : Session) (tree : FileTree) (extensions : List String)
    (chain : List Path) (error : BundleError) : Prop where
  nodup : chain.Nodup
  imports : chain.IsChain (tree.Imports extensions)
  halts : tree.Halts extensions chain error
  lacks : after.Lacks chain

namespace Building

open Session

/-- A session in the middle of a build: nothing is stored of some files under way. -/
structure Amid (extensions : List String) (underWay : List Path) (session : Session) : Prop where
  coherent : session.Coherent
  lacks : session.Lacks underWay
  extensions : session.options.extensions = extensions

theorem Amid.proceeds {extensions : List String} {underWay : List Path} {before after : Session}
    (h : Amid extensions underWay before) (hproceeds : before.Proceeds underWay after) :
    Amid extensions underWay after :=
  ⟨hproceeds.coherent, hproceeds.lacks, by rw [hproceeds.carries.options]; exact h.extensions⟩

theorem Amid.aside {extensions : List String} {underWay : List Path} {session : Session}
    (h : Amid extensions underWay session) (journal : Journal) (comments : Comments)
    (nextOffset : Nat) :
    Amid extensions underWay { session with journal, comments, nextOffset } :=
  ⟨h.coherent.of_same rfl rfl rfl rfl rfl, h.lacks, h.extensions⟩

def HaltsBeyond (tree : FileTree) (extensions : List String) (underWay : List Path)
    (error : BundleError) (after : Session) : Prop :=
  ∃ chain, underWay <+: chain ∧ after.Halted tree extensions chain error

variable {tree : FileTree} {extensions : List String} {underWay : List Path} {path : Path}
  {specifier : String}

theorem halts_follow (hnodup : (underWay ++ [path]).Nodup)
    (himports : (underWay ++ [path]).IsChain (tree.Imports extensions)) (program : Program)
    (hprogram : tree.programAt path = .ok program) (loadFile : Path → Building ModuleId)
    (hload : ∀ file mid, Amid extensions (underWay ++ [path]) mid →
      filePath? tree extensions path specifier = some file →
        (underWay ++ [path] ++ [file]).IsChain (tree.Imports extensions) →
          Meets (fun session => session = mid) (loadFile file)
            (fun id => mid.Arrives (underWay ++ [path]) false id)
            (HaltsBeyond tree extensions (underWay ++ [path])))
    (hspecifier : specifier ∈ program.specifiers) :
    Meets (Amid extensions (underWay ++ [path])) (follow tree path loadFile specifier)
      (fun _ => Amid extensions (underWay ++ [path]))
      (HaltsBeyond tree extensions (underWay ++ [path])) := by
  refine meets_entry fun start hstart => ?_
  apply meets_follow
  case hunresolved =>
    intro journal hkind hfile
    rw [hstart.extensions] at hfile
    exact ⟨_, List.prefix_rfl, hnodup, himports, .unresolved hprogram hspecifier hkind hfile,
      hstart.lacks⟩
  case hfile =>
    intro journal file hkind hfile
    rw [hstart.extensions] at hfile
    have haside := hstart.aside journal start.comments start.nextOffset
    have hchain : (underWay ++ [path] ++ [file]).IsChain (tree.Imports extensions) := by
      refine List.isChain_append.mpr ⟨himports, .singleton file, ?_⟩
      simpa using ⟨program, hprogram, specifier, hspecifier, hkind, hfile⟩
    exact meets_weaken (hload file _ haside hfile hchain) (fun _ heq => heq)
      (fun id session h => haside.proceeds h.proceeds) fun _ _ h => h
  case hexternal =>
    intro _
    have hbegin : start.Proceeds (underWay ++ [path]) start := .start hstart.coherent hstart.lacks
    exact hstart.proceeds ((meets_intern specifier start hbegin).1 _ rfl).1

/-- When loading a file fails, none of the files under way at that time is stored. -/
theorem halts_load (hdir : tree.Holds tree.workingDir) (depth : Nat) (isEntry : Bool)
    {before : Session} (hbefore : Amid extensions underWay before) (hopen : tree.Open underWay)
    (hsettled : tree.Settled path) (hdepth : tree.entries.length < depth + underWay.length)
    (himports : (underWay ++ [path]).IsChain (tree.Imports extensions)) :
    Meets (fun session => session = before) (load tree depth underWay isEntry path)
      (fun _ _ => True) fun error after => HaltsBeyond tree extensions underWay error after ∧
        (path ∉ underWay → HaltsBeyond tree extensions (underWay ++ [path]) error after) := by
  induction depth generalizing underWay isEntry path before with
  | zero => exact absurd hopen.length_le (by omega)
  | succ depth ih =>
    -- once the file itself is under way, failures are beyond it
    have hbeyond : ∀ error after, HaltsBeyond tree extensions (underWay ++ [path]) error after →
        HaltsBeyond tree extensions underWay error after ∧
          (path ∉ underWay → HaltsBeyond tree extensions (underWay ++ [path]) error after) :=
      fun error after h => ⟨h.imp fun chain h => ⟨(List.prefix_append _ _).trans h.1, h.2⟩,
        fun _ => h⟩
    have hnodup : path ∉ underWay → (underWay ++ [path]).Nodup := fun hnew =>
      List.concat_eq_append ▸ hopen.nodup.concat hnew
    apply meets_load_succ
    case hreused => exact fun _ _ _ => trivial
    case hcircular =>
      intro habsent hunderWay
      exact ⟨⟨underWay, List.prefix_rfl, hopen.nodup, (List.isChain_append.mp himports).1,
        .circular himports hunderWay, hbefore.lacks⟩, fun hnew => absurd hunderWay hnew⟩
    case hunread =>
      intro journal error habsent hnew hsource
      exact hbeyond error _ ⟨_, List.prefix_rfl, hnodup hnew, himports, .source hsource,
        hbefore.lacks.concat habsent⟩
    case hfollowed =>
      intro journal comments nextOffset offset text program habsent hnew hsource
      have hfile := FileTree.isFile_of_programAt hsource
      have hopen' := hopen.concat hnew (hsettled hfile) hfile
      have hamid : Amid extensions (underWay ++ [path]) before :=
        ⟨hbefore.coherent, hbefore.lacks.concat habsent, hbefore.extensions⟩
      have hload : ∀ specifier file mid, Amid extensions (underWay ++ [path]) mid →
          filePath? tree extensions path specifier = some file →
            (underWay ++ [path] ++ [file]).IsChain (tree.Imports extensions) →
              Meets (fun session => session = mid) (load tree depth (underWay ++ [path]) false file)
                (fun id => mid.Arrives (underWay ++ [path]) false id)
                (HaltsBeyond tree extensions (underWay ++ [path])) := by
        intro specifier file mid hmid hfile hchain
        exact meets_weaken (meets_both (meets_load tree depth false file hmid.coherent hmid.lacks)
          (ih false hmid hopen' (FileTree.settled_of_filePath? hdir hfile)
            (by rw [List.length_append, List.length_singleton]; omega) hchain))
          (fun _ heq => heq) (fun _ _ h => h.1) fun _ _ h => h.2.1
      have hfollowed := meets_mapM (fun _ => Amid extensions (underWay ++ [path]))
        (program.moved offset).resolve.specifiers fun specifier hspecifier _ =>
          halts_follow (hnodup hnew) himports program hsource _ (hload specifier)
            (program.specifiers_placed offset ▸ hspecifier)
      exact meets_weaken (meets_bind _ hfollowed fun entries => meets_lift fun _ _ => trivial)
        (fun _ heq => heq ▸ hamid.aside journal comments nextOffset) (fun _ _ h => h) hbeyond

end Building

/-! ## Builds on top of builds -/

/-- A stored module that is complete: its specifiers are those of a file, lead to targets that were
there before it, and its tables hold what its declarations, imports and exports amount to. -/
structure Session.Analyzed (session : Session) (tree : FileTree)
    (first : ModuleId → Table RecordId) (id : ModuleId) : Prop where
  sourced : session.Sourced tree id
  led : session.Led tree id
  dependencies : ∀ target ∈ (session.module id).dependencyTargets, session.Valid target ∧
    ∀ dependency, target = .module dependency → dependency < id
  sound : session.SoundModule (session.module id)
  completed : session.Completed first (session.module id)

theorem Session.FromBuilds.fromPhases {options : BundleOptions} {session : Session}
    (h : session.FromBuilds options) : session.FromPhases options := by
  induction h with
  | new => exact .new
  | build h tree hdir entry ih => exact .build ih tree entry

theorem Session.FromBuilds.wired {options : BundleOptions} {session : Session}
    (h : session.FromBuilds options) : ∃ first, session.Wired first := by
  induction h with
  | new => exact ⟨fun _ => [], wired_new _ options⟩
  | build h tree hdir entry ih =>
    exact (Building.weaves_build tree entry).wired _ h.sound ih trivial

namespace Building

theorem loads_build (tree : FileTree) (hdir : tree.Holds tree.workingDir) (entry : Path)
    (before : Session) (hsound : before.Sound) :
    ∃ targets, before.Loads tree [] targets ((build tree entry).run before).2 := by
  cases houtcome : ((build tree entry).run before).1 with
  | ok id =>
    exact ⟨_, (loaded_build tree entry before hsound id _ (Prod.ext houtcome rfl)).1.loads⟩
  | error error => exact (failed_build hdir entry hsound (Prod.ext houtcome rfl)).loads

theorem halts_build (tree : FileTree) (hdir : tree.Holds tree.workingDir) (entry : Path)
    (before : Session) (hcoherent : before.Coherent) (error : BundleError)
    (herror : ((build tree entry).run before).1 = .error error) :
    ∃ chain, [(canonicalOr tree entry .empty).1] <+: chain ∧
      ((build tree entry).run before).2.Halted tree before.options.extensions chain error := by
  obtain ⟨journal, remark, hbuild⟩ := run_build tree entry before
  have hbefore : Amid before.options.extensions [] { before with journal } :=
    ⟨hcoherent.of_same rfl rfl rfl rfl rfl, fun _ _ => List.not_mem_nil, rfl⟩
  have hhalts := (halts_load hdir (tree.entries.length + 2) true hbefore .nil
    (FileTree.settled_canonicalOr hdir entry .empty) (by simp) (.singleton _) _ rfl).2
  rw [hbuild] at herror ⊢
  generalize (load tree (tree.entries.length + 2) [] true (canonicalOr tree entry .empty).1).run
    { before with journal } = outcome at *
  obtain ⟨result, after⟩ := outcome
  cases result with
  | ok id => exact absurd herror nofun
  | error problem =>
    obtain rfl := Except.error.inj herror
    exact (hhalts problem rfl).2 List.not_mem_nil

end Building

/-- A build only adds to a session, also if it fails: what was stored stays as it is but for new
entries of tables, new modules are complete, and nothing that was under way at a failure is
stored. -/
theorem build_only_extends (tree : FileTree) (hdir : tree.Holds tree.workingDir) (entry : Path)
    (options : BundleOptions) (before after : Session) (h : before.FromBuilds options)
    (result : Except BundleError ModuleId)
    (hrun : (Building.build tree entry).run before = (result, after)) :
    before.Carries after ∧
      (∃ first, ∀ id, before.modules.length ≤ id → id < after.modules.length →
        after.Analyzed tree first id) ∧
      ∀ error, result = .error error → after.entry = before.entry ∧
        ∃ chain, [(canonicalOr tree entry .empty).1] <+: chain ∧
          after.Halted tree options.extensions chain error := by
  have hcoherent := h.fromPhases.coherent
  have hafter := hcoherent.build tree entry
  have hsound := (Building.keeps_build tree entry before h.sound trivial).2.1
  obtain ⟨first, hwired⟩ :=
    (Building.weaves_build tree entry).wired before h.sound h.wired trivial
  obtain ⟨targets, hloads⟩ := Building.loads_build tree hdir entry before h.sound
  obtain ⟨hok, hfail⟩ := Building.meets_build tree entry hcoherent before rfl
  have hhalts := Building.halts_build tree hdir entry before hcoherent
  rw [hrun] at hafter hsound hwired hloads hok hfail hhalts
  rw [h.options_eq] at hhalts
  refine ⟨?_, ⟨first, fun id hnew hid => ?_⟩,
    fun error herror => ⟨(hfail error herror).entry, hhalts error herror⟩⟩
  · cases result with
    | ok id => exact (hok id rfl).carries
    | error error => exact (hfail error rfl).carries
  · exact ⟨hloads.sourced id hnew hid, hloads.led id hnew hid, hafter.dependencies id hid,
      hsound.modules id hid, hwired.completed id hid⟩

/-- An entry, and a second one that asks for a file that is not there after one that makes use of
what the first one brought in. -/
def cutShort : FileTree :=
  ⟨[(["i"], .file "import{b}from'./a.js';b".toUTF8), (["a.js"], .file "export let b=1".toUTF8),
    (["k"], .file "import'./x';import'./n'".toUTF8),
    (["x"], .file "export*as q from'./a.js'".toUTF8)], []⟩

def cutShortSession : Session := ((Building.build cutShort "i").run (.new .standard)).2

set_option maxRecDepth 100000 in
theorem build_only_extends_cutShort :
    cutShort.Holds cutShort.workingDir ∧ cutShortSession.FromBuilds .standard ∧
      cutShortSession.modules.length = 2 ∧
      ((Building.build cutShort "k").run cutShortSession).1 =
        .error (.moduleNotFound "/k" "./n") ∧
      ((Building.build cutShort "k").run cutShortSession).2.modules.length = 3 ∧
      cutShortSession.Carries ((Building.build cutShort "k").run cutShortSession).2 ∧
      ∃ chain, [(canonicalOr cutShort "k" .empty).1] <+: chain ∧
        ((Building.build cutShort "k").run cutShortSession).2.Halted cutShort
          BundleOptions.standard.extensions chain (.moduleNotFound "/k" "./n") :=
  have hdir := FileTree.holds_nil
  have hsession := .build .new cutShort hdir "i"
  have herror : ((Building.build cutShort "k").run cutShortSession).1 =
      .error (.moduleNotFound "/k" "./n") := by decide +kernel
  have hextends := build_only_extends cutShort hdir "k" .standard cutShortSession
    ((Building.build cutShort "k").run cutShortSession).2 hsession
    (.error (.moduleNotFound "/k" "./n")) (Prod.ext herror rfl)
  ⟨hdir, hsession, by decide +kernel, herror, by decide +kernel, hextends.1,
    (hextends.2.2 (.moduleNotFound "/k" "./n") rfl).2⟩

end ScopeHoist
