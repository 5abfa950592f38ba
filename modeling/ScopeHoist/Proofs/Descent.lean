import Mathlib.Data.List.Chain
import ScopeHoist.Proofs.Reach

/-!
# Failed descents

Loading a file fails because the file is under way already, has no program or a specifier without a
file, or because a file that it imports cannot be loaded. The depth is never used up, since files
under way are different files of the tree. What was stored before the failure stays, but no file of
a reported circle is among it, and the circle is one of imports that starts at the entry.
-/

set_option autoImplicit false

namespace ScopeHoist

/-! ## Reasons to fail -/

/-- Why a file cannot be loaded while others are under way. -/
inductive FileTree.Fails (tree : FileTree) (extensions : List String) :
    List Path → Path → BundleError → Prop
  | circular {underWay : List Path} {path : Path} (hunderWay : path ∈ underWay) :
    tree.Fails extensions underWay path (.circular (underWay ++ [path]))
  | source {underWay : List Path} {path : Path} {error : BundleError} (hnew : path ∉ underWay)
      (hsource : tree.programAt path = .error error) : tree.Fails extensions underWay path error
  | unresolved {underWay : List Path} {path : Path} {program : Program} {specifier : String}
      (hnew : path ∉ underWay) (hprogram : tree.programAt path = .ok program)
      (hspecifier : specifier ∈ program.specifiers)
      (hkind : specifierKind specifier = .relative)
      (hfile : filePath? tree extensions path specifier = none) :
    tree.Fails extensions underWay path (.moduleNotFound path specifier)
  | imported {underWay : List Path} {path file : Path} {error : BundleError}
      (hnew : path ∉ underWay)
      (himports : tree.Imports extensions path file)
      (hfails : tree.Fails extensions (underWay ++ [path]) file error) :
    tree.Fails extensions underWay path error

namespace FileTree

variable {tree : FileTree} {extensions : List String}

theorem programAt_ne_circular (path : Path) (chain : List Path) :
    tree.programAt path ≠ .error (.circular chain) := by
  unfold programAt
  split
  · exact nofun
  · split <;> exact nofun

/-- Files that may be under way together: different ones, by their canonical paths. -/
structure Open (tree : FileTree) (underWay : List Path) : Prop where
  nodup : underWay.Nodup
  canonical : ∀ path ∈ underWay, tree.canonical path = .ok path ∧ tree.isFile path = true

theorem Open.nil : tree.Open [] := ⟨List.nodup_nil, by simp⟩

theorem Open.length_le {underWay : List Path} (h : tree.Open underWay) :
    underWay.length ≤ tree.entries.length :=
  length_le_of_isFile underWay h.nodup h.canonical

theorem Open.concat {underWay : List Path} (h : tree.Open underWay) {path : Path}
    (hnew : path ∉ underWay) (hcanonical : tree.canonical path = .ok path)
    (hfile : tree.isFile path = true) : tree.Open (underWay ++ [path]) := by
  constructor
  · rw [← List.concat_eq_append]
    exact h.nodup.concat hnew
  · intro other hother
    rcases List.mem_append.mp hother with hother | hother
    · exact h.canonical other hother
    · obtain rfl := List.mem_singleton.mp hother
      exact ⟨hcanonical, hfile⟩

def Settled (tree : FileTree) (path : Path) : Prop :=
  tree.isFile path = true → tree.canonical path = .ok path

theorem settled_canonicalOr (hdir : tree.Holds tree.workingDir) (path : Path) (journal : Journal) :
    tree.Settled (canonicalOr tree path journal).1 := by
  intro hfile
  unfold canonicalOr at hfile ⊢
  cases hcanonical : tree.canonical path with
  | ok found => exact canonical_of_canonical hdir hcanonical
  | error problem =>
    rw [hcanonical] at hfile
    obtain ⟨place, hfind, -⟩ := find_of_isFile hfile
    rw [canonical_eq_ok_iff.mpr ⟨place, hfind, rfl⟩] at hcanonical
    exact absurd hcanonical nofun

theorem settled_of_filePath? (hdir : tree.Holds tree.workingDir) {importer file : Path}
    {specifier : String} (h : filePath? tree extensions importer specifier = some file) :
    tree.Settled file := by
  obtain ⟨found, -, rfl⟩ := Option.map_eq_some_iff.mp h
  exact settled_canonicalOr hdir found.1 _

theorem canonical_eq_of_isFile (path : Path) (journal : Journal)
    (h : tree.isFile (canonicalOr tree path journal).1 = true) :
    tree.canonical path = .ok (canonicalOr tree path journal).1 := by
  unfold canonicalOr at h ⊢
  cases hcanonical : tree.canonical path with
  | ok found => rfl
  | error problem =>
    rw [hcanonical] at h
    obtain ⟨place, hfind, -⟩ := find_of_isFile h
    rw [canonical_eq_ok_iff.mpr ⟨place, hfind, rfl⟩] at hcanonical
    exact absurd hcanonical nofun

/-- Files that import each other one after the other, the last one among the others. -/
structure Circle (tree : FileTree) (extensions : List String) (chain : List Path) : Prop where
  imports : chain.IsChain (tree.Imports extensions)
  closes : ∃ front last, chain = front ++ [last] ∧ front.Nodup ∧ front.count last = 1

theorem Circle.two_le {chain : List Path} (h : tree.Circle extensions chain) :
    2 ≤ chain.length := by
  obtain ⟨front, last, rfl, -, hcount⟩ := h.closes
  have hmem : last ∈ front := List.count_pos_iff.mp (by omega)
  have hpos := List.length_pos_of_mem hmem
  rw [List.length_append, List.length_singleton]
  omega

/-- A descent that comes upon a file under way tells of the files under way and of those it has come
through since. -/
theorem Fails.circle {underWay : List Path} {path : Path} {error : BundleError}
    (h : tree.Fails extensions underWay path error) (hnodup : underWay.Nodup)
    (himports : (underWay ++ [path]).IsChain (tree.Imports extensions)) (chain : List Path)
    (herror : error = .circular chain) :
    underWay ++ [path] <+: chain ∧ tree.Circle extensions chain := by
  induction h with
  | circular hunderWay =>
    obtain rfl := BundleError.circular.inj herror
    exact ⟨List.prefix_rfl, himports, _, _, rfl, hnodup, List.count_eq_one_of_mem hnodup hunderWay⟩
  | source hnew hsource => exact absurd (herror ▸ hsource) (programAt_ne_circular _ chain)
  | unresolved => exact absurd herror nofun
  | @imported underWay path file error hnew hfile hfails ih =>
    obtain ⟨hfront, hcircle⟩ := ih (List.concat_eq_append ▸ hnodup.concat hnew)
      (List.isChain_append.mpr ⟨himports, .singleton file, by simpa using hfile⟩) herror
    exact ⟨(List.prefix_append _ _).trans hfront, hcircle⟩

end FileTree

/-! ## Runs that fail -/

def Session.Lacks (session : Session) (paths : List Path) : Prop :=
  ∀ id, id < session.modules.length → (session.module id).path ∉ paths

theorem Session.Loads.lacks {tree : FileTree} {underWay : List Path} {targets : List Target}
    {before after : Session} (h : before.Loads tree underWay targets after)
    (hlacks : before.Lacks underWay) : after.Lacks underWay := by
  intro id hid
  by_cases hold : id < before.modules.length
  · rw [(h.grows.module id hold).path_eq]
    exact hlacks id hold
  · exact h.apart id (Nat.le_of_not_lt hold) hid

theorem Session.Lacks.concat {session : Session} {underWay : List Path} {path : Path}
    (h : session.Lacks underWay) (habsent : session.moduleAt? path = none) :
    session.Lacks (underWay ++ [path]) := by
  intro id hid hmem
  rcases List.mem_append.mp hmem with hmem | hmem
  · exact h id hid hmem
  · exact Building.path_ne_of_moduleAt?_eq_none session path habsent id hid
      (List.mem_singleton.mp hmem)

namespace Building

theorem run_mapM_error {α β : Type} {follow : α → Building β} {values : List α}
    {before after : Session} {error : BundleError}
    (h : (values.mapM follow).run before = (.error error, after)) :
    ∃ front value back results mid, values = front ++ value :: back ∧
      (front.mapM follow).run before = (.ok results, mid) ∧
        (follow value).run mid = (.error error, after) := by
  induction values generalizing before with
  | nil => exact absurd (congrArg Prod.fst h) nofun
  | cons first rest ih =>
    rw [List.mapM_cons] at h
    rcases run_bind_error h with hfirst | ⟨result, mid, hfirst, h⟩
    · exact ⟨[], first, rest, [], before, rfl, rfl, hfirst⟩
    rcases run_bind_error h with hrest | ⟨results, last, -, hpure⟩
    · obtain ⟨front, value, back, results, found, rfl, hfront, hvalue⟩ := ih hrest
      refine ⟨first :: front, value, back, result :: results, found, rfl, ?_, hvalue⟩
      rw [List.mapM_cons, run_bind, hfirst]
      dsimp only
      rw [run_bind, hfront]
      rfl
    · exact absurd (congrArg Prod.fst hpure) nofun

/-- What is known when a file could not be loaded. -/
structure FailedAs (tree : FileTree) (underWay : List Path) (path : Path) (before : Session)
    (error : BundleError) (after : Session) : Prop where
  sound : after.Sound
  fails : tree.Fails before.options.extensions underWay path error
  loads : ∃ targets, before.Loads tree underWay targets after
  lacks : ∀ chain, error = .circular chain → after.Lacks chain

variable {tree : FileTree} {underWay : List Path} {path : Path} {before after : Session}
  {error : BundleError}

theorem FailedAs.below {file : Path} {mid : Session} {targets : List Target}
    (h : FailedAs tree (underWay ++ [path]) file mid error after)
    (hloads : before.Loads tree (underWay ++ [path]) targets mid) (hnew : path ∉ underWay)
    (himports : tree.Imports before.options.extensions path file) :
    FailedAs tree underWay path before error after where
  sound := h.sound
  fails := .imported hnew himports (hloads.options ▸ h.fails)
  loads := by
    obtain ⟨others, hothers⟩ := h.loads
    exact ⟨targets ++ others, (hloads.trans hothers).mono (List.subset_append_left _ _)⟩
  lacks := h.lacks

theorem failedAs_follow {program : Program} {specifier : String} {targets : List Target}
    {mid : Session} (loadFile : Path → Building ModuleId)
    (hload : ∀ file session, session.Sound → session.Lacks (underWay ++ [path]) →
      filePath? tree before.options.extensions path specifier = some file →
      ∀ error after, (loadFile file).run session = (.error error, after) →
        FailedAs tree (underWay ++ [path]) file session error after)
    (hsound : mid.Sound) (hloads : before.Loads tree (underWay ++ [path]) targets mid)
    (hlacks : mid.Lacks (underWay ++ [path])) (hnew : path ∉ underWay)
    (hprogram : tree.programAt path = .ok program) (hspecifier : specifier ∈ program.specifiers)
    (hrun : (follow tree path loadFile specifier).run mid = (.error error, after)) :
    FailedAs tree underWay path before error after := by
  have hcases := follow_cases tree path loadFile specifier mid
  rw [hrun] at hcases
  cases hcases with
  | unresolved journal hkind hfile =>
    rw [hloads.options] at hfile
    refine ⟨sound_aside hsound journal _ _, .unresolved hnew hprogram hspecifier hkind hfile, ?_,
      nofun⟩
    exact ⟨_, (hloads.trans (loads_aside tree _ mid journal _ _)).mono
      (List.subset_append_left _ _)⟩
  | failed journal file hkind hfile hrun =>
    rw [hloads.options] at hfile
    have hfailed := hload file _ (sound_aside hsound journal _ _) hlacks hfile error after hrun
    exact hfailed.below (hloads.trans (loads_aside tree _ mid journal _ _)) hnew
      ⟨program, hprogram, specifier, hspecifier, hkind, hfile⟩

/-- Loading a file fails for one of the reasons. -/
theorem failed_load (hdir : tree.Holds tree.workingDir) (depth : Nat) (isEntry : Bool)
    (hsound : before.Sound) (hopen : tree.Open underWay) (hsettled : tree.Settled path)
    (hlacks : before.Lacks underWay) (hdepth : tree.entries.length < depth + underWay.length)
    (hrun : (load tree depth underWay isEntry path).run before = (.error error, after)) :
    FailedAs tree underWay path before error after := by
  induction depth generalizing underWay isEntry path before error after with
  | zero => exact absurd hopen.length_le (by omega)
  | succ depth ih =>
    have hcases := load_cases tree depth underWay isEntry path before
    rw [hrun] at hcases
    cases hcases with
    | circular habsent hunderWay =>
      refine ⟨hsound, .circular hunderWay, ⟨[], .of_same rfl rfl (.refl before) rfl (by simp)⟩,
        fun chain hchain => ?_⟩
      obtain rfl := BundleError.circular.inj hchain
      exact hlacks.concat habsent
    | unread journal habsent hnew hsource =>
      refine ⟨sound_aside hsound journal _ _, .source hnew hsource,
        ⟨[], loads_aside tree underWay before journal _ _⟩, fun chain hchain => ?_⟩
      exact absurd (hchain ▸ hsource) (FileTree.programAt_ne_circular path chain)
    | @followed program _ journal comments nextOffset offset text habsent hnew hsource hrun =>
      have hfile := FileTree.isFile_of_programAt hsource
      have hopen' := hopen.concat hnew (hsettled hfile) hfile
      rcases run_bind_error hrun with hdependencies | ⟨entries, followed, -, hfinish⟩
      · obtain ⟨front, specifier, back, results, mid, hsplit, hfront, hspecifier⟩ :=
          run_mapM_error hdependencies
        -- the specifiers before the one that failed were followed
        obtain ⟨hmid, hloads, -, -⟩ := loads_specifiers tree _ path _
          (fun specifier before entry after hsound => followed_follow tree _ path _
            (fun file before id after hsound hrun =>
              (loaded_load tree depth _ false file before hsound id after hrun).1)
            specifier before hsound entry after) front _
              (sound_aside hsound journal comments nextOffset) results mid hfront
        have hloads := (loads_aside tree (underWay ++ [path]) before journal comments
          nextOffset).trans hloads
        refine failedAs_follow _ ?_ hmid hloads (hloads.lacks (hlacks.concat habsent)) hnew hsource
          ?_ hspecifier
        · intro file session hsession hlacks hfile error after hrun
          exact ih false hsession hopen' (FileTree.settled_of_filePath? hdir hfile) hlacks
            (by rw [List.length_append, List.length_singleton]; omega) hrun
        · rw [← program.specifiers_placed offset, hsplit]
          exact List.mem_append_right _ List.mem_cons_self
      · cases hfinish

theorem failed_build (hdir : tree.Holds tree.workingDir) (entry : Path) (hsound : before.Sound)
    (hrun : (build tree entry).run before = (.error error, after)) :
    FailedAs tree [] (canonicalOr tree entry .empty).1 before error after := by
  obtain ⟨journal, remark, hbuild⟩ := run_build tree entry before
  rw [hbuild] at hrun
  split at hrun
  · exact absurd (congrArg Prod.fst hrun) nofun
  · rename_i found loaded hload
    obtain ⟨hfound, rfl⟩ := Prod.mk.inj hrun
    obtain rfl := Except.error.inj hfound
    have hfailed := failed_load hdir _ true (sound_aside hsound journal _ _) .nil
      (FileTree.settled_canonicalOr hdir entry .empty) (by simp [Session.Lacks])
      (by rw [List.length_nil]; omega) hload
    refine ⟨hfailed.sound, hfailed.fails, ?_, hfailed.lacks⟩
    obtain ⟨targets, hloads⟩ := hfailed.loads
    exact ⟨_, (loads_aside tree [] before journal _ _).trans hloads⟩

end Building

/-! ## Sessions of builds -/

/-- A session as builds leave it, one after the other, whether they succeed or fail. The files may
change in between. -/
inductive Session.FromBuilds (options : BundleOptions) : Session → Prop
  | new : FromBuilds options (.new options)
  | build {session : Session} (h : FromBuilds options session) (tree : FileTree)
      (hdir : tree.Holds tree.workingDir) (entry : Path) :
    FromBuilds options ((Building.build tree entry).run session).2

namespace Session.FromBuilds

variable {options : BundleOptions} {session : Session}

theorem sound (h : session.FromBuilds options) : session.Sound := by
  induction h with
  | new => exact sound_new options
  | build h tree hdir entry ih => exact (Building.keeps_build tree entry _ ih trivial).2.1

theorem options_eq (h : session.FromBuilds options) : session.options = options := by
  induction h with
  | new => rfl
  | build h tree hdir entry ih => exact ((Building.blind_build tree entry).options_eq _).trans ih

end Session.FromBuilds

def builtFrom (tree : FileTree) (entry : Path) : Session :=
  ((Building.build tree entry).run (.new .standard)).2

theorem fromBuilds_builtFrom (tree : FileTree) (hdir : tree.Holds tree.workingDir) (entry : Path) :
    (builtFrom tree entry).FromBuilds .standard :=
  .build .new tree hdir entry

/-- A circle that a build reports is one of imports below the entry, and none of its files is
stored, whatever the session was. -/
theorem build_circle (tree : FileTree) (hdir : tree.Holds tree.workingDir) (entry : Path)
    (options : BundleOptions) (session : Session) (hsession : session.FromBuilds options)
    (chain : List Path)
    (herror : ((Building.build tree entry).run session).1 = .error (.circular chain)) :
    2 ≤ chain.length ∧ (∃ first, chain.head? = some first ∧ tree.canonical entry = .ok first) ∧
      tree.Circle options.extensions chain ∧
        ((Building.build tree entry).run session).2.Lacks chain := by
  have hfailed := Building.failed_build hdir entry hsession.sound (Prod.ext herror rfl)
  obtain ⟨hfront, hcircle⟩ := hfailed.fails.circle List.nodup_nil (.singleton _) chain rfl
  rw [hsession.options_eq] at hcircle
  refine ⟨hcircle.two_le, ?_, hcircle, hfailed.lacks chain rfl⟩
  obtain ⟨rest, rfl⟩ := hfront
  refine ⟨_, rfl, FileTree.canonical_eq_of_isFile entry .empty ?_⟩
  -- the entry imports the next file of the circle, so that it was read
  cases rest with
  | nil => exact absurd hcircle.two_le (by simp)
  | cons second others =>
    obtain ⟨program, hprogram, -⟩ := (List.isChain_cons_cons.mp hcircle.imports).1
    exact FileTree.isFile_of_programAt hprogram

/-- Two files that import each other, below an entry that imports a third one before. -/
def roundabout : FileTree :=
  ⟨[(["i"], .file "import'./x';import'./a.js'".toUTF8), (["x"], .file "".toUTF8),
    (["a.js"], .file "import'./b'".toUTF8), (["b.js"], .file "import'././a'".toUTF8)], []⟩

def roundaboutSession : Session :=
  ((Building.build roundabout "x").run ((Building.build roundabout "b.js").run
    (Session.new .standard)).2).2

set_option maxRecDepth 100000 in
theorem build_circle_roundabout :
    roundabout.Holds roundabout.workingDir ∧ roundaboutSession.FromBuilds .standard ∧
      roundaboutSession.modules.length = 1 ∧
      ((Building.build roundabout "i").run roundaboutSession).1 =
        .error (.circular ["/i", "/a.js", "/b.js", "/a.js"]) ∧
      roundabout.Circle BundleOptions.standard.extensions ["/i", "/a.js", "/b.js", "/a.js"] ∧
      ((Building.build roundabout "i").run roundaboutSession).2.Lacks
        ["/i", "/a.js", "/b.js", "/a.js"] :=
  have hdir := FileTree.holds_nil
  have hsession := .build (.build .new roundabout hdir "b.js") roundabout hdir "x"
  have herror := by decide +kernel
  ⟨hdir, hsession, by decide +kernel, herror,
    (build_circle roundabout hdir "i" .standard roundaboutSession hsession _ herror).2.2⟩

end ScopeHoist
