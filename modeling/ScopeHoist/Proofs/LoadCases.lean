import ScopeHoist.Graph.Loading
import ScopeHoist.Proofs.Files

/-!
# What loading a file comes to

A file that is to be loaded is stored already, or is under way, or has no program, or its
specifiers are followed and then it is stored. A specifier means no file, or a file that is loaded,
or an external. This is all that a build does below its entry, so that what is known of builds is
known case by case.
-/

set_option autoImplicit false

namespace ScopeHoist

def FileTree.programAt (tree : FileTree) (path : Path) : Except BundleError Program :=
  match tree.read path with
  | .error problem => .error (.access path problem)
  | .ok text =>
    match Program.parse? (withoutMark text.toList) with
    | .error problem => .error (.parse path (problem.message (withoutMark text.toList)))
    | .ok (program, _) => .ok program

namespace Building

/-! ## Runs -/

section

variable {α β : Type}

theorem run_lift (action : InSession α) (session : Session) :
    (liftM action : Building α).run session =
      (.ok (action.run session).1, (action.run session).2) := by rfl

theorem run_bind (action : Building α) (next : α → Building β) (session : Session) :
    (action >>= next).run session =
      match action.run session with
      | (.ok value, after) => (next value).run after
      | (.error error, after) => (.error error, after) := by
  change (ExceptT.bindCont next (action.run session).1 : InSession (Except BundleError β))
    (action.run session).2 = _
  generalize action.run session = outcome
  obtain ⟨result, after⟩ := outcome
  cases result <;> rfl

theorem run_lift_bind (action : InSession α) (next : α → Building β)
    (session : Session) : ((liftM action : Building α) >>= next).run session =
      (next (action.run session).1).run (action.run session).2 := by rfl

theorem run_bind_ok {action : Building α} {next : α → Building β}
    {before after : Session} {value : β}
    (h : (action >>= next).run before = (.ok value, after)) :
    ∃ first mid, action.run before = (.ok first, mid) ∧
      (next first).run mid = (.ok value, after) := by
  rw [run_bind] at h
  generalize action.run before = outcome at h
  obtain ⟨result, mid⟩ := outcome
  cases result with
  | error error => exact absurd (congrArg Prod.fst h) nofun
  | ok first => exact ⟨first, mid, rfl, h⟩

theorem run_pure_ok {result value : α} {before after : Session}
    (h : (pure result : Building α).run before = (.ok value, after)) :
    result = value ∧ before = after := by
  obtain ⟨hresult, hafter⟩ := Prod.mk.inj h
  exact ⟨Except.ok.inj hresult, hafter⟩

theorem run_bind_error {action : Building α} {next : α → Building β} {before after : Session}
    {error : BundleError} (h : (action >>= next).run before = (.error error, after)) :
    action.run before = (.error error, after) ∨ ∃ first mid, action.run before = (.ok first, mid) ∧
      (next first).run mid = (.error error, after) := by
  rw [run_bind] at h
  generalize action.run before = outcome at h
  obtain ⟨result, mid⟩ := outcome
  cases result with
  | error error =>
    obtain ⟨herror, rfl⟩ := Prod.mk.inj h
    exact .inl (by rw [Except.error.inj herror])
  | ok first => exact .inr ⟨first, mid, rfl, h⟩

end

theorem run_resolveFile (tree : FileTree) (importer : Path) (specifier : String)
    (session : Session) :
    (resolveFile tree importer specifier).run session =
      ((resolveSpecifier tree session.options.extensions importer specifier session.journal).1,
        { session with
          journal := (resolveSpecifier tree session.options.extensions importer specifier
            session.journal).2 }) := by
  have hget : (get : Building Session).run session = (.ok session, session) := rfl
  unfold resolveFile
  rw [run_bind, hget]
  dsimp only
  generalize resolveSpecifier tree session.options.extensions importer specifier
    session.journal = outcome
  obtain ⟨resolved, journal⟩ := outcome
  cases resolved <;> rfl

theorem run_readSource (tree : FileTree) (path : Path) (session : Session) :
    (readSource tree path).run session =
      (match tree.read path with
        | .ok text => .ok text
        | .error problem => .error (.access path problem), session) := by
  unfold readSource
  cases tree.read path <;> rfl

theorem run_parseSource (path : Path) (text : String) (session : Session) :
    (parseSource path text).run session =
      match Program.parse? (withoutMark text.toList) with
      | .ok (program, comments) =>
        (.ok (program.moved (session.nextOffset - 1)).resolve,
          { session with
            comments := session.comments.append (comments.moved (session.nextOffset - 1))
            nextOffset := session.nextOffset + (withoutMark text.toList).length + 1 })
      | .error problem =>
        (.error (.parse path (problem.message (withoutMark text.toList))), session) := by
  have hget : (get : Building Session).run session = (.ok session, session) := rfl
  unfold parseSource
  rw [run_bind, hget]
  dsimp only
  unfold Program.ofText?
  cases Program.parse? (withoutMark text.toList) <;> rfl

/-! ## Specifiers -/

def follow (tree : FileTree) (path : Path) (loadFile : Path → Building ModuleId)
    (specifier : String) : Building (String × Target) := do
  match specifierKind specifier with
  | .relative =>
    let file ← resolveFile tree path specifier
    return (specifier, Target.module (← loadFile file))
  | .bare => return (specifier, Target.external (← InSession.intern specifier))

/-- The outcomes of following a specifier. -/
inductive FollowCase (tree : FileTree) (path : Path) (loadFile : Path → Building ModuleId)
    (specifier : String) (before : Session) :
    Except BundleError (String × Target) × Session → Prop
  | unresolved (journal : Journal) (hkind : specifierKind specifier = .relative)
      (hfile : filePath? tree before.options.extensions path specifier = none) :
    FollowCase tree path loadFile specifier before
      (.error (.moduleNotFound path specifier), { before with journal })
  | failed {error : BundleError} {after : Session} (journal : Journal) (file : Path)
      (hkind : specifierKind specifier = .relative)
      (hfile : filePath? tree before.options.extensions path specifier = some file)
      (hload : (loadFile file).run { before with journal } = (.error error, after)) :
    FollowCase tree path loadFile specifier before (.error error, after)
  | loaded {id : ModuleId} {after : Session} (journal : Journal) (file : Path)
      (hkind : specifierKind specifier = .relative)
      (hfile : filePath? tree before.options.extensions path specifier = some file)
      (hload : (loadFile file).run { before with journal } = (.ok id, after)) :
    FollowCase tree path loadFile specifier before (.ok (specifier, .module id), after)
  | external (hkind : specifierKind specifier = .bare) :
    FollowCase tree path loadFile specifier before
      (.ok (specifier, .external ((InSession.intern specifier).run before).1),
        ((InSession.intern specifier).run before).2)

theorem follow_cases (tree : FileTree) (path : Path) (loadFile : Path → Building ModuleId)
    (specifier : String) (before : Session) :
    FollowCase tree path loadFile specifier before
      ((follow tree path loadFile specifier).run before) := by
  unfold follow
  cases hkind : specifierKind specifier with
  | bare => exact .external hkind
  | relative =>
    dsimp only
    rw [run_bind, run_resolveFile, resolveSpecifier_eq]
    cases hfile : filePath? tree before.options.extensions path specifier with
    | none => exact .unresolved _ hkind hfile
    | some file =>
      dsimp only
      rw [run_bind]
      generalize hload : (loadFile file).run _ = outcome
      obtain ⟨result, after⟩ := outcome
      cases result with
      | error error => exact .failed _ file hkind hfile hload
      | ok id => exact .loaded _ file hkind hfile hload

/-! ## Files -/

/-- The outcomes of loading a file, given what is done about its specifiers. -/
inductive LoadCase (tree : FileTree) (followAll : String → Building (String × Target))
    (underWay : List Path) (isEntry : Bool) (path : Path) (before : Session) :
    Except BundleError ModuleId × Session → Prop
  | reused {id : ModuleId} (journal : Journal) (hstored : before.moduleAt? path = some id) :
    LoadCase tree followAll underWay isEntry path before (.ok id, { before with journal })
  | circular (habsent : before.moduleAt? path = none) (hunderWay : path ∈ underWay) :
    LoadCase tree followAll underWay isEntry path before
      (.error (.circular (underWay ++ [path])), before)
  | unread {error : BundleError} (journal : Journal) (habsent : before.moduleAt? path = none)
      (hnew : path ∉ underWay) (hsource : tree.programAt path = .error error) :
    LoadCase tree followAll underWay isEntry path before (.error error, { before with journal })
  | followed {program : Program} {outcome : Except BundleError ModuleId × Session}
      (journal : Journal) (comments : Comments) (nextOffset offset : Nat) (text : String)
      (habsent : before.moduleAt? path = none) (hnew : path ∉ underWay)
      (hsource : tree.programAt path = .ok program)
      (hrun : (do
        let entries ← (program.moved offset).resolve.specifiers.mapM followAll
        finish path isEntry text (program.moved offset).resolve entries :
          Building ModuleId).run { before with journal, comments, nextOffset } = outcome) :
    LoadCase tree followAll underWay isEntry path before outcome

theorem load_cases (tree : FileTree) (depth : Nat) (underWay : List Path) (isEntry : Bool)
    (path : Path) (before : Session) :
    LoadCase tree (follow tree path (load tree depth (underWay ++ [path]) false)) underWay isEntry
      path before ((load tree (depth + 1) underWay isEntry path).run before) := by
  have hget : (get : Building Session).run before = (.ok before, before) := rfl
  unfold load
  rw [run_bind, hget]
  dsimp only
  cases hstored : before.moduleAt? path with
  | some id => exact .reused _ hstored
  | none =>
    dsimp only
    split
    · rename_i hmem
      exact .circular hstored (by simpa using hmem)
    · rename_i hmem
      have hnew : path ∉ underWay := by simpa using hmem
      rw [run_bind, run_lift]
      dsimp only
      rw [run_bind, run_readSource]
      cases hread : tree.read path with
      | error problem =>
        exact .unread _ hstored hnew (by rw [FileTree.programAt, hread])
      | ok text =>
        dsimp only
        rw [run_bind, run_parseSource]
        cases hparse : Program.parse? (withoutMark text.toList) with
        | error problem =>
          refine .unread _ hstored hnew ?_
          rw [FileTree.programAt, hread]
          dsimp only
          rw [hparse]
        | ok parsed =>
          refine .followed _ _ _ _ text hstored hnew ?_ rfl
          rw [FileTree.programAt, hread]
          dsimp only
          rw [hparse]

theorem run_build (tree : FileTree) (entry : Path) (before : Session) :
    ∃ (journal : Journal) (remark : Session → Journal), (build tree entry).run before =
      match (load tree (tree.entries.length + 2) [] true (canonicalOr tree entry .empty).1).run
        { before with journal } with
      | (.ok id, after) => (.ok id, { after with journal := remark after })
      | (.error error, after) => (.error error, after) := by
  unfold build
  rw [← canonicalOr_path tree entry before.journal .empty, run_bind]
  change ∃ (journal : Journal) (remark : Session → Journal), ((do
    set { before with journal := (canonicalOr tree entry before.journal).2 }
    InSession.note .debug
      ("Building module graph from " ++ (canonicalOr tree entry before.journal).1)
    let id ← load tree (tree.entries.length + 2) [] true (canonicalOr tree entry before.journal).1
    let session ← get
    InSession.note .debug
      ("Module graph complete: " ++ toString session.modules.length ++ " modules, "
        ++ toString session.externals.length ++ " externals")
    return id : Building ModuleId).run before) = _
  obtain ⟨path, journal⟩ := canonicalOr tree entry before.journal
  refine ⟨journal.add .debug ("Building module graph from " ++ path), fun after =>
    after.journal.add .debug ("Module graph complete: " ++ toString after.modules.length
      ++ " modules, " ++ toString after.externals.length ++ " externals"), ?_⟩
  rw [run_bind]
  change ((liftM (InSession.note .debug ("Building module graph from " ++ path)) >>= fun _ => _ :
    Building ModuleId).run { before with journal }) = _
  rw [run_lift_bind, run_bind]
  have hnoted : ((InSession.note .debug ("Building module graph from " ++ path)).run
      { before with journal }).2 = { before with
        journal := journal.add .debug ("Building module graph from " ++ path) } := rfl
  rw [hnoted]
  generalize (load tree (tree.entries.length + 2) [] true path).run _ = outcome
  obtain ⟨result, after⟩ := outcome
  cases result <;> rfl

end Building

end ScopeHoist
