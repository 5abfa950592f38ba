import ScopeHoist.Proofs.Coherence
import ScopeHoist.Proofs.Descent

/-!
# Builds in progress

Wherever a build stops, the session is coherent, holds all that it held before, and has no module
for a file that is under way. A file is stored when its module fits in, and under no other
circumstances does the session get a module.
-/

set_option autoImplicit false

namespace ScopeHoist

namespace Session

/-- What a session holds, a later one holds too: tables and lists only got longer. -/
structure Carries (before after : Session) : Prop where
  grows : before.Grows after
  options : after.options = before.options
  dependents : ∀ id, id < before.modules.length →
    (before.module id).dependents ⊆ (after.module id).dependents
  importers : ∀ id, id < before.externals.length →
    (before.external id).dependents ⊆ (after.external id).dependents
  warnings : before.warnings <+: after.warnings

/-- How a session is while files are under way: nothing is stored for these, and what the entry is
has not changed. -/
structure Proceeds (underWay : List Path) (before after : Session) : Prop where
  coherent : after.Coherent
  carries : before.Carries after
  lacks : after.Lacks underWay
  entry : after.entry = before.entry
  named : before.LegallyNamed → after.LegallyNamed

/-- How a session is when a file is loaded as a module. -/
structure Arrives (underWay : List Path) (isEntry : Bool) (before : Session) (id : ModuleId)
    (after : Session) : Prop where
  coherent : after.Coherent
  carries : before.Carries after
  lacks : after.Lacks underWay
  entry : isEntry = false → after.entry = before.entry
  valid : id < after.modules.length
  named : before.LegallyNamed → after.LegallyNamed

theorem Carries.refl (session : Session) : session.Carries session :=
  ⟨.refl session, rfl, fun _ _ => List.Subset.refl _, fun _ _ => List.Subset.refl _,
    List.prefix_rfl⟩

theorem Carries.trans {first second third : Session} (h : first.Carries second)
    (h' : second.Carries third) : first.Carries third where
  grows := h.grows.trans h'.grows
  options := h'.options.trans h.options
  dependents := fun id hid => List.Subset.trans (h.dependents id hid)
    (h'.dependents id (Nat.lt_of_lt_of_le hid h.grows.modules_length))
  importers := fun id hid => List.Subset.trans (h.importers id hid)
    (h'.importers id (Nat.lt_of_lt_of_le hid h.grows.externals_length))
  warnings := h.warnings.trans h'.warnings

theorem Serves.carries {before after : Session} (h : before.Serves after) :
    before.Carries after where
  grows := h.grows
  options := h.options
  dependents := fun id _ => by
    rw [h.dependents]
    exact List.Subset.refl _
  importers := fun id _ => by
    rw [h.importers]
    exact List.Subset.refl _
  warnings := h.warnings

theorem Announces.carries {before after : Session} {id : ModuleId} {targets : List Target}
    (h : before.Announces id targets after) : before.Carries after where
  grows := h.grows
  options := h.options
  dependents := fun other _ dependent hmem => (h.dependents other dependent).mpr (.inl hmem)
  importers := fun other _ dependent hmem => (h.importers other dependent).mpr (.inl hmem)
  warnings := h.warnings ▸ List.prefix_rfl

theorem Carries.aside (session : Session) (journal : Journal) (comments : Comments)
    (nextOffset : Nat) : session.Carries { session with journal, comments, nextOffset } :=
  ⟨Building.grows_aside session journal comments nextOffset, rfl, fun _ _ => List.Subset.refl _,
    fun _ _ => List.Subset.refl _, List.prefix_rfl⟩

theorem Carries.store (session : Session) (module : Module) :
    session.Carries (session.store module) where
  grows := .store session module
  options := rfl
  dependents := fun id hid => by
    rw [module_store_old hid]
    exact List.Subset.refl _
  importers := fun _ _ => List.Subset.refl _
  warnings := List.prefix_rfl

theorem Carries.addExternal (session : Session) (specifier : String) :
    session.Carries (session.addExternal specifier) where
  grows := .addExternal session specifier
  options := rfl
  dependents := fun _ _ => List.Subset.refl _
  importers := fun id hid => by
    rw [external_addExternal, if_neg (Nat.ne_of_lt hid)]
    exact List.Subset.refl _
  warnings := List.prefix_rfl

theorem Lacks.below {session : Session} {underWay : List Path} {path : Path}
    (h : session.Lacks (underWay ++ [path])) : session.Lacks underWay :=
  fun id hid hmem => h id hid (List.mem_append_left _ hmem)

theorem Lacks.ne {session : Session} {underWay : List Path} {path : Path}
    (h : session.Lacks (underWay ++ [path])) (id : ModuleId) (hid : id < session.modules.length) :
    (session.module id).path ≠ path :=
  fun heq => h id hid (heq ▸ List.mem_append_right _ List.mem_cons_self)

section

variable {underWay : List Path} {path : Path} {before mid after : Session}

theorem Proceeds.start (h : before.Coherent) (hlacks : before.Lacks underWay) :
    before.Proceeds underWay before :=
  ⟨h, .refl before, hlacks, rfl, fun hnamed => hnamed⟩

theorem Proceeds.trans (h : before.Proceeds underWay mid) (h' : mid.Proceeds underWay after) :
    before.Proceeds underWay after :=
  ⟨h'.coherent, h.carries.trans h'.carries, h'.lacks, h'.entry.trans h.entry,
    fun hnamed => h'.named (h.named hnamed)⟩

theorem Proceeds.below (h : before.Proceeds (underWay ++ [path]) after) :
    before.Proceeds underWay after :=
  ⟨h.coherent, h.carries, h.lacks.below, h.entry, h.named⟩

theorem Proceeds.aside (h : before.Proceeds underWay mid) (journal : Journal)
    (comments : Comments) (nextOffset : Nat) :
    before.Proceeds underWay { mid with journal, comments, nextOffset } where
  coherent := h.coherent.of_same rfl rfl rfl rfl rfl
  carries := h.carries.trans (.aside mid journal comments nextOffset)
  lacks := h.lacks
  entry := h.entry
  named := h.named

theorem Proceeds.addExternal (h : before.Proceeds underWay mid) (specifier : String)
    (hnew : mid.externalNamed? specifier = none) :
    before.Proceeds underWay (mid.addExternal specifier) :=
  ⟨h.coherent.addExternal specifier hnew, h.carries.trans (.addExternal mid specifier), h.lacks,
    h.entry, h.named⟩

theorem Arrives.since {others : List Path} {isEntry : Bool} {id : ModuleId}
    (h : mid.Arrives underWay isEntry id after) (hbefore : before.Proceeds others mid) :
    before.Arrives underWay isEntry id after :=
  ⟨h.coherent, hbefore.carries.trans h.carries, h.lacks,
    fun hplain => (h.entry hplain).trans hbefore.entry, h.valid,
    fun hnamed => h.named (hbefore.named hnamed)⟩

theorem Arrives.proceeds {id : ModuleId} (h : before.Arrives underWay false id after) :
    before.Proceeds underWay after :=
  ⟨h.coherent, h.carries, h.lacks, h.entry rfl, h.named⟩

theorem Arrives.aside {isEntry : Bool} {id : ModuleId}
    (h : before.Arrives underWay isEntry id after) (journal : Journal) :
    before.Arrives underWay isEntry id { after with journal } where
  coherent := h.coherent.of_same rfl rfl rfl rfl rfl
  carries := h.carries.trans (.aside after journal _ _)
  lacks := h.lacks
  entry := h.entry
  valid := h.valid
  named := h.named

end

end Session

namespace Building

open Session

/-! ## What steps of a build meet -/

/-- From a session with some property, a step that succeeds leaves one with a second property, and
one that fails leaves one with a third. -/
def Meets {α : Type} (pre : Session → Prop) (action : Building α) (ok : α → Session → Prop)
    (fail : BundleError → Session → Prop) : Prop :=
  ∀ session, pre session →
    (∀ value, (action.run session).1 = .ok value → ok value (action.run session).2) ∧
      ∀ error, (action.run session).1 = .error error → fail error (action.run session).2

section

variable {α β : Type} {pre : Session → Prop} {fail : BundleError → Session → Prop}

theorem meets_weaken {pre' : Session → Prop} {action : Building α} {ok ok' : α → Session → Prop}
    {fail' : BundleError → Session → Prop} (h : Meets pre action ok fail)
    (hpre : ∀ session, pre' session → pre session)
    (hok : ∀ value session, ok value session → ok' value session)
    (hfail : ∀ error session, fail error session → fail' error session) :
    Meets pre' action ok' fail' := fun session hp =>
  ⟨fun value heq => hok value _ ((h session (hpre session hp)).1 value heq),
    fun error heq => hfail error _ ((h session (hpre session hp)).2 error heq)⟩

theorem meets_entry {action : Building α} {ok : α → Session → Prop}
    (h : ∀ before, pre before → Meets (fun session => session = before) action ok fail) :
    Meets pre action ok fail := fun session hp => h session hp session rfl

theorem meets_both {action : Building α} {ok ok' : α → Session → Prop}
    {fail' : BundleError → Session → Prop} (h : Meets pre action ok fail)
    (h' : Meets pre action ok' fail') :
    Meets pre action (fun value session => ok value session ∧ ok' value session)
      fun error session => fail error session ∧ fail' error session := fun session hp =>
  ⟨fun value heq => ⟨(h session hp).1 value heq, (h' session hp).1 value heq⟩,
    fun error heq => ⟨(h session hp).2 error heq, (h' session hp).2 error heq⟩⟩

theorem meets_pure {value : α} {ok : α → Session → Prop}
    (h : ∀ session, pre session → ok value session) : Meets pre (pure value) ok fail :=
  fun session hp => by
    refine ⟨fun result heq => ?_, fun _ heq => absurd heq nofun⟩
    obtain rfl := Except.ok.inj heq
    exact h session hp

theorem meets_throw {error : BundleError} {ok : α → Session → Prop}
    (h : ∀ session, pre session → fail error session) : Meets pre (throw error) ok fail :=
  fun session hp => by
    refine ⟨fun _ heq => absurd heq nofun, fun result heq => ?_⟩
    obtain rfl := Except.error.inj heq
    exact h session hp

theorem meets_lift {action : InSession α} {ok : α → Session → Prop}
    (h : ∀ session, pre session → ok (action.run session).1 (action.run session).2) :
    Meets pre (liftM action : Building α) ok fail := fun session hp => by
  refine ⟨fun value heq => ?_, fun _ heq => absurd heq nofun⟩
  obtain rfl := Except.ok.inj heq
  exact h session hp

theorem meets_bind {action : Building α} {next : α → Building β} (mid : α → Session → Prop)
    {ok : β → Session → Prop} (haction : Meets pre action mid fail)
    (hnext : ∀ value, Meets (mid value) (next value) ok fail) :
    Meets pre (action >>= next) ok fail := fun session hp => by
  obtain ⟨hok, hfail⟩ := haction session hp
  rw [run_bind]
  generalize action.run session = outcome at *
  obtain ⟨result, after⟩ := outcome
  cases result with
  | error error =>
    refine ⟨fun _ heq => absurd heq nofun, fun result heq => ?_⟩
    obtain rfl := Except.error.inj heq
    exact hfail error rfl
  | ok value => exact hnext value after (hok value rfl)

theorem meets_mapM {action : α → Building β} (results : List β → Session → Prop)
    (values : List α)
    (h : ∀ value ∈ values, ∀ done,
      Meets (results done) (action value) (fun result => results (done ++ [result])) fail) :
    Meets (results []) (values.mapM action) results fail := by
  suffices hall : ∀ done, Meets (results done) (values.mapM action)
      (fun more => results (done ++ more)) fail from hall []
  induction values with
  | nil =>
    intro done
    rw [List.mapM_nil]
    exact meets_pure fun _ hp => by rwa [List.append_nil]
  | cons first rest ih =>
    intro done
    rw [List.mapM_cons]
    refine meets_bind _ (h first List.mem_cons_self done) fun result => meets_bind _
      (ih (fun value hvalue => h value (List.mem_cons_of_mem _ hvalue)) (done ++ [result]))
      fun more => meets_pure fun _ hp => ?_
    rwa [List.append_assoc] at hp

end

/-! ## Cases of a build -/

section

variable {tree : FileTree} {path : Path} {before : Session} {fail : BundleError → Session → Prop}

theorem meets_follow {loadFile : Path → Building ModuleId} {specifier : String}
    {ok : String × Target → Session → Prop}
    (hunresolved : ∀ journal, specifierKind specifier = .relative →
      filePath? tree before.options.extensions path specifier = none →
        fail (.moduleNotFound path specifier) { before with journal })
    (hfile : ∀ journal file, specifierKind specifier = .relative →
      filePath? tree before.options.extensions path specifier = some file →
        Meets (fun session => session = { before with journal }) (loadFile file)
          (fun id => ok (specifier, .module id)) fail)
    (hexternal : specifierKind specifier = .bare →
      ok (specifier, .external ((InSession.intern specifier).run before).1)
        ((InSession.intern specifier).run before).2) :
    Meets (fun session => session = before) (follow tree path loadFile specifier) ok fail := by
  rintro session rfl
  have hcases := follow_cases tree path loadFile specifier session
  generalize (follow tree path loadFile specifier).run session = outcome at hcases ⊢
  cases hcases with
  | unresolved journal hkind hnone =>
    refine ⟨fun _ heq => absurd heq nofun, fun error heq => ?_⟩
    obtain rfl := Except.error.inj heq
    exact hunresolved journal hkind hnone
  | failed journal file hkind hsome hrun =>
    have hfailed := (hfile journal file hkind hsome _ rfl).2
    rw [hrun] at hfailed
    refine ⟨fun _ heq => absurd heq nofun, fun error heq => ?_⟩
    obtain rfl := Except.error.inj heq
    exact hfailed _ rfl
  | loaded journal file hkind hsome hrun =>
    have hloaded := (hfile journal file hkind hsome _ rfl).1
    rw [hrun] at hloaded
    refine ⟨fun entry heq => ?_, fun _ heq => absurd heq nofun⟩
    obtain rfl := Except.ok.inj heq
    exact hloaded _ rfl
  | external hkind =>
    refine ⟨fun entry heq => ?_, fun _ heq => absurd heq nofun⟩
    obtain rfl := Except.ok.inj heq
    exact hexternal hkind

theorem meets_load_succ {depth : Nat} {underWay : List Path} {isEntry : Bool}
    {ok : ModuleId → Session → Prop}
    (hreused : ∀ journal id, before.moduleAt? path = some id → ok id { before with journal })
    (hcircular : before.moduleAt? path = none → path ∈ underWay →
      fail (.circular (underWay ++ [path])) before)
    (hunread : ∀ journal error, before.moduleAt? path = none → path ∉ underWay →
      tree.programAt path = .error error → fail error { before with journal })
    (hfollowed : ∀ journal comments nextOffset offset text program,
      before.moduleAt? path = none → path ∉ underWay → tree.programAt path = .ok program →
        Meets (fun session => session = { before with journal, comments, nextOffset })
          (do
            let entries ← (program.moved offset).resolve.specifiers.mapM
              (follow tree path (load tree depth (underWay ++ [path]) false))
            finish path isEntry text (program.moved offset).resolve entries) ok fail) :
    Meets (fun session => session = before) (load tree (depth + 1) underWay isEntry path) ok
      fail := by
  rintro session rfl
  have hcases := load_cases tree depth underWay isEntry path session
  generalize (load tree (depth + 1) underWay isEntry path).run session = outcome at hcases ⊢
  cases hcases with
  | reused journal hstored =>
    refine ⟨fun id heq => ?_, fun _ heq => absurd heq nofun⟩
    obtain rfl := Except.ok.inj heq
    exact hreused journal _ hstored
  | circular habsent hunderWay =>
    refine ⟨fun _ heq => absurd heq nofun, fun error heq => ?_⟩
    obtain rfl := Except.error.inj heq
    exact hcircular habsent hunderWay
  | unread journal habsent hnew hsource =>
    refine ⟨fun _ heq => absurd heq nofun, fun error heq => ?_⟩
    obtain rfl := Except.error.inj heq
    exact hunread journal _ habsent hnew hsource
  | followed journal comments nextOffset offset text habsent hnew hsource hrun =>
    rw [← hrun]
    exact hfollowed journal comments nextOffset offset text _ habsent hnew hsource _ rfl

end

/-! ## Builds -/

variable {underWay : List Path} {before : Session}

theorem meets_intern (specifier : String) :
    Meets (before.Proceeds underWay) (liftM (InSession.intern specifier) : Building ExternalId)
      (fun id session => before.Proceeds underWay session ∧ session.Valid (.external id))
      fun _ => before.Proceeds underWay := by
  refine meets_lift fun session hp => ?_
  rw [InSession.run_intern]
  cases hnamed : session.externalNamed? specifier with
  | some id => exact ⟨hp, ((hp.coherent.specifiers specifier id).mp hnamed).1⟩
  | none =>
    refine ⟨hp.addExternal specifier hnamed, ?_⟩
    change session.externals.length < (session.addExternal specifier).externals.length
    rw [Session.addExternal_length]
    exact Nat.lt_succ_self _

theorem arrives_finish (path : Path) (isEntry : Bool) (text : String) (program : Program)
    (dependencies : Table Target) (session : Session) (h : session.Coherent)
    (hlacks : session.Lacks (underWay ++ [path])) (hnew : path ∉ underWay)
    (htargets : ∀ target ∈ dependencies.values, session.Valid target) :
    session.Arrives underWay isEntry
      ((finish path isEntry text program dependencies).run session).1
      ((finish path isEntry text program dependencies).run session).2 := by
  have hannounced := session.announces_addDependents session.modules.length dependencies.values
    htargets
  obtain ⟨uses, bindings, exports, imports, stars, unnamedDefault, hmodule⟩ :=
    prepare_eq (newModule session path isEntry text program dependencies) session
  have hopened : (((dependencies.values).forM
      (InSession.addDependent session.modules.length)).run session).2.Opened
        (newModule session path isEntry text program dependencies) :=
    ⟨hannounced.length.symm, fun target htarget =>
      hannounced.grows.valid target (htargets target htarget)⟩
  obtain ⟨hedited, hdraft⟩ := InSession.edits_complete
    (newModule session path isEntry text program dependencies) rfl rfl rfl rfl _
    (h.grounded.announced hannounced) hopened
  have hrun : (prepare (newModule session path isEntry text program dependencies)).run session =
      (InSession.complete (newModule session path isEntry text program dependencies)).run
        (((dependencies.values).forM
          (InSession.addDependent session.modules.length)).run session).2 := rfl
  rw [← hrun] at hedited hdraft
  rw [run_finish]
  generalize (prepare (newModule session path isEntry text program dependencies)).run session =
    prepared at *
  generalize (((dependencies.values).forM
    (InSession.addDependent session.modules.length)).run session).2 = mid at *
  obtain ⟨module, after⟩ := prepared
  dsimp only at hmodule hedited hdraft ⊢
  have hlength : after.modules.length = session.modules.length :=
    hedited.serves.length.trans hannounced.length
  have hcarries := hannounced.carries.trans hedited.serves.carries
  refine ⟨h.store (by rw [hmodule]; exact hannounced) hedited hdraft (by rw [hmodule]; rfl)
    fun id hid => ?_, hcarries.trans (.store after module), fun id hid => ?_, fun hentry => ?_, ?_,
    fun hnamed => ((hnamed.of_same hannounced.records).edited hedited).of_same rfl⟩
  · rw [hmodule]
    exact hlacks.ne id hid
  · rcases lt_store hid with hid | rfl
    · have hold : id < session.modules.length := hlength ▸ hid
      rw [module_store_old hid, (hcarries.grows.module id hold).path_eq]
      exact hlacks.below id hold
    · rw [module_store_new, hmodule]
      exact hnew
  · have hplain : module.isEntry = false := by
      rw [hmodule]
      exact hentry
    rw [Session.store, hplain]
    exact hedited.serves.entry.trans hannounced.entry
  · rw [store_length, hlength]
    exact Nat.lt_succ_self _

theorem proceeds_follow (tree : FileTree) (path : Path) (loadFile : Path → Building ModuleId)
    (hload : ∀ file mid, mid.Coherent → mid.Lacks underWay →
      Meets (fun session => session = mid) (loadFile file) (mid.Arrives underWay false)
        fun _ => mid.Proceeds underWay)
    (specifier : String) (start : Session) (hcoherent : start.Coherent)
    (hlacks : start.Lacks underWay) :
    Meets (fun session => session = start) (follow tree path loadFile specifier)
      (fun entry session => start.Proceeds underWay session ∧ session.Valid entry.2)
      fun _ => start.Proceeds underWay := by
  have hbegin : start.Proceeds underWay start := .start hcoherent hlacks
  apply meets_follow
  · exact fun journal _ _ => hbegin.aside journal _ _
  · intro journal file _ _
    have haside := hbegin.aside journal start.comments start.nextOffset
    exact meets_weaken (hload file _ haside.coherent haside.lacks) (fun _ heq => heq)
      (fun id session h => ⟨(h.since haside).proceeds, h.valid⟩)
      fun _ session hp => haside.trans hp
  · intro _
    exact (meets_intern specifier start hbegin).1 _ rfl

/-- All specifiers of a file lead to targets of the session, if each does. What was reached before
is reached still. -/
theorem meets_followAll (relation : Session → Session → Prop) (before : Session)
    (htrans : ∀ first second third, relation first second → relation second third →
      relation first third)
    (hgrows : ∀ first second, relation first second → first.Grows second)
    {followOne : String → Building (String × Target)} (specifiers : List String)
    (hfollow : ∀ specifier start, relation before start →
      Meets (fun session => session = start) (followOne specifier)
        (fun entry session => relation start session ∧ session.Valid entry.2)
        fun _ => relation start) :
    Meets (relation before) (specifiers.mapM followOne)
      (fun entries session => relation before session ∧ ∀ entry ∈ entries, session.Valid entry.2)
      fun _ => relation before := by
  refine meets_weaken (meets_mapM (fun done session => relation before session ∧
    ∀ entry ∈ done, session.Valid entry.2) specifiers fun specifier _ done =>
      meets_entry fun start hstart => ?_) (fun _ hp => ⟨hp, by simp⟩) (fun _ _ h => h)
        fun _ _ h => h
  refine meets_weaken (hfollow specifier start hstart.1) (fun _ heq => heq)
    (fun result session h => ?_) fun _ _ hp => htrans _ _ _ hstart.1 hp
  refine ⟨htrans _ _ _ hstart.1 h.1, fun entry hentry => ?_⟩
  rcases List.mem_append.mp hentry with hold | hlast
  · exact (hgrows _ _ h.1).valid entry.2 (hstart.2 entry hold)
  · obtain rfl := List.mem_singleton.mp hlast
    exact h.2

theorem meets_load (tree : FileTree) (depth : Nat) (isEntry : Bool) (path : Path)
    (hcoherent : before.Coherent) (hlacks : before.Lacks underWay) :
    Meets (fun session => session = before) (load tree depth underWay isEntry path)
      (before.Arrives underWay isEntry) fun _ => before.Proceeds underWay := by
  induction depth generalizing underWay isEntry path before with
  | zero =>
    refine meets_throw fun session heq => ?_
    obtain rfl := heq
    exact .start hcoherent hlacks
  | succ depth ih =>
    have hbegin : before.Proceeds underWay before := .start hcoherent hlacks
    apply meets_load_succ
    case hreused =>
      intro journal id hstored
      have haside := hbegin.aside journal before.comments before.nextOffset
      exact ⟨haside.coherent, haside.carries, haside.lacks, fun _ => haside.entry,
        ((hcoherent.paths path id).mp hstored).1, haside.named⟩
    case hcircular => exact fun _ _ => hbegin
    case hunread => exact fun journal _ _ _ _ => hbegin.aside journal _ _
    case hfollowed =>
      intro journal comments nextOffset offset text program habsent hnew _
      have hopen : before.Proceeds (underWay ++ [path]) before :=
        .start hcoherent (hlacks.concat habsent)
      have hfollowed := meets_followAll (Session.Proceeds (underWay ++ [path])) before
        (fun _ _ _ h h' => h.trans h') (fun _ _ h => h.carries.grows)
        (program.moved offset).resolve.specifiers fun specifier start hstart =>
          proceeds_follow tree path _ (fun file _ => ih false file) specifier start hstart.coherent
            hstart.lacks
      refine meets_weaken (meets_bind _ hfollowed fun entries => meets_lift fun session hp => ?_)
        (fun session heq => heq ▸ hopen.aside journal comments nextOffset) (fun _ _ h => h)
          fun _ _ h => h.below
      refine (arrives_finish path isEntry text _ entries session hp.1.coherent hp.1.lacks hnew
        fun target htarget => ?_).since hp.1
      obtain ⟨entry, hentry, rfl⟩ := List.mem_map.mp htarget
      exact hp.2 entry hentry

/-- Wherever a build stops, the session is coherent and holds all that it held. -/
theorem meets_build (tree : FileTree) (entry : Path) (hcoherent : before.Coherent) :
    Meets (fun session => session = before) (build tree entry)
      (before.Arrives [] true) fun _ => before.Proceeds [] := by
  rintro session rfl
  have hbegin : session.Proceeds [] session := .start hcoherent fun _ _ => List.not_mem_nil
  obtain ⟨journal, remark, hbuild⟩ := run_build tree entry session
  have haside := hbegin.aside journal session.comments session.nextOffset
  have hload := meets_load tree (tree.entries.length + 2) true (canonicalOr tree entry .empty).1
    haside.coherent haside.lacks _ rfl
  rw [hbuild]
  generalize (load tree _ [] true _).run _ = outcome at hload ⊢
  obtain ⟨result, after⟩ := outcome
  cases result with
  | error error =>
    exact ⟨fun _ heq => absurd heq nofun, fun _ heq => haside.trans (hload.2 _ heq)⟩
  | ok id =>
    refine ⟨fun found heq => ?_, fun _ heq => absurd heq nofun⟩
    obtain rfl := Except.ok.inj heq
    exact ((hload.1 id rfl).since haside).aside (remark after)

end Building

theorem Session.Coherent.build {session : Session} (h : session.Coherent) (tree : FileTree)
    (entry : Path) : ((Building.build tree entry).run session).2.Coherent := by
  obtain ⟨hok, hfail⟩ := Building.meets_build tree entry h session rfl
  cases houtcome : ((Building.build tree entry).run session).1 with
  | ok id => exact (hok id houtcome).coherent
  | error error => exact (hfail error houtcome).coherent

end ScopeHoist
