import ScopeHoist.Proofs.Loading
import ScopeHoist.Proofs.Wiring

/-!
# Builds leave sessions wired

Completing a module asks for what its program requests and answers each of its clauses, so that the
module is finished when it is stored. A build therefore leaves a wired session, also if it fails.
-/

set_option autoImplicit false

namespace ScopeHoist

namespace InSession

open Session

section

variable {asks : Target → String → Prop} {α : Type} {pre : Session → Prop}

theorem asking_both {action : InSession α} {post post' : α → Session → Prop}
    (h : Asking asks pre action post) (h' : Keeps pre action post') :
    Asking asks pre action fun value session => post value session ∧ post' value session :=
  fun session hsound hpre =>
    ⟨(h session hsound hpre).1, (h session hsound hpre).2, (h' session hsound hpre).2⟩

end

theorem asking_publishAll (module : Module) (hcovered : module.Covered) :
    Asking module.Asks (fun session => session.Ready module) (publishAll module)
      fun result session => ∃ published, result = published.foldl Module.publish module ∧
        session.Publishes module module.program.clauses published := by
  refine asking_bind (stays_ready module) (asking_mapM (stays_ready module)
    (fun item published => stays_publishes module (module.program.clausesOf item) published)
    module.program.items fun item hitem => asking_publishedBy module hcovered item hitem)
    fun results => asking_pure fun session _ hpre => ?_
  exact ⟨results.flatten, rfl, .flatten _ hpre.2⟩

variable {first : ModuleId → Table RecordId}

theorem stays_holds {asks : Target → String → Prop} (held : ModuleId → Table RecordId)
    (ids : List ModuleId) : Stays asks fun session => ∀ id ∈ ids, session.Holds first held id :=
  fun _ _ _ hanswers hall id hid => hanswers.fills.grows.holds held id (hall id hid)

/-- A module between its declarations and its exports: what its `export *` statements gave it is
what the tables of a moment held. -/
structure Started (first : ModuleId → Table RecordId) (module : Module)
    (held : ModuleId → Table RecordId) (session : Session) : Prop where
  covered : module.Covered
  stars : module.stars = session.starsOf module
  holds : ∀ id ∈ module.starModules, session.Holds first held id
  exports : ∀ name, module.exports.get? name = lastHeld held module.starModules name

theorem stays_started {asks : Target → String → Prop} (module : Module)
    (held : ModuleId → Table RecordId) : Stays asks (Started first module held) := by
  intro before after hsound hanswers h
  refine ⟨h.covered, ?_, stays_holds held _ before after hsound hanswers h.holds, h.exports⟩
  rw [starsOf_eq hanswers.fills.grows module fun id hid => (h.holds id hid).1]
  exact h.stars

theorem stays_finished {asks : Target → String → Prop} (module : Module) :
    Stays asks fun session => session.Finished first module := by
  intro before after hsound hanswers h
  obtain ⟨held, published, hpublishes, hholds, hentries⟩ := h.exports
  refine ⟨stays_draft module before after hsound hanswers h.draft, h.covered,
    stays_answersImports module _ _ before after hsound hanswers h.imported, ?_, held, published,
    stays_publishes module _ _ before after hsound hanswers hpublishes,
    stays_holds held _ before after hsound hanswers hholds, hentries⟩
  rw [starsOf_eq hanswers.fills.grows module fun id hid => (hholds id hid).1]
  exact h.stars

def Finishes (first : ModuleId → Table RecordId) (module result : Module) (session : Session) :
    Prop :=
  session.Finished first result ∧ result.program = module.program ∧
    result.dependencies = module.dependencies

theorem stays_finishes {asks : Target → String → Prop} (module result : Module) :
    Stays asks (Finishes first module result) :=
  fun before after hsound hanswers h =>
    ⟨stays_finished result before after hsound hanswers h.1, h.2⟩

theorem asking_exports (module : Module) (held : ModuleId → Table RecordId) :
    Asking module.Asks
      (fun session => Started first module held session ∧ session.Ready module)
      (publishAll module) (Finishes first module) := by
  intro session hsound ⟨hstarted, hready⟩
  have hpublish := asking_both (asking_publishAll module hstarted.covered)
    (keeps_weaken (keeps_publishAll module) (fun _ (h : Session.Ready _ module) => h.1)
      fun _ _ hpost => hpost)
  obtain ⟨hanswers, ⟨published, hresult, hpublishes⟩, hdraft⟩ := hpublish session hsound hready
  have hstarted' := stays_started _ held session _ hsound hanswers hstarted
  have hready' := stays_ready module session _ hsound hanswers hready
  refine ⟨hanswers, ?_⟩
  generalize (publishAll module).run session = outcome at *
  obtain ⟨result, after⟩ := outcome
  dsimp only at hresult hpublishes hdraft hstarted' hready' ⊢
  have hentries : ∀ name, result.exports.get? name = firstEntry held published module name := by
    intro name
    rw [hresult, get?_foldl_publish]
    exact congrArg _ (hstarted.exports name)
  have hsame := foldl_publish_eq published module
  rw [← hresult] at hsame
  generalize result.exports = exports at hsame hentries
  generalize result.unnamedDefault = unnamed at hsame
  subst hsame
  have halike : module.Alike { module with exports, unnamedDefault := unnamed } :=
    ⟨rfl, rfl, rfl⟩
  refine ⟨⟨hdraft, hstarted.covered, ?_, hstarted'.stars, held, published, ?_, hstarted'.holds,
    hentries⟩, rfl, rfl⟩
  · exact List.Forall₂.imp (fun clause binding h => ⟨h.name, h.imported, h.target, h.resolved⟩)
      hready'.2
  · exact (Extends.refl after).publishes halike _ _ hpublishes

theorem asking_connect (module : Module) (held : ModuleId → Table RecordId)
    (hcovered : module.Covered) (hunnamed : module.unnamedDefault = none) :
    Asking module.Asks
      (fun session => Started first module held session ∧ session.SoundDraft module)
      (connect module) (Finishes first module) := by
  have himport := asking_both (asking_importAll module hcovered)
    (keeps_importAll module hunnamed)
  refine asking_bind (stays_and (stays_started module held) (stays_draft module))
    (asking_weaken himport (fun _ hpre => hpre.2) fun _ _ hpost => hpost) fun imported => ?_
  rintro session hsound ⟨⟨hstarted, -⟩, ⟨hsame, himported⟩, hdraft⟩
  generalize imported.imports = imports at hsame
  subst hsame
  have hexports : Asking module.Asks
      (fun session => Started first { module with imports } held session ∧
        session.Ready { module with imports })
      (publishAll { module with imports }) (Finishes first module) := asking_exports _ held
  refine asking_bind (stays_and (stays_started _ held) (stays_ready _)) hexports
    (fun result => asking_bind (stays_and (stays_and (stays_started _ held) (stays_ready _))
      (stays_finishes module result)) (asking_note _ _) fun _ => asking_pure fun _ _ hpre =>
        hpre.1.2) session hsound ?_
  exact ⟨⟨hstarted.covered, hstarted.stars, hstarted.holds, hstarted.exports⟩, hdraft, himported⟩

/-- The tables of a moment are what a module starts from. -/
theorem started_withStars {session : Session} (hsound : session.Sound) {module : Module}
    (hfirst : ∀ id, id < session.modules.length → ∀ name record,
      (first id).get? name = some record → (session.module id).exports.get? name = some record)
    (hdraft : session.SoundDraft module) (hcovered : module.Covered)
    (hexports : module.exports = []) (hstars : module.stars = []) :
    Started first (module.withStars session) (fun id => (session.module id).exports) session := by
  have hmodules : (module.withStars session).starModules = module.starModules := by
    rw [Session.withStars_eq]
    rfl
  refine ⟨?_, ?_, ?_, fun name => ?_⟩
  · rw [Session.withStars_eq]
    exact hcovered
  · rw [stars_withStars module hstars, Session.withStars_eq]
    rfl
  · rw [hmodules]
    intro id hid
    have hvalid : id < session.modules.length :=
      hdraft.opened.targets _ (module.mem_starModules id hid)
    exact ⟨hvalid, fun name record => ⟨hfirst id hvalid name record, fun h => h⟩⟩
  · rw [hmodules, get?_withStars hsound module hdraft.opened.targets, hexports, Table.get?_nil,
      Option.or_none]

def Pending (first : ModuleId → Table RecordId) (module : Module) (session : Session) : Prop :=
  session.Opened module ∧ ∀ id, id < session.modules.length → ∀ name record,
    (first id).get? name = some record → (session.module id).exports.get? name = some record

theorem stays_pending {asks : Target → String → Prop} (module : Module) :
    Stays asks (Pending first module) := by
  intro before after hsound hanswers ⟨hopened, hfirst⟩
  refine ⟨steady_opened module before after hsound hanswers.fills hopened,
    fun id hid name record hentry => ?_⟩
  rw [hanswers.fills.length] at hid
  exact hanswers.fills.grows.module_exports id hid name record (hfirst id hid name record hentry)

theorem asking_complete (module : Module) (hexports : module.exports = [])
    (himports : module.imports = []) (hstars : module.stars = [])
    (hunnamed : module.unnamedDefault = none) (hcovered : module.Covered) :
    Asking module.Asks (Pending first module) (complete module) (Finishes first module) := by
  intro session hsound ⟨hopened, hfirst⟩
  have hdeclare := keeps_declareAll { module with uses := module.program.uses } rfl hexports
    himports hstars hunnamed session hsound ⟨hopened.id_eq, hopened.targets⟩
  rw [run_declareAll] at hdeclare
  dsimp only at hdeclare
  obtain ⟨hfills, hdraft, -⟩ := hdeclare
  generalize hdeclared : ({ module with
    uses := module.program.uses
    bindings := List.range' session.bindings.length module.program.declarations.length } : Module)
      = declared at *
  generalize hafter : ({ session with
    bindings := session.bindings ++ module.program.declarations.map
      (newBindingOf { module with uses := module.program.uses }) } : Session) = after at *
  have hrun : (complete module).run session = (connect (declared.withStars after)).run after := by
    change (declareAll { module with uses := module.program.uses } >>=
      fun declared => get >>= fun session => connect (declared.withStars session)).run session = _
    rw [run_bind, run_bind, run_get, run_declareAll, ← hdeclared, ← hafter]
  rw [hrun]
  have hquiet : session.Answers module.Asks after :=
    .of_same hfills (fun id => by rw [← hafter]; rfl) fun id => by rw [← hafter]; rfl
  have hasks : (declared.withStars after).Asks = module.Asks := by
    rw [Session.withStars_eq, ← hdeclared]
    rfl
  have hstarted := started_withStars hfills.sound (fun id hid name record hentry =>
    hfills.grows.module_exports id (hfills.length ▸ hid) name record
      (hfirst id (hfills.length ▸ hid) name record hentry)) hdraft
    (by rw [← hdeclared]; exact hcovered)
    (by rw [← hdeclared]; exact hexports) (by rw [← hdeclared]; exact hstars)
  have hconnect := asking_connect (declared.withStars after) _ hstarted.covered
    (Session.withStars_unnamedDefault.trans (by rw [← hdeclared]; exact hunnamed)) after
      hfills.sound ⟨hstarted, draft_withStars hfills.sound hdraft⟩
  rw [hasks] at hconnect
  refine ⟨hquiet.trans hconnect.1, hconnect.2.1, hconnect.2.2.1.trans ?_,
    hconnect.2.2.2.trans ?_⟩
  · rw [Session.withStars_eq, ← hdeclared]
  · rw [Session.withStars_eq, ← hdeclared]

end InSession

namespace Building

/-! ## Builds -/

/-- From a sound and wired session with some property, a step leaves a session that is sound and
wired, and if it succeeds, a result with another property. -/
structure Weaves {α : Type} (pre : Session → Prop) (action : Building α)
    (post : α → Session → Prop) : Prop where
  keeps : Keeps pre action post
  wired : ∀ session, session.Sound → (∃ first, session.Wired first) → pre session →
    ∃ first, (action.run session).2.Wired first

section

variable {α β : Type} {pre : Session → Prop}

theorem weaves_weaken {pre' : Session → Prop} {action : Building α}
    {post post' : α → Session → Prop} (h : Weaves pre action post)
    (hpre : ∀ session, pre' session → pre session)
    (hpost : ∀ value session, post value session → post' value session) :
    Weaves pre' action post' :=
  ⟨keeps_weaken h.keeps hpre hpost, fun session hsound hwired hp =>
    h.wired session hsound hwired (hpre session hp)⟩

theorem weaves_pure {value : α} {post : α → Session → Prop}
    (h : ∀ session, session.Sound → pre session → post value session) :
    Weaves pre (pure value) post :=
  ⟨keeps_pure h, fun _ _ hwired _ => hwired⟩

theorem weaves_throw {error : BundleError} {post : α → Session → Prop} :
    Weaves pre (throw error) post :=
  ⟨keeps_throw, fun _ _ hwired _ => hwired⟩

theorem weaves_quiet {action : Building α} {post : α → Session → Prop} (h : Keeps pre action post)
    (hsame : ∀ session, pre session → (action.run session).2.modules = session.modules ∧
      (action.run session).2.externals = session.externals) : Weaves pre action post := by
  refine ⟨h, fun session hsound hwired hp => ?_⟩
  obtain ⟨hmodules, hexternals⟩ := hsame session hp
  have hmodule : ∀ id, (action.run session).2.module id = session.module id := fun id => by
    rw [Session.module, hmodules, ← Session.module]
  have hexternal : ∀ id, (action.run session).2.external id = session.external id := fun id => by
    rw [Session.external, hexternals, ← Session.external]
  exact hwired.imp fun first hwired => hwired.extends hsound
    (.of_same (h session hsound hp).1 fun id _ => by rw [hmodule]) (by rw [hmodules])
      (fun id => by rw [hmodule]) fun id => by rw [hexternal]

theorem weaves_note (level : Level) (text : String) :
    Weaves pre (liftM (InSession.note level text) : Building Unit) fun _ _ => True :=
  weaves_quiet (keeps_note level text) fun _ _ => ⟨rfl, rfl⟩

theorem weaves_seq {action : Building α} {next : α → Building β} {mid : α → Session → Prop}
    {post : β → Session → Prop} (haction : Weaves pre action mid)
    (hnext : ∀ value, Weaves (mid value) (next value) post) :
    Weaves pre (action >>= next) post := by
  refine ⟨keeps_seq haction.keeps fun value => (hnext value).keeps,
    fun session hsound hwired hp => ?_⟩
  obtain ⟨-, hafter, hvalue⟩ := haction.keeps session hsound hp
  have hwired' := haction.wired session hsound hwired hp
  rw [run_bind]
  generalize action.run session = outcome at *
  obtain ⟨result, after⟩ := outcome
  cases result with
  | error error => exact hwired'
  | ok value => exact (hnext value).wired after hafter hwired' (hvalue value rfl)

theorem weaves_bind {action : Building α} {next : α → Building β} {mid : α → Session → Prop}
    {post : β → Session → Prop} (hpre : Lasting pre) (haction : Weaves pre action mid)
    (hnext : ∀ value, Weaves (fun session => pre session ∧ mid value session) (next value)
      post) :
    Weaves pre (action >>= next) post := by
  refine weaves_seq ⟨fun session hsound hp => ?_, haction.wired⟩ hnext
  obtain ⟨hgrows, hafter, hvalue⟩ := haction.keeps session hsound hp
  exact ⟨hgrows, hafter, fun value heq => ⟨hpre _ _ hsound hgrows hp, hvalue value heq⟩⟩

theorem weaves_mapM {action : α → Building β} {post : α → β → Session → Prop}
    (hpre : Lasting pre) (hpost : ∀ value result, Lasting (post value result)) (values : List α)
    (h : ∀ value ∈ values, Weaves pre (action value) (post value)) :
    Weaves pre (values.mapM action) fun results session =>
      List.Forall₂ (fun value result => post value result session) values results := by
  induction values with
  | nil => exact weaves_pure fun _ _ _ => .nil
  | cons first rest ih =>
    rw [List.mapM_cons]
    refine weaves_bind hpre (h first List.mem_cons_self) fun result => ?_
    refine weaves_bind (lasting_and hpre (hpost first result))
      (weaves_weaken (ih fun value hvalue => h value (List.mem_cons_of_mem _ hvalue))
        (fun _ hp => hp.1) fun _ _ hresults => hresults) fun results => ?_
    exact weaves_pure fun _ _ hp => .cons hp.1.2 hp.2

end

/-! ### Steps of a build -/

theorem weaves_intern (specifier : String) (pre : Session → Prop) :
    Weaves pre (liftM (InSession.intern specifier) : Building ExternalId)
      fun id session => session.Valid (.external id) := by
  refine ⟨keeps_intern specifier pre, fun session hsound hwired hp => ?_⟩
  rw [run_lift, InSession.run_intern]
  cases session.externalNamed? specifier with
  | some id => exact hwired
  | none =>
    have hgrows := Session.Grows.addExternal session specifier
    refine hwired.imp fun first hwired =>
      hwired.extends hsound (.of_same hgrows fun _ _ => rfl) rfl (fun _ => rfl) fun id => ?_
    rw [Session.external_addExternal]
    split
    · rename_i heq
      simp [heq, Session.external, External.blank]
    · rfl

theorem answers_addDependent {asks : Target → String → Prop} (session : Session)
    (hsound : session.Sound) (id : ModuleId) (target : Target) :
    session.Answers asks ((InSession.addDependent id target).run session).2 := by
  apply Session.Answers.of_same (.addDependent session hsound id target)
  · intro other
    cases target with
    | external dependency => rfl
    | module dependency =>
      change ((session.setModule dependency _).module other).exports = _
      rw [Session.module_setModule]
      split
      · rename_i heq
        rw [heq.1]
      · rfl
  · intro other
    cases target with
    | module dependency => rfl
    | external dependency =>
      change ((session.setExternal dependency _).external other).exports = _
      rw [Session.external_setExternal]
      split
      · rename_i heq
        rw [heq.1]
      · rfl

theorem asking_prepare {first : ModuleId → Table RecordId} (module : Module)
    (hexports : module.exports = []) (himports : module.imports = []) (hstars : module.stars = [])
    (hunnamed : module.unnamedDefault = none) (hcovered : module.Covered) :
    InSession.Asking module.Asks (InSession.Pending first module) (prepare module)
      (InSession.Finishes first module) := by
  have hpending : InSession.Stays module.Asks (InSession.Pending first module) :=
    InSession.stays_pending module
  have hdependents : InSession.Asking module.Asks (InSession.Pending first module)
      (module.dependencies.values.forM (InSession.addDependent module.id)) fun _ _ => True :=
    InSession.asking_forM_quiet hpending _ fun target _ session hsound _ =>
      ⟨answers_addDependent session hsound module.id target, trivial⟩
  exact InSession.asking_bind hpending hdependents fun _ => InSession.asking_weaken
    (InSession.asking_complete module hexports himports hstars hunnamed hcovered)
      (fun _ hpre => hpre.1) fun _ _ hpost => hpost

/-- A module whose specifiers lead to targets of the session is stored wired. -/
theorem weaves_finish (path : Path) (isEntry : Bool) (text : String) (program : Program)
    (dependencies : Table Target) :
    Weaves (fun session => dependencies.names = program.specifiers ∧
        ∀ target ∈ dependencies.values, session.Valid target)
      (liftM (finish path isEntry text program dependencies) : Building ModuleId)
      fun id session => session.Valid (.module id) := by
  refine ⟨keeps_weaken (keeps_finish path isEntry text program dependencies) (fun _ h => h.2)
    fun _ _ h => h, fun session hsound ⟨first, hwired⟩ ⟨hnames, htargets⟩ => ?_⟩
  have hopened : session.Opened (newModule session path isEntry text program dependencies) :=
    ⟨rfl, htargets⟩
  have hcovered : (newModule session path isEntry text program dependencies).Covered := by
    intro specifier hspecifier
    change specifier ∈ program.specifiers at hspecifier
    rw [← hnames] at hspecifier
    exact Option.ne_none_iff_exists'.mp fun hnone =>
      (Table.get?_eq_none dependencies specifier).mp hnone hspecifier
  have hfirst : ∀ id, id < session.modules.length → ∀ name record,
      (first id).get? name = some record →
        (session.module id).exports.get? name = some record := by
    intro id hid name record hentry
    have hkept := (hwired.completed id hid).kept name record
    rw [hsound.id_eq id hid] at hkept
    exact hkept hentry
  obtain ⟨hanswers, hfinished, hprogram, hdependencies⟩ :=
    asking_prepare _ rfl rfl rfl rfl hcovered session hsound ⟨hopened, hfirst⟩
  rw [run_lift_finish]
  generalize (prepare (newModule session path isEntry text program dependencies)).run session =
    prepared at *
  have hasks : prepared.1.Asks =
      (newModule session path isEntry text program dependencies).Asks := by
    unfold Module.Asks Module.target?
    rw [hprogram, hdependencies]
  rw [← hasks] at hanswers
  exact ⟨_, Session.wired_store hsound hwired hanswers hfinished⟩

theorem wired_aside {session : Session} (hsound : session.Sound)
    (h : ∃ first, session.Wired first) (journal : Journal) (comments : Comments)
    (nextOffset : Nat) :
    ∃ first, ({ session with journal, comments, nextOffset } : Session).Wired first :=
  h.imp fun _ hwired => hwired.extends hsound
    (.of_same (grows_aside session journal comments nextOffset) fun _ _ => rfl) rfl (fun _ => rfl)
      fun _ => rfl

theorem Weaves.aside {α : Type} {action : Building α} {post : α → Session → Prop}
    (h : Weaves (fun _ => True) action post) {session : Session} (hsound : session.Sound)
    (hwired : ∃ first, session.Wired first) {journal : Journal} {comments : Comments}
    {nextOffset : Nat} {outcome : Except BundleError α × Session}
    (hrun : action.run { session with journal, comments, nextOffset } = outcome) :
    ∃ first, outcome.2.Wired first := by
  rw [← hrun]
  exact h.wired _ (sound_aside hsound journal comments nextOffset)
    (wired_aside hsound hwired journal comments nextOffset) trivial

theorem weaves_follow (tree : FileTree) (path : Path) (loadFile : Path → Building ModuleId)
    (hload : ∀ file, Weaves (fun _ => True) (loadFile file)
      fun id session => session.Valid (.module id)) (specifier : String) :
    Weaves (fun _ => True) (follow tree path loadFile specifier)
      fun entry session => entry.1 = specifier ∧ session.Valid entry.2 := by
  refine ⟨keeps_follow tree path loadFile (fun file => (hload file).keeps) specifier,
    fun session hsound hwired _ => ?_⟩
  have hcases := follow_cases tree path loadFile specifier session
  generalize (follow tree path loadFile specifier).run session = outcome at hcases ⊢
  cases hcases with
  | unresolved journal => exact wired_aside hsound hwired journal _ _
  | failed journal file _ _ hrun => exact (hload file).aside hsound hwired hrun
  | loaded journal file _ _ hrun => exact (hload file).aside hsound hwired hrun
  | external => exact (weaves_intern specifier (fun _ => True)).wired session hsound hwired trivial

theorem weaves_load (tree : FileTree) (depth : Nat) (underWay : List Path) (isEntry : Bool)
    (path : Path) :
    Weaves (fun _ => True) (load tree depth underWay isEntry path)
      fun id session => session.Valid (.module id) := by
  induction depth generalizing underWay isEntry path with
  | zero => exact weaves_throw
  | succ depth ih =>
    refine ⟨keeps_load tree _ underWay isEntry path, fun session hsound hwired _ => ?_⟩
    have hcases := load_cases tree depth underWay isEntry path session
    generalize (load tree (depth + 1) underWay isEntry path).run session = outcome at hcases ⊢
    cases hcases with
    | reused journal => exact wired_aside hsound hwired journal _ _
    | circular => exact hwired
    | unread journal => exact wired_aside hsound hwired journal _ _
    | @followed program _ journal comments nextOffset offset text _ _ _ hrun =>
      have hfollowed := weaves_mapM lasting_true (fun specifier (entry : String × Target) =>
        lasting_and (fun _ _ _ _ h => h) (lasting_valid entry.2))
        (program.moved offset).resolve.specifiers fun specifier _ =>
          weaves_follow tree path _ (fun file => ih (underWay ++ [path]) false file) specifier
      refine (weaves_seq hfollowed fun entries =>
        weaves_weaken (weaves_finish path isEntry text (program.moved offset).resolve entries)
          (fun session hpre => ⟨?_, fun target htarget => ?_⟩) fun _ _ hpost => hpost).aside hsound
            hwired hrun
      · exact (forall₂_map_eq (fun specifier : String => specifier) Prod.fst
          (fun _ _ h => h.1) hpre).trans (List.map_id' _)
      · obtain ⟨entry, hentry, rfl⟩ := List.mem_map.mp htarget
        obtain ⟨_, _, hvalid⟩ := forall₂_mem_right hpre entry hentry
        exact hvalid.2

theorem weaves_build (tree : FileTree) (entry : Path) :
    Weaves (fun _ => True) (build tree entry) fun id session => session.Valid (.module id) := by
  refine ⟨keeps_build tree entry, fun session hsound hwired _ => ?_⟩
  obtain ⟨journal, remark, hbuild⟩ := run_build tree entry session
  rw [hbuild]
  generalize hrun : (load tree _ [] true _).run _ = outcome
  obtain ⟨result, after⟩ := outcome
  have hwired' := (weaves_load tree _ [] true _).aside hsound hwired hrun
  obtain ⟨-, hafter, -⟩ := (keeps_load tree _ [] true _).aside session hsound journal _ _ hrun
  cases result with
  | error error => exact hwired'
  | ok id => exact wired_aside hafter hwired' (remark after) _ _

end Building

end ScopeHoist
