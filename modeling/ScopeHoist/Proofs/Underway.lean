import ScopeHoist.Proofs.Constancy

/-!
# Sessions under way

All that is ever done to a session while graphs are built and records are asked for, one thing at a
time. Tables get entries and ambiguities are told only when a question is asked, so that what every
question keeps is kept by all builds.
-/

set_option autoImplicit false

namespace ScopeHoist

namespace Session

/-! ## Steps -/

/-- What is done to a session at once. -/
inductive Step (before : Session) : Session → Prop
  /-- Something is read, noted down, declared or recorded. -/
  | aside (after : Session) (hmodules : after.modules = before.modules)
      (hexternals : after.externals = before.externals)
      (hwarnings : after.warnings = before.warnings)
      (hrecords : before.records <+: after.records)
      (hbindings : before.bindings <+: after.bindings) : before.Step after
  /-- An external becomes known by its specifier. -/
  | intern (specifier : String) : before.Step ((InSession.intern specifier).run before).2
  /-- A module is entered as one that depends on a target. -/
  | link (id : ModuleId) (target : Target) (hvalid : before.Valid target) :
      before.Step ((InSession.addDependent id target).run before).2
  | ask (question : Question) (hvalid : before.Valid question.target) (preferred : String)
      (exportedFrom : Option String) :
      before.Step ((question.ask preferred exportedFrom).run before).2
  /-- A name that was asked for is told to be missing. -/
  | miss (importer : Path) (specifier name : String) :
      before.Step (before.report (.missingExport importer specifier name))
  /-- A module is stored that fits in. -/
  | store (module : Module) (hgrounded : (before.store module).Grounded)
      (hdistinct : (before.store module).PathsDistinct) : before.Step (before.store module)

def Steps : Session → Session → Prop := Relation.ReflTransGen Step

/-- What a session can be like at any time, beginning with a new one. -/
def Underway (options : BundleOptions) (session : Session) : Prop :=
  (Session.new options).Steps session

theorem step_note (session : Session) (level : Level) (text : String) :
    session.Step (session.note level text) :=
  .aside _ rfl rfl rfl List.prefix_rfl List.prefix_rfl

variable {before after : Session}

theorem Step.grows (h : before.Step after) (hgrounded : before.Grounded) : before.Grows after := by
  cases h with
  | aside after hmodules hexternals hwarnings hrecords hbindings =>
    exact .of_same hmodules hexternals hrecords hbindings
  | intern specifier =>
    rw [InSession.run_intern]
    split
    · exact .refl before
    · exact .addExternal before specifier
  | link id target hvalid => exact (before.announces_addDependent id target hvalid).grows
  | ask question hvalid preferred exportedFrom =>
    exact (question.edits_ask preferred exportedFrom before hgrounded hvalid).1.serves.grows
  | miss importer specifier name => exact (before.edited_report _).serves.grows
  | store module => exact .store before module

theorem Step.grounded (h : before.Step after) (hgrounded : before.Grounded) : after.Grounded := by
  have hgrows := h.grows hgrounded
  cases h with
  | aside after hmodules hexternals => exact hgrounded.of_same hgrows hmodules hexternals
  | intern specifier =>
    rw [InSession.run_intern]
    split
    · exact hgrounded
    · exact hgrounded.addExternal specifier
  | link id target hvalid =>
    exact hgrounded.announced (before.announces_addDependent id target hvalid)
  | ask question hvalid preferred exportedFrom =>
    exact hgrounded.edited (question.edits_ask preferred exportedFrom before hgrounded hvalid).1
  | miss importer specifier name => exact hgrounded.edited (before.edited_report _)
  | store module hstored => exact hstored

theorem Step.distinct (h : before.Step after) (hgrounded : before.Grounded)
    (hdistinct : before.PathsDistinct) : after.PathsDistinct := by
  have hgrows := h.grows hgrounded
  have hsame : after.modules.length = before.modules.length → after.PathsDistinct :=
    fun hlength => hdistinct.grows hgrows hlength
  cases h with
  | aside after hmodules => exact hsame (by rw [hmodules])
  | intern specifier =>
    apply hsame
    rw [InSession.run_intern]
    split <;> rfl
  | link id target hvalid => exact hsame (before.announces_addDependent id target hvalid).length
  | ask question hvalid preferred exportedFrom =>
    exact hsame
      (question.edits_ask preferred exportedFrom before hgrounded hvalid).1.serves.length
  | miss importer specifier name => exact hsame (before.edited_report _).serves.length
  | store module _ hstored => exact hstored

theorem Steps.grounded (h : before.Steps after) (hgrounded : before.Grounded) :
    after.Grounded := by
  induction h with
  | refl => exact hgrounded
  | tail _ hlast ih => exact hlast.grounded ih

theorem Steps.grows (h : before.Steps after) (hgrounded : before.Grounded) :
    before.Grows after := by
  induction h with
  | refl => exact .refl before
  | tail hsteps hlast ih => exact ih.trans (hlast.grows (Steps.grounded hsteps hgrounded))

theorem Steps.aside (session : Session) (journal : Journal) (comments : Comments)
    (nextOffset : Nat) : session.Steps { session with journal, comments, nextOffset } :=
  .single (.aside _ rfl rfl rfl List.prefix_rfl List.prefix_rfl)

end Session

/-! ## Actions that consist of steps -/

namespace InSession

open Session

/-- With some targets in the session, an action is nothing but steps. -/
def Paces {α : Type} (targets : List Target) (action : InSession α) : Prop :=
  ∀ session : Session, session.Grounded → (∀ target ∈ targets, session.Valid target) →
    session.Steps (action.run session).2

section

variable {α β : Type} {targets : List Target}

theorem paces_pure (value : α) : Paces targets (pure value : InSession α) :=
  fun _ _ _ => .refl

theorem paces_single {action : InSession α}
    (h : ∀ session : Session, session.Step (action.run session).2) :
    Paces targets action := fun session _ _ => .single (h session)

theorem paces_then {action : InSession α} {next : α → InSession β} (h : Paces targets action)
    (hnext : ∀ session : Session, Paces targets (next (action.run session).1)) :
    Paces targets (action >>= next) := fun session hgrounded hvalid => by
  have hfirst := h session hgrounded hvalid
  exact hfirst.trans (hnext session _ (hfirst.grounded hgrounded) fun target htarget =>
    (hfirst.grows hgrounded).valid target (hvalid target htarget))

theorem paces_bind {action : InSession α} {next : α → InSession β} (h : Paces targets action)
    (hnext : ∀ value, Paces targets (next value)) : Paces targets (action >>= next) :=
  paces_then h fun _ => hnext _

theorem paces_get {next : Session → InSession β} (h : ∀ session, Paces targets (next session)) :
    Paces targets (get >>= next) := fun session => h session session

theorem paces_mapM {action : α → InSession β} (values : List α)
    (h : ∀ value, Paces targets (action value)) : Paces targets (values.mapM action) := by
  induction values with
  | nil => exact paces_pure []
  | cons first rest ih =>
    rw [List.mapM_cons]
    exact paces_bind (h first) fun result => paces_bind ih fun results => paces_pure _

theorem paces_note (level : Level) (text : String) : Paces targets (note level text) :=
  paces_single fun session => session.step_note level text

theorem paces_newRecord (record : ExportRecord) : Paces targets (newRecord record) :=
  paces_single fun _ => .aside _ rfl rfl rfl (List.prefix_append _ _) List.prefix_rfl

theorem paces_addDependent (id : ModuleId) (target : Target) (htarget : target ∈ targets) :
    Paces targets (addDependent id target) := fun _ _ hvalid =>
  .single (.link id target (hvalid target htarget))

theorem paces_addDependents (id : ModuleId) (some : List Target) (hsome : some ⊆ targets) :
    Paces targets (some.forM (addDependent id)) := by
  induction some with
  | nil => exact paces_pure ()
  | cons first rest ih =>
    exact paces_bind (paces_addDependent id first (hsome List.mem_cons_self)) fun _ =>
      ih fun target htarget => hsome (List.mem_cons_of_mem _ htarget)

theorem paces_ask (question : Question) (htarget : question.target ∈ targets)
    (preferred : String) (exportedFrom : Option String) :
    Paces targets (question.ask preferred exportedFrom) := fun _ _ hvalid =>
  .single (.ask question (hvalid _ htarget) preferred exportedFrom)

theorem paces_targetRecord? (target : Target) (htarget : target ∈ targets)
    (name preferred : String) : Paces targets (targetRecord? target name preferred) := by
  cases target with
  | external id => exact paces_ask (.foreign id name) htarget preferred none
  | module id =>
    simp only [targetRecord?]
    split
    · exact paces_ask (.aggregate id) htarget preferred none
    · exact paces_ask (.named id name) htarget preferred none

theorem paces_request (module : Module) (target : Target) (htarget : target ∈ targets)
    (specifier name preferred : String) :
    Paces targets (request module target specifier name preferred) := by
  refine paces_bind (paces_targetRecord? target htarget name preferred) fun result => ?_
  cases result with
  | some record => exact paces_pure _
  | none =>
    exact paces_bind (paces_single fun _ => .miss module.path specifier name) fun _ => paces_pure _

end

/-! ### Parts of an interface -/

section

variable (module : Module)

theorem paces_importName (target : Target) (htarget : target ∈ module.dependencyTargets)
    (source : String) (specifier : ImportSpecifier) :
    Paces module.dependencyTargets (importName module target source specifier) :=
  paces_bind (paces_request module target htarget source _ _) fun _ =>
    paces_bind (paces_note _ _) fun _ => paces_pure _

theorem paces_importsOf (item : Item) :
    Paces module.dependencyTargets (importsOf module item) := by
  cases item with
  | importFrom specifiers source span =>
    simp only [importsOf]
    cases htarget : module.target? source.value with
    | none => exact paces_pure []
    | some target =>
      exact paces_mapM specifiers fun specifier =>
        paces_importName module target (target?_mem module _ target htarget) source.value specifier
  | _ => exact paces_pure []

theorem paces_importAll : Paces module.dependencyTargets (importAll module) :=
  paces_bind (paces_mapM _ (paces_importsOf module)) fun _ => paces_pure _

theorem paces_publishBinding (name : String) (id : BindingId) :
    Paces module.dependencyTargets (publishBinding module name id) := by
  refine paces_get fun session => ?_
  split
  · exact paces_bind (paces_newRecord _) fun _ => paces_pure _
  · exact paces_pure []

theorem paces_publishUnnamed : Paces module.dependencyTargets (publishUnnamed module) :=
  paces_bind (paces_newRecord _) fun _ => paces_pure _

theorem paces_publishDeclared (ids : List Ident) :
    Paces module.dependencyTargets (publishDeclared module ids) := by
  refine paces_bind (paces_mapM ids fun id => paces_get fun session => ?_) fun _ => paces_pure _
  split
  · exact paces_publishBinding module _ _
  · exact paces_pure []

theorem paces_publishLocal (name : String) (id : Ident) :
    Paces module.dependencyTargets (publishLocal module name id) := by
  refine paces_get fun session => ?_
  split
  · exact paces_publishBinding module _ _
  · split
    · exact paces_pure _
    · exact paces_bind (paces_note _ _) fun _ => paces_pure []

theorem paces_publishSpecifier (specifier : ExportSpecifier) :
    Paces module.dependencyTargets (publishSpecifier module specifier) := by
  unfold publishSpecifier
  split
  · exact paces_publishLocal module _ _
  · exact paces_pure []

theorem paces_publishFrom (target : Target) (htarget : target ∈ module.dependencyTargets)
    (source : String) (specifier : ExportSpecifier) :
    Paces module.dependencyTargets (publishFrom module target source specifier) :=
  paces_bind (paces_request module target htarget source _ _) fun _ => paces_pure _

theorem paces_publishDefaultDecl (decl : Tree) :
    Paces module.dependencyTargets (publishDefaultDecl module decl) := by
  unfold publishDefaultDecl
  split
  · refine paces_get fun session => ?_
    split
    · exact paces_publishBinding module _ _
    · exact paces_publishUnnamed module
  · exact paces_publishUnnamed module

theorem paces_publishDefault (value : Tree) :
    Paces module.dependencyTargets (publishDefault module value) := by
  cases value with
  | node form span children => exact paces_publishUnnamed module
  | ident id =>
    refine paces_get fun session => ?_
    split
    · split
      · exact paces_publishBinding module _ _
      · exact paces_publishUnnamed module
    · split
      · exact paces_pure _
      · exact paces_publishUnnamed module

theorem paces_publishedBy (item : Item) :
    Paces module.dependencyTargets (publishedBy module item) := by
  cases item with
  | exportDecl decl span => exact paces_publishDeclared module _
  | exportList specifiers span =>
    exact paces_bind (paces_mapM specifiers (paces_publishSpecifier module)) fun _ => paces_pure _
  | exportFrom specifiers source span =>
    simp only [publishedBy]
    cases htarget : module.target? source.value with
    | none => exact paces_pure []
    | some target =>
      exact paces_bind (paces_mapM specifiers
        (paces_publishFrom module target (target?_mem module _ target htarget) source.value))
        fun _ => paces_pure _
  | exportDefaultDecl decl span => exact paces_publishDefaultDecl module decl
  | exportDefault value span => exact paces_publishDefault module value
  | _ => exact paces_pure []

theorem paces_publishAll : Paces module.dependencyTargets (publishAll module) :=
  paces_bind (paces_mapM _ (paces_publishedBy module)) fun _ => paces_pure _

theorem paces_connect : Paces module.dependencyTargets (connect module) := by
  refine paces_then (paces_importAll module) fun session => ?_
  exact paces_bind (paces_publishAll ((importAll module).run session).1) fun _ =>
    paces_bind (paces_note _ _) fun _ => paces_pure _

theorem paces_complete : Paces module.dependencyTargets (complete module) := by
  change Paces _ (declareAll { module with uses := module.program.uses } >>= fun declared =>
    get >>= fun session => connect (declared.withStars session))
  have hdeclare : Paces module.dependencyTargets
      (declareAll { module with uses := module.program.uses }) := paces_single fun session => by
    rw [run_declareAll]
    exact .aside _ rfl rfl rfl List.prefix_rfl (List.prefix_append _ _)
  refine paces_then hdeclare fun session => paces_get fun current => ?_
  have hconnect := paces_connect
    (((declareAll { module with uses := module.program.uses }).run session).1.withStars current)
  rw [Session.withStars_eq] at hconnect ⊢
  exact hconnect

end

end InSession

/-! ## Builds -/

/-- How a session came about while files are under way. -/
structure Session.Treads (underWay : List Path) (before after : Session) : Prop where
  proceeds : before.Proceeds underWay after
  steps : before.Steps after

theorem Session.Treads.trans {underWay : List Path} {first second third : Session}
    (h : first.Treads underWay second) (h' : second.Treads underWay third) :
    first.Treads underWay third :=
  ⟨h.proceeds.trans h'.proceeds, h.steps.trans h'.steps⟩

namespace Building

open Session

theorem steps_finish {underWay : List Path} (path : Path) (isEntry : Bool) (text : String)
    (program : Program) (dependencies : Table Target) (session : Session) (h : session.Coherent)
    (hlacks : session.Lacks (underWay ++ [path])) (hnew : path ∉ underWay)
    (htargets : ∀ target ∈ dependencies.values, session.Valid target) :
    session.Steps ((finish path isEntry text program dependencies).run session).2 := by
  have harrives := arrives_finish path isEntry text program dependencies session h hlacks hnew
    htargets
  have hprepare : session.Steps ((prepare
      (newModule session path isEntry text program dependencies)).run session).2 :=
    InSession.paces_bind (InSession.paces_addDependents session.modules.length dependencies.values
      (List.Subset.refl _)) (fun _ => InSession.paces_complete
        (newModule session path isEntry text program dependencies)) session h.grounded htargets
  rw [run_finish] at harrives ⊢
  exact hprepare.tail (.store _ harrives.coherent.grounded
    ((pathsDistinct_iff _).mpr harrives.coherent.paths))

theorem treads_follow (tree : FileTree) {underWay : List Path} (path : Path)
    (loadFile : Path → Building ModuleId)
    (hload : ∀ file (mid : Session), mid.Coherent → mid.Lacks underWay →
      Meets (fun session => session = mid) (loadFile file) (mid.Arrives underWay false)
        fun _ => mid.Proceeds underWay)
    (hsteps : ∀ file (mid : Session), mid.Coherent → mid.Lacks underWay →
      Meets (fun session => session = mid) (loadFile file) (fun _ => mid.Steps)
        fun _ => mid.Steps)
    (specifier : String) (start : Session) (hcoherent : start.Coherent)
    (hlacks : start.Lacks underWay) :
    Meets (fun session => session = start) (follow tree path loadFile specifier)
      (fun entry session => start.Treads underWay session ∧ session.Valid entry.2)
      fun _ => start.Treads underWay := by
  have hbegin : start.Proceeds underWay start := .start hcoherent hlacks
  have hway : Meets (fun session => session = start) (follow tree path loadFile specifier)
      (fun _ => start.Steps) fun _ => start.Steps := by
    apply meets_follow
    · exact fun journal _ _ => .aside start journal _ _
    · intro journal file _ _
      have haside := hbegin.aside journal start.comments start.nextOffset
      have hstep := Steps.aside start journal start.comments start.nextOffset
      exact meets_weaken (hsteps file _ haside.coherent haside.lacks) (fun _ heq => heq)
        (fun _ _ h => hstep.trans h) fun _ _ h => hstep.trans h
    · exact fun _ => .single (.intern specifier)
  exact meets_weaken (meets_both
    (proceeds_follow tree path loadFile hload specifier start hcoherent hlacks) hway)
    (fun _ heq => heq) (fun _ _ h => ⟨⟨h.1.1, h.2⟩, h.1.2⟩) fun _ _ h => ⟨h.1, h.2⟩

/-- Whether it succeeds or fails, loading a file takes steps. -/
theorem steps_load (tree : FileTree) (depth : Nat) (isEntry : Bool) {underWay : List Path}
    (path : Path) {before : Session} (hcoherent : before.Coherent)
    (hlacks : before.Lacks underWay) :
    Meets (fun session => session = before) (load tree depth underWay isEntry path)
      (fun _ => before.Steps) fun _ => before.Steps := by
  induction depth generalizing underWay isEntry path before with
  | zero => exact meets_throw fun session heq => heq ▸ .refl
  | succ depth ih =>
    apply meets_load_succ
    case hreused => exact fun journal _ _ => .aside before journal _ _
    case hcircular => exact fun _ _ => .refl
    case hunread => exact fun journal _ _ _ _ => .aside before journal _ _
    case hfollowed =>
      intro journal comments nextOffset offset text program habsent hnew _
      have hopen : before.Proceeds (underWay ++ [path]) before :=
        .start hcoherent (hlacks.concat habsent)
      have hfollowed := meets_followAll (Session.Treads (underWay ++ [path])) before
        (fun _ _ _ h h' => h.trans h') (fun _ _ h => h.proceeds.carries.grows)
        (program.moved offset).resolve.specifiers fun specifier start hstart =>
          treads_follow tree path _ (fun file _ => meets_load tree depth false file)
            (fun file _ => ih false file) specifier start hstart.proceeds.coherent
            hstart.proceeds.lacks
      refine meets_weaken (meets_bind _ hfollowed fun entries => meets_lift fun session hp => ?_)
        (fun session heq => heq ▸ ⟨hopen.aside journal comments nextOffset,
          .aside before journal comments nextOffset⟩) (fun _ _ h => h) fun _ _ h => h.steps
      refine hp.1.steps.trans (steps_finish path isEntry text _ entries session
        hp.1.proceeds.coherent hp.1.proceeds.lacks hnew fun target htarget => ?_)
      obtain ⟨entry, hentry, rfl⟩ := List.mem_map.mp htarget
      exact hp.2 entry hentry

theorem steps_build (tree : FileTree) (entry : Path) {before : Session}
    (hcoherent : before.Coherent) : before.Steps ((build tree entry).run before).2 := by
  obtain ⟨journal, remark, hbuild⟩ := run_build tree entry before
  have hstart : before.Steps { before with journal } := .aside before journal _ _
  obtain ⟨hok, hfail⟩ := steps_load tree (tree.entries.length + 2) true
    (canonicalOr tree entry .empty).1 (hcoherent.of_same rfl rfl rfl rfl rfl : Session.Coherent
      { before with journal }) (fun _ _ => List.not_mem_nil) _ rfl
  rw [hbuild]
  generalize (load tree (tree.entries.length + 2) [] true (canonicalOr tree entry .empty).1).run
    { before with journal } = outcome at *
  obtain ⟨result, after⟩ := outcome
  cases result with
  | ok id => exact (hstart.trans (hok id rfl)).trans (Steps.aside after (remark after) _ _)
  | error error => exact hstart.trans (hfail error rfl)

end Building

theorem Session.Later.steps {before after : Session} (h : before.Later after)
    (hcoherent : before.Coherent) : before.Steps after := by
  induction h with
  | refl => exact .refl
  | build h tree entry ih => exact ih.trans (Building.steps_build tree entry (h.coherent hcoherent))
  | ask _ question hvalid preferred exportedFrom ih =>
    exact ih.tail (.ask question hvalid preferred exportedFrom)

theorem Session.FromBuilds.later {options : BundleOptions} {session : Session}
    (h : session.FromBuilds options) : (Session.new options).Later session := by
  induction h with
  | new => exact .refl
  | build h tree hdir entry ih => exact ih.build tree entry

end ScopeHoist
