import ScopeHoist.Proofs.Assembly

/-!
# What builds read of the options

A build looks at the options for nothing but the endings of file names, and leaves them as they are.
So two runs whose options differ in other things build the same graph.
-/

set_option autoImplicit false

namespace ScopeHoist

def Session.withOptions (session : Session) (options : BundleOptions) : Session :=
  { session with options }

namespace InSession

/-- A step that does the same whatever the options are, and keeps them. -/
def Blind {α : Type} (action : InSession α) : Prop :=
  ∀ (session : Session) (options : BundleOptions),
    action.run (session.withOptions options) =
      ((action.run session).1, (action.run session).2.withOptions options)

/-! ## Steps put together -/

section

variable {α β : Type}

theorem blind_pure (value : α) : Blind (pure value : InSession α) := fun _ _ => rfl

theorem blind_bind {action : InSession α} {next : α → InSession β} (h : Blind action)
    (hnext : ∀ value, Blind (next value)) : Blind (action >>= next) := by
  intro session options
  rw [run_bind, run_bind, h session options]
  exact hnext _ _ options

theorem blind_get {next : Session → InSession β}
    (hsame : ∀ session options, next (Session.withOptions session options) = next session)
    (h : ∀ session, Blind (next session)) : Blind (get >>= next) := by
  intro session options
  rw [run_bind, run_bind, run_get, run_get, hsame]
  exact h session session options

theorem blind_modify {change : Session → Session}
    (h : ∀ session options,
      change (Session.withOptions session options) = (change session).withOptions options) :
    Blind (modify change : InSession Unit) := by
  intro session options
  rw [run_modify, run_modify, h]

theorem blind_mapM {action : α → InSession β} (values : List α)
    (h : ∀ value ∈ values, Blind (action value)) : Blind (values.mapM action) := by
  induction values with
  | nil => exact blind_pure []
  | cons first rest ih =>
    rw [List.mapM_cons]
    apply blind_bind (h first List.mem_cons_self)
    intro result
    apply blind_bind (ih fun value hvalue => h value (List.mem_cons_of_mem _ hvalue))
    exact fun results => blind_pure _

theorem blind_forM {action : α → InSession Unit} (values : List α)
    (h : ∀ value, Blind (action value)) : Blind (values.forM action) := by
  induction values with
  | nil => exact blind_pure ()
  | cons first rest ih => exact blind_bind (h first) fun _ => ih

end

/-! ## Basic steps -/

theorem blind_note (level : Level) (text : String) : Blind (note level text) := fun _ _ => rfl

theorem blind_newRecord (record : ExportRecord) : Blind (newRecord record) := fun _ _ => rfl

theorem blind_newBinding (binding : Binding) : Blind (newBinding binding) := fun _ _ => rfl

theorem blind_addExternalExport (id : ExternalId) (name : String) (record : RecordId) :
    Blind (addExternalExport id name record) := fun _ _ => rfl

theorem blind_addExport (id : ModuleId) (name : String) (record : RecordId) :
    Blind (addExport id name record) := fun _ _ => rfl

theorem blind_addDependent (id : ModuleId) (target : Target) : Blind (addDependent id target) := by
  cases target <;> exact fun _ _ => rfl

theorem blind_report (warning : Warning) :
    Blind (modify fun session => session.report warning : InSession Unit) := by
  apply blind_modify
  intro session options
  cases warning with
  | missingExport importer specifier name => rfl
  | ambiguousStar path name sources chosen =>
    change (if session.knowsAmbiguity path name then session.withOptions options
      else (session.withOptions options).warn _) = (if session.knowsAmbiguity path name then session
        else session.warn _).withOptions options
    split <;> rfl

theorem blind_intern (specifier : String) : Blind (intern specifier) := by
  intro session options
  have hnamed : (session.withOptions options).externalNamed? specifier =
      session.externalNamed? specifier := rfl
  simp only [intern, StateT.run_modifyGet, hnamed]
  cases session.externalNamed? specifier <;> rfl

/-! ## Providing -/

theorem blind_externalRecord (id : ExternalId) (name preferred : String)
    (exportedFrom : Option String) : Blind (externalRecord id name preferred exportedFrom) := by
  unfold externalRecord
  apply blind_get fun _ _ => rfl
  intro session
  split
  · exact blind_pure _
  · apply blind_bind (blind_newRecord _)
    exact fun record => blind_bind (blind_addExternalExport _ _ _) fun _ => blind_pure _

theorem blind_aggregateRecord (id : ModuleId) (preferred : String) :
    Blind (aggregateRecord id preferred) := by
  unfold aggregateRecord
  apply blind_get fun _ _ => rfl
  intro session
  split
  · exact blind_pure _
  · apply blind_bind (blind_newRecord _)
    intro record
    apply blind_bind (blind_addExport _ _ _)
    intro _
    apply blind_get fun _ _ => rfl
    intro session
    apply blind_bind
    · apply blind_forM
      intro star
      exact blind_bind (blind_externalRecord _ _ _ _) fun _ => blind_pure _
    · exact fun _ => blind_pure _

theorem blind_starRecord? (id : ModuleId) (name preferred : String) :
    Blind (starRecord? id name preferred) := by
  unfold starRecord?
  apply blind_get fun _ _ => rfl
  intro session
  dsimp only
  split
  · exact blind_pure _
  · rename_i chosen others hcandidates
    have hrest : Blind (do
        let record ← externalRecord chosen.external name preferred (some chosen.specifier)
        addExport id name record
        note .trace ("Resolved " ++ name ++ " of " ++ (session.module id).path
          ++ " through export * from " ++ chosen.specifier)
        return some record : InSession (Option RecordId)) := by
      apply blind_bind (blind_externalRecord _ _ _ _)
      intro record
      apply blind_bind (blind_addExport _ _ _)
      exact fun _ => blind_bind (blind_note _ _) fun _ => blind_pure _
    split
    · exact blind_bind (blind_report _) fun _ => hrest
    · exact hrest

theorem blind_targetRecord? (target : Target) (name preferred : String) :
    Blind (targetRecord? target name preferred) := by
  unfold targetRecord?
  cases target with
  | external id => exact blind_bind (blind_externalRecord _ _ _ _) fun _ => blind_pure _
  | module id =>
    dsimp only
    split
    · exact blind_bind (blind_aggregateRecord _ _) fun _ => blind_pure _
    · unfold moduleRecord?
      apply blind_get fun _ _ => rfl
      intro session
      split
      · exact blind_pure _
      · split
        · exact blind_pure _
        · exact blind_starRecord? _ _ _

/-! ## Interfaces -/

theorem blind_request (module : Module) (target : Target) (specifier name preferred : String) :
    Blind (request module target specifier name preferred) := by
  unfold request
  apply blind_bind (blind_targetRecord? _ _ _)
  intro record
  dsimp only
  split
  · exact blind_bind (blind_report _) fun _ => blind_pure _
  · exact blind_pure _

theorem blind_importsOf (module : Module) (item : Item) : Blind (importsOf module item) := by
  cases item with
  | importFrom specifiers source span =>
    unfold importsOf
    dsimp only
    split
    · apply blind_mapM
      intro specifier _
      unfold importName
      apply blind_bind (blind_request _ _ _ _ _)
      exact fun resolved => blind_bind (blind_note _ _) fun _ => blind_pure _
    · exact blind_pure _
  | _ => exact blind_pure _

theorem blind_publishBinding (module : Module) (name : String) (id : BindingId) :
    Blind (publishBinding module name id) := by
  unfold publishBinding
  apply blind_get fun _ _ => rfl
  intro session
  split
  · exact blind_bind (blind_newRecord _) fun _ => blind_pure _
  · exact blind_pure _

theorem blind_publishUnnamed (module : Module) : Blind (publishUnnamed module) :=
  blind_bind (blind_newRecord _) fun _ => blind_pure _

theorem blind_publishLocal (module : Module) (name : String) (id : Ident) :
    Blind (publishLocal module name id) := by
  unfold publishLocal
  apply blind_get fun _ _ => rfl
  intro session
  split
  · exact blind_publishBinding _ _ _
  · split
    · exact blind_pure _
    · exact blind_bind (blind_note _ _) fun _ => blind_pure _

theorem blind_publishSpecifier (module : Module) (specifier : ExportSpecifier) :
    Blind (publishSpecifier module specifier) := by
  cases specifier with
  | aggregate exported span => exact blind_pure _
  | named origin exported span =>
    cases origin with
    | ident id => exact blind_publishLocal _ _ _
    | text quotation => exact blind_pure _

theorem blind_publishFrom (module : Module) (target : Target) (source : String)
    (specifier : ExportSpecifier) : Blind (publishFrom module target source specifier) :=
  blind_bind (blind_request _ _ _ _ _) fun _ => blind_pure _

theorem blind_publishDefaultDecl (module : Module) (decl : Tree) :
    Blind (publishDefaultDecl module decl) := by
  unfold publishDefaultDecl
  split
  · apply blind_get fun _ _ => rfl
    intro session
    split
    · exact blind_publishBinding _ _ _
    · exact blind_publishUnnamed _
  · exact blind_publishUnnamed _

theorem blind_publishDefault (module : Module) (value : Tree) :
    Blind (publishDefault module value) := by
  unfold publishDefault
  split
  · apply blind_get fun _ _ => rfl
    intro session
    split
    · split
      · exact blind_publishBinding _ _ _
      · exact blind_publishUnnamed _
    · split
      · exact blind_pure _
      · exact blind_publishUnnamed _
  · exact blind_publishUnnamed _

theorem blind_publishedBy (module : Module) (item : Item) : Blind (publishedBy module item) := by
  cases item with
  | exportDecl decl span =>
    apply blind_bind
    · apply blind_mapM
      intro id _
      apply blind_get fun _ _ => rfl
      intro session
      split
      · exact blind_publishBinding _ _ _
      · exact blind_pure _
    · exact fun _ => blind_pure _
  | exportList specifiers span =>
    exact blind_bind (blind_mapM _ fun specifier _ => blind_publishSpecifier _ _) fun _ =>
      blind_pure _
  | exportFrom specifiers source span =>
    unfold publishedBy
    dsimp only
    split
    · exact blind_bind (blind_mapM _ fun specifier _ => blind_publishFrom _ _ _ _) fun _ =>
        blind_pure _
    · exact blind_pure _
  | exportDefaultDecl decl span => exact blind_publishDefaultDecl _ _
  | exportDefault value span => exact blind_publishDefault _ _
  | _ => exact blind_pure _

theorem blind_complete (module : Module) : Blind (complete module) := by
  apply blind_bind
  · exact blind_bind (blind_mapM _ fun _ _ => blind_newBinding _) fun _ => blind_pure _
  · intro declared
    apply blind_get fun _ _ => rfl
    intro session
    apply blind_bind
    · exact blind_bind (blind_mapM _ fun item _ => blind_importsOf _ item) fun _ => blind_pure _
    · intro imported
      apply blind_bind
      · exact blind_bind (blind_mapM _ fun item _ => blind_publishedBy _ item) fun _ =>
          blind_pure _
      · exact fun published => blind_bind (blind_note _ _) fun _ => blind_pure _

end InSession

namespace Building

/-- A step that does the same whatever the options are, as long as the endings are the same, and
keeps them. -/
def Blind {α : Type} (action : Building α) : Prop :=
  ∀ (session : Session) (options : BundleOptions),
    options.extensions = session.options.extensions →
      action.run (session.withOptions options) =
        ((action.run session).1, (action.run session).2.withOptions options)

section

variable {α β : Type}

theorem Blind.options_eq {action : Building α} (h : Blind action) (session : Session) :
    (action.run session).2.options = session.options := by
  have hrun := h session session.options rfl
  change action.run session = _ at hrun
  rw [hrun]
  rfl

theorem blind_pure (value : α) : Blind (pure value : Building α) := fun _ _ _ => rfl

theorem blind_throw (error : BundleError) : Blind (throw error : Building α) := fun _ _ _ => rfl

theorem blind_lift {action : InSession α} (h : InSession.Blind action) :
    Blind (liftM action : Building α) := by
  intro session options _
  have hrun : ∀ session, (liftM action : Building α).run session =
      (.ok (action.run session).1, (action.run session).2) := fun _ => rfl
  rw [hrun, hrun, h session options]

theorem blind_bind {action : Building α} {next : α → Building β} (h : Blind action)
    (hnext : ∀ value, Blind (next value)) : Blind (action >>= next) := by
  intro session options hextensions
  have hoptions := h.options_eq session
  rw [run_bind, run_bind, h session options hextensions]
  generalize action.run session = result at hoptions ⊢
  obtain ⟨outcome, after⟩ := result
  cases outcome with
  | error error => rfl
  | ok value => exact hnext value after options (hoptions ▸ hextensions)

theorem blind_get {next : Session → Building β}
    (hsame : ∀ session options, next (Session.withOptions session options) = next session)
    (h : ∀ session, Blind (next session)) : Blind (get >>= next) := by
  intro session options hextensions
  change (next (session.withOptions options)).run (session.withOptions options) =
    (((next session).run session).1, ((next session).run session).2.withOptions options)
  rw [hsame]
  exact h session session options hextensions

theorem blind_mapM {action : α → Building β} (values : List α)
    (h : ∀ value, Blind (action value)) : Blind (values.mapM action) := by
  induction values with
  | nil => exact blind_pure []
  | cons first rest ih =>
    rw [List.mapM_cons]
    apply blind_bind (h first)
    exact fun result => blind_bind ih fun results => blind_pure _

end

theorem blind_note (level : Level) (text : String) :
    Blind (liftM (InSession.note level text) : Building Unit) :=
  blind_lift (InSession.blind_note level text)

theorem blind_readSource (tree : FileTree) (path : Path) : Blind (readSource tree path) := by
  unfold readSource
  split
  · exact blind_pure _
  · exact blind_throw _

theorem blind_parseSource (path : Path) (text : String) : Blind (parseSource path text) := by
  unfold parseSource
  apply blind_get fun _ _ => rfl
  intro session
  dsimp only
  split
  · exact blind_bind (fun _ _ _ => rfl) fun _ => blind_pure _
  · exact blind_throw _

theorem blind_resolveFile (tree : FileTree) (importer : Path) (specifier : String) :
    Blind (resolveFile tree importer specifier) := by
  intro session options hextensions
  have hread : (session.withOptions options).options.extensions = session.options.extensions :=
    hextensions
  rw [run_resolveFile, run_resolveFile, hread]
  rfl

theorem blind_finish (path : Path) (isEntry : Bool) (text : String) (program : Program)
    (dependencies : Table Target) :
    InSession.Blind (finish path isEntry text program dependencies) := by
  unfold finish
  apply InSession.blind_get fun _ _ => rfl
  intro session
  apply InSession.blind_bind (InSession.blind_forM _ fun target =>
    InSession.blind_addDependent _ target)
  intro _
  apply InSession.blind_bind (InSession.blind_complete _)
  exact fun module => InSession.blind_bind (fun _ _ => rfl) fun _ => InSession.blind_pure _

theorem blind_follow (tree : FileTree) (path : Path) (loadFile : Path → Building ModuleId)
    (hload : ∀ file, Blind (loadFile file)) (specifier : String) :
    Blind (follow tree path loadFile specifier) := by
  unfold follow
  split
  · apply blind_bind (blind_resolveFile _ _ _)
    exact fun file => blind_bind (hload file) fun _ => blind_pure _
  · exact blind_bind (blind_lift (InSession.blind_intern _)) fun _ => blind_pure _

theorem blind_load (tree : FileTree) (depth : Nat) (underWay : List Path) (isEntry : Bool)
    (path : Path) : Blind (load tree depth underWay isEntry path) := by
  induction depth generalizing underWay isEntry path with
  | zero => exact blind_throw _
  | succ depth ih =>
    unfold load
    apply blind_get fun _ _ => rfl
    intro session
    split
    · exact blind_bind (blind_note _ _) fun _ => blind_pure _
    · have hrest := blind_bind (blind_note .trace ("Loading " ++ path)) fun _ =>
        blind_bind (blind_readSource tree path) fun text =>
          blind_bind (blind_parseSource path text) fun program =>
            blind_bind (blind_mapM program.specifiers
              (blind_follow tree path _ (ih (underWay ++ [path]) false))) fun dependencies =>
                blind_lift (blind_finish path isEntry text program dependencies)
      split
      · exact blind_bind (blind_throw _) fun _ => hrest
      · exact hrest

theorem blind_build (tree : FileTree) (entry : Path) : Blind (build tree entry) := by
  have hloaded : ∀ path, Blind (do
      InSession.note .debug ("Building module graph from " ++ path)
      let id ← load tree (tree.entries.length + 2) [] true path
      let session ← get
      InSession.note .debug
        ("Module graph complete: " ++ toString session.modules.length ++ " modules, "
          ++ toString session.externals.length ++ " externals")
      return id : Building ModuleId) := by
    intro path
    apply blind_bind (blind_note _ _)
    intro _
    apply blind_bind (blind_load _ _ _ _ _)
    intro id
    apply blind_get fun _ _ => rfl
    exact fun session => blind_bind (blind_note _ _) fun _ => blind_pure _
  intro session options hextensions
  exact hloaded (canonicalOr tree entry session.journal).1
    { session with journal := (canonicalOr tree entry session.journal).2 } options hextensions

theorem blind_settled (tree : FileTree) (entry : Path) : Blind (settled tree entry) := by
  have hsettle : InSession.Blind InSession.settleOrder := by
    apply InSession.blind_get fun _ _ => rfl
    intro session
    apply InSession.blind_bind (InSession.blind_note _ _)
    exact fun _ => InSession.blind_bind (InSession.blind_note _ _) fun _ => InSession.blind_pure _
  apply blind_bind (blind_note _ _)
  intro _
  apply blind_bind (blind_build tree entry)
  exact fun _ => blind_lift hsettle

end Building

/-- Options other than the endings of file names make no difference to what is built. -/
theorem builtSession_withOptions (tree : FileTree) (entry : Path) (options : BundleOptions)
    (others : BundleOptions) (h : others.extensions = options.extensions) :
    builtSession tree entry others = (builtSession tree entry options).withOptions others :=
  congrArg Prod.snd (Building.blind_settled tree entry (Session.new options) others h)

end ScopeHoist
