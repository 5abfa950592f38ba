import ScopeHoist.Proofs.LoadCases
import ScopeHoist.Proofs.Publishing

/-!
# Loading keeps sessions sound

Whether a build succeeds or fails, the session it leaves is sound and has grown. A module is stored
with targets that are all in the session, so that it is sound as soon as it is there.
-/

set_option autoImplicit false

namespace ScopeHoist

namespace Session

theorem Fills.addDependent (session : Session) (hsound : session.Sound) (id : ModuleId)
    (target : Target) : session.Fills ((InSession.addDependent id target).run session).2 := by
  cases target with
  | module dependency =>
    have hgrows := Grows.setModule session dependency
      (fun module => { module with dependents := addNew module.dependents id })
      ⟨rfl, fun _ _ h => h⟩
    refine ⟨hgrows, hsound.grows hgrows (setModule_length _ _ _) (fun other hother => ?_)
      (fun other hother => hgrows.soundExternal other (hsound.externals other hother) rfl) rfl,
      setModule_length _ _ _, rfl⟩
    have hold := hgrows.soundExports hsound _ (hsound.modules other hother).exports
    change Session.SoundExports _ ((session.setModule dependency _).module other)
    rw [module_setModule]
    split
    · rename_i heq
      rw [heq.1] at hold
      exact ⟨hold.proper, hold.supplies, hold.aggregate⟩
    · exact hold
  | external dependency =>
    have hgrows := Grows.setExternal session dependency
      (fun external => { external with dependents := addNew external.dependents id })
      ⟨rfl, fun _ _ h => h⟩
    refine ⟨hgrows, hsound.grows hgrows rfl
      (fun other hother => hgrows.soundExports hsound _ (hsound.modules other hother).exports)
      (fun other hother => ?_) rfl, rfl, session.setExternal_length _ _⟩
    have hlt : other < session.externals.length := by
      rw [← session.setExternal_length dependency]
      exact hother
    refine hgrows.soundExternal other (hsound.externals other hlt) ?_
    rw [external_setExternal]
    split
    · rename_i heq
      rw [heq.1]
    · rfl

def addExternal (session : Session) (specifier : String) : Session :=
  { session with externals := session.externals ++ [⟨specifier, [], []⟩] }

theorem addExternal_length (session : Session) (specifier : String) :
    (session.addExternal specifier).externals.length = session.externals.length + 1 := by
  simp [addExternal]

theorem external_addExternal (session : Session) (specifier : String) (id : ExternalId) :
    (session.addExternal specifier).external id =
      if id = session.externals.length then ⟨specifier, [], []⟩ else session.external id := by
  simp only [external, addExternal, List.getD_eq_getElem?_getD]
  rcases Nat.lt_trichotomy id session.externals.length with h | rfl | h
  · rw [List.getElem?_append_left h, if_neg (Nat.ne_of_lt h)]
  · simp
  · rw [if_neg (Nat.ne_of_gt h), List.getElem?_eq_none (by simp; omega),
      List.getElem?_eq_none (by omega)]

theorem Grows.addExternal (session : Session) (specifier : String) :
    session.Grows (session.addExternal specifier) := by
  refine ⟨Nat.le_refl _, fun id _ => .refl _, ?_, fun id hid => ?_, List.prefix_rfl,
    List.prefix_rfl⟩
  · rw [addExternal_length]
    exact Nat.le_succ _
  · rw [external_addExternal, if_neg (Nat.ne_of_lt hid)]
    exact .refl _

theorem Sound.addExternal {session : Session} (hsound : session.Sound) (specifier : String) :
    (session.addExternal specifier).Sound := by
  have hgrows := Grows.addExternal session specifier
  refine hsound.grows hgrows rfl
    (fun other hother => hgrows.soundExports hsound _ (hsound.modules other hother).exports)
    (fun other hother => ?_) rfl
  have hnew := session.external_addExternal specifier other
  by_cases heq : other = session.externals.length
  · rw [if_pos heq] at hnew
    exact ⟨by rw [hnew]; exact Table.proper_nil, by simp [hnew]⟩
  · rw [if_neg heq] at hnew
    rw [addExternal_length] at hother
    exact hgrows.soundExternal other (hsound.externals other (by omega)) (by rw [hnew])

end Session

theorem InSession.run_intern (specifier : String) (session : Session) :
    (intern specifier).run session =
      match session.externalNamed? specifier with
      | some id => (id, session)
      | none => (session.externals.length, session.addExternal specifier) := by
  simp only [intern, StateT.run_modifyGet]
  cases session.externalNamed? specifier <;> rfl

namespace Building

/-- From a sound session with some property, a step leaves a sound session that grew, and if it
succeeds, a result with another property. -/
def Keeps {α : Type} (pre : Session → Prop) (action : Building α) (post : α → Session → Prop) :
    Prop :=
  ∀ session, session.Sound → pre session →
    session.Grows (action.run session).2 ∧ (action.run session).2.Sound ∧
      ∀ value, (action.run session).1 = .ok value → post value (action.run session).2

def Lasting (property : Session → Prop) : Prop :=
  ∀ before after, before.Sound → before.Grows after → property before → property after

theorem lasting_valid (target : Target) : Lasting fun session => session.Valid target :=
  fun _ _ _ hgrows => hgrows.valid target

theorem lasting_true : Lasting fun _ => True := fun _ _ _ _ _ => trivial

theorem lasting_and {first second : Session → Prop} (h : Lasting first) (h' : Lasting second) :
    Lasting fun session => first session ∧ second session :=
  fun before after hsound hgrows hboth =>
    ⟨h before after hsound hgrows hboth.1, h' before after hsound hgrows hboth.2⟩

section

variable {α β : Type} {pre : Session → Prop}

theorem keeps_weaken {pre' : Session → Prop} {action : Building α} {post post' : α → Session → Prop}
    (h : Keeps pre action post) (hpre : ∀ session, pre' session → pre session)
    (hpost : ∀ value session, post value session → post' value session) :
    Keeps pre' action post' := fun session hsound hp => by
  obtain ⟨hgrows, hafter, hvalue⟩ := h session hsound (hpre session hp)
  exact ⟨hgrows, hafter, fun value heq => hpost _ _ (hvalue value heq)⟩

theorem keeps_pure {value : α} {post : α → Session → Prop}
    (h : ∀ session, session.Sound → pre session → post value session) :
    Keeps pre (pure value) post := fun session hsound hpre => by
  refine ⟨.refl session, hsound, fun result heq => ?_⟩
  obtain rfl := Except.ok.inj heq
  exact h session hsound hpre

theorem keeps_throw {error : BundleError} {post : α → Session → Prop} :
    Keeps pre (throw error) post := fun session hsound _ =>
  ⟨.refl session, hsound, fun _ heq => absurd heq nofun⟩

theorem keeps_lift {action : InSession α} {post : α → Session → Prop}
    (h : InSession.Keeps pre action post) : Keeps pre (liftM action : Building α) post :=
  fun session hsound hpre => by
    obtain ⟨hfills, hpost⟩ := h session hsound hpre
    refine ⟨hfills.grows, hfills.sound, fun value heq => ?_⟩
    obtain rfl := Except.ok.inj heq
    exact hpost

theorem keeps_seq {action : Building α} {next : α → Building β} {mid : α → Session → Prop}
    {post : β → Session → Prop} (haction : Keeps pre action mid)
    (hnext : ∀ value, Keeps (mid value) (next value) post) :
    Keeps pre (action >>= next) post := fun session hsound hp => by
  obtain ⟨hgrows, hafter, hvalue⟩ := haction session hsound hp
  rw [run_bind]
  generalize action.run session = outcome at *
  obtain ⟨result, after⟩ := outcome
  cases result with
  | error error => exact ⟨hgrows, hafter, fun _ heq => absurd heq nofun⟩
  | ok value =>
    obtain ⟨hgrows', hafter', hpost⟩ := hnext value after hafter (hvalue value rfl)
    exact ⟨hgrows.trans hgrows', hafter', hpost⟩

theorem keeps_bind {action : Building α} {next : α → Building β} {mid : α → Session → Prop}
    {post : β → Session → Prop} (hpre : Lasting pre) (haction : Keeps pre action mid)
    (hnext : ∀ value, Keeps (fun session => pre session ∧ mid value session) (next value) post) :
    Keeps pre (action >>= next) post := by
  refine keeps_seq (fun session hsound hp => ?_) hnext
  obtain ⟨hgrows, hafter, hvalue⟩ := haction session hsound hp
  exact ⟨hgrows, hafter, fun value heq => ⟨hpre _ _ hsound hgrows hp, hvalue value heq⟩⟩

theorem keeps_mapM {action : α → Building β} {post : α → β → Session → Prop}
    (hpre : Lasting pre) (hpost : ∀ value result, Lasting (post value result)) (values : List α)
    (h : ∀ value ∈ values, Keeps pre (action value) (post value)) :
    Keeps pre (values.mapM action) fun results session =>
      List.Forall₂ (fun value result => post value result session) values results := by
  induction values with
  | nil => exact keeps_pure fun _ _ _ => .nil
  | cons first rest ih =>
    rw [List.mapM_cons]
    refine keeps_bind hpre (h first List.mem_cons_self) fun result => ?_
    refine keeps_bind (lasting_and hpre (hpost first result))
      (keeps_weaken (ih fun value hvalue => h value (List.mem_cons_of_mem _ hvalue))
        (fun _ hp => hp.1) fun _ _ hresults => hresults) fun results => ?_
    exact keeps_pure fun _ _ hp => .cons hp.1.2 hp.2

theorem keeps_note (level : Level) (text : String) :
    Keeps pre (liftM (InSession.note level text) : Building Unit) fun _ _ => True :=
  keeps_lift (InSession.keeps_note level text)

end

/-! ## Steps of a build -/

theorem keeps_intern (specifier : String) (pre : Session → Prop) :
    Keeps pre (liftM (InSession.intern specifier) : Building ExternalId)
      fun id session => session.Valid (.external id) := by
  intro session hsound _
  rw [run_lift, InSession.run_intern]
  cases hnamed : session.externalNamed? specifier with
  | some id =>
    refine ⟨.refl session, hsound, fun value heq => ?_⟩
    obtain rfl := Except.ok.inj heq
    exact (List.findIdx?_eq_some_iff_getElem.mp hnamed).1
  | none =>
    refine ⟨.addExternal session specifier, hsound.addExternal specifier, fun value heq => ?_⟩
    obtain rfl := Except.ok.inj heq
    change _ < (session.addExternal specifier).externals.length
    rw [Session.addExternal_length]
    exact Nat.lt_succ_self _

theorem keeps_addDependents (id : ModuleId) (targets : List Target) (pre : Session → Prop)
    (hpre : InSession.Steady pre) :
    InSession.Keeps pre (targets.forM (InSession.addDependent id)) fun _ _ => True :=
  InSession.keeps_forM hpre targets fun target _ session hsound _ =>
    ⟨.addDependent session hsound id target, trivial⟩

def newModule (session : Session) (path : Path) (isEntry : Bool) (text : String)
    (program : Program) (dependencies : Table Target) : Module :=
  { Module.blank with
    id := session.modules.length, path, isEntry, program, dependencies,
    sourceSize := text.utf8ByteSize }

/-- All that is done with a module before it is stored. -/
def prepare (module : Module) : InSession Module := do
  module.dependencies.values.forM (InSession.addDependent module.id)
  InSession.complete module

theorem run_finish (path : Path) (isEntry : Bool) (text : String) (program : Program)
    (dependencies : Table Target) (session : Session) :
    let prepared := (prepare (newModule session path isEntry text program dependencies)).run session
    (finish path isEntry text program dependencies).run session =
      (session.modules.length, prepared.2.store prepared.1) := rfl

theorem run_lift_finish (path : Path) (isEntry : Bool) (text : String) (program : Program)
    (dependencies : Table Target) (session : Session) :
    let prepared := (prepare (newModule session path isEntry text program dependencies)).run session
    (liftM (finish path isEntry text program dependencies) : Building ModuleId).run session =
      (.ok session.modules.length, prepared.2.store prepared.1) := rfl

theorem keeps_prepare (module : Module) (hexports : module.exports = [])
    (himports : module.imports = []) (hstars : module.stars = [])
    (hunnamed : module.unnamedDefault = none) :
    InSession.Keeps (fun session => session.Opened module) (prepare module)
      fun result session => session.SoundDraft result :=
  InSession.keeps_bind (InSession.steady_opened module)
    (keeps_addDependents module.id _ _ (InSession.steady_opened module))
    fun _ => InSession.keeps_weaken
      (InSession.keeps_complete module hexports himports hstars hunnamed)
      (fun _ hpre => hpre.1) fun _ _ hpost => hpost

theorem keeps_finish (path : Path) (isEntry : Bool) (text : String) (program : Program)
    (dependencies : Table Target) :
    Keeps (fun session => ∀ target ∈ dependencies.values, session.Valid target)
      (liftM (finish path isEntry text program dependencies) : Building ModuleId)
      fun id session => session.Valid (.module id) := by
  intro session hsound htargets
  have hopened : session.Opened (newModule session path isEntry text program dependencies) :=
    ⟨rfl, htargets⟩
  obtain ⟨hfills, hdraft⟩ := keeps_prepare _ rfl rfl rfl rfl session hsound hopened
  rw [run_lift_finish]
  generalize (prepare (newModule session path isEntry text program dependencies)).run session =
    prepared at *
  have hgrows := Session.Grows.store prepared.2 prepared.1
  refine ⟨hfills.grows.trans hgrows, Session.sound_store hfills.sound hdraft, fun id heq => ?_⟩
  obtain rfl := Except.ok.inj heq
  change session.modules.length < (prepared.2.store prepared.1).modules.length
  rw [Session.store_length, hfills.length]
  exact Nat.lt_succ_self _

theorem moduleAt?_valid (session : Session) (path : Path) (id : ModuleId)
    (h : session.moduleAt? path = some id) : session.Valid (.module id) :=
  (List.findIdx?_eq_some_iff_getElem.mp h).1

theorem sound_aside {session : Session} (h : session.Sound) (journal : Journal)
    (comments : Comments) (nextOffset : Nat) :
    ({ session with journal, comments, nextOffset } : Session).Sound :=
  h.of_same rfl rfl List.prefix_rfl List.prefix_rfl rfl

theorem grows_aside (session : Session) (journal : Journal) (comments : Comments)
    (nextOffset : Nat) : session.Grows { session with journal, comments, nextOffset } :=
  .of_same rfl rfl List.prefix_rfl List.prefix_rfl

theorem Keeps.aside {α : Type} {action : Building α} {post : α → Session → Prop}
    (h : Keeps (fun _ => True) action post) (session : Session) (hsound : session.Sound)
    (journal : Journal) (comments : Comments) (nextOffset : Nat) {result : Except BundleError α}
    {after : Session}
    (hrun : action.run { session with journal, comments, nextOffset } = (result, after)) :
    session.Grows after ∧ after.Sound ∧ ∀ value, result = .ok value → post value after := by
  have hkept := h _ (sound_aside hsound journal comments nextOffset) trivial
  rw [hrun] at hkept
  exact ⟨(grows_aside session journal comments nextOffset).trans hkept.1, hkept.2⟩

theorem keeps_follow (tree : FileTree) (path : Path) (loadFile : Path → Building ModuleId)
    (hload : ∀ file, Keeps (fun _ => True) (loadFile file)
      fun id session => session.Valid (.module id)) (specifier : String) :
    Keeps (fun _ => True) (follow tree path loadFile specifier)
      fun entry session => entry.1 = specifier ∧ session.Valid entry.2 := by
  intro session hsound _
  have hcases := follow_cases tree path loadFile specifier session
  generalize (follow tree path loadFile specifier).run session = outcome at hcases ⊢
  cases hcases with
  | unresolved journal =>
    exact ⟨grows_aside session journal _ _, sound_aside hsound journal _ _,
      fun _ heq => absurd heq nofun⟩
  | failed journal file _ _ hrun =>
    obtain ⟨hgrows, hafter, -⟩ := (hload file).aside session hsound journal _ _ hrun
    exact ⟨hgrows, hafter, fun _ heq => absurd heq nofun⟩
  | loaded journal file _ _ hrun =>
    obtain ⟨hgrows, hafter, hvalid⟩ := (hload file).aside session hsound journal _ _ hrun
    refine ⟨hgrows, hafter, fun entry heq => ?_⟩
    obtain rfl := Except.ok.inj heq
    exact ⟨rfl, hvalid _ rfl⟩
  | external =>
    obtain ⟨hgrows, hafter, hvalid⟩ := keeps_intern specifier (fun _ => True) session hsound trivial
    refine ⟨hgrows, hafter, fun entry heq => ?_⟩
    obtain rfl := Except.ok.inj heq
    exact ⟨rfl, hvalid _ rfl⟩

theorem keeps_load (tree : FileTree) (depth : Nat) (underWay : List Path) (isEntry : Bool)
    (path : Path) :
    Keeps (fun _ => True) (load tree depth underWay isEntry path)
      fun id session => session.Valid (.module id) := by
  induction depth generalizing underWay isEntry path with
  | zero => exact keeps_throw
  | succ depth ih =>
    intro session hsound _
    have hcases := load_cases tree depth underWay isEntry path session
    generalize (load tree (depth + 1) underWay isEntry path).run session = outcome at hcases ⊢
    cases hcases with
    | @reused stored journal hstored =>
      refine ⟨grows_aside session journal _ _, sound_aside hsound journal _ _, fun id heq => ?_⟩
      obtain rfl := Except.ok.inj heq
      exact moduleAt?_valid session path stored hstored
    | circular => exact ⟨.refl session, hsound, fun _ heq => absurd heq nofun⟩
    | unread journal =>
      exact ⟨grows_aside session journal _ _, sound_aside hsound journal _ _,
        fun _ heq => absurd heq nofun⟩
    | @followed program _ journal comments nextOffset offset text _ _ _ hrun =>
      have hfollowed := keeps_mapM lasting_true (fun specifier (entry : String × Target) =>
        lasting_and (fun _ _ _ _ h => h) (lasting_valid entry.2))
        (program.moved offset).resolve.specifiers fun specifier _ =>
          keeps_follow tree path _ (fun file => ih (underWay ++ [path]) false file) specifier
      have hfinished := keeps_seq hfollowed fun entries =>
        keeps_weaken (keeps_finish path isEntry text (program.moved offset).resolve entries)
          (fun session hpre target htarget => by
            obtain ⟨entry, hentry, rfl⟩ := List.mem_map.mp htarget
            obtain ⟨_, _, hvalid⟩ := forall₂_mem_right hpre entry hentry
            exact hvalid.2) fun _ _ hpost => hpost
      exact hfinished.aside session hsound journal comments nextOffset hrun

theorem keeps_build (tree : FileTree) (entry : Path) :
    Keeps (fun _ => True) (build tree entry) fun id session => session.Valid (.module id) := by
  intro session hsound _
  obtain ⟨journal, remark, hbuild⟩ := run_build tree entry session
  rw [hbuild]
  generalize hrun : (load tree _ [] true _).run _ = outcome
  obtain ⟨result, after⟩ := outcome
  obtain ⟨hgrows, hafter, hvalid⟩ :=
    (keeps_load tree _ [] true _).aside session hsound journal _ _ hrun
  cases result with
  | error error => exact ⟨hgrows, hafter, fun _ heq => absurd heq nofun⟩
  | ok id =>
    exact ⟨hgrows.trans (grows_aside after (remark after) _ _), sound_aside hafter _ _ _, hvalid⟩

end Building

end ScopeHoist
