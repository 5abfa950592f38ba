import ScopeHoist.Proofs.Finishing
import ScopeHoist.Proofs.Options
import ScopeHoist.Proofs.Order
import ScopeHoist.Proofs.Sources

/-!
# What a build loads

A module that a build stores was asked for: the recursive walk from the module that the build
answers with goes through it, in the order in which modules are stored. Its specifiers are those of
its file and lead where the file tree says, to the stored module of a file or to the external of
that name.
-/

set_option autoImplicit false

namespace ScopeHoist

def Target.module? : Target → Option ModuleId
  | .module id => some id
  | .external _ => none

theorem moduleTargets_eq (targets : List Target) :
    moduleTargets targets = (targets.filterMap Target.module?).eraseDups := rfl

theorem mem_filterMap_module? (targets : List Target) (id : ModuleId) :
    id ∈ targets.filterMap Target.module? ↔ .module id ∈ targets := by
  rw [List.mem_filterMap]
  constructor
  · rintro ⟨target, htarget, heq⟩
    cases target with
    | module other => exact Option.some.inj heq ▸ htarget
    | external other => exact absurd heq nofun
  · exact fun h => ⟨_, h, rfl⟩

theorem Module.Grows.path_eq {before after : Module} (h : before.Grows after) :
    after.path = before.path := by
  rw [h.same]

namespace Session

/-- Whether a specifier leads from a file to a target of the session. -/
def Leads (session : Session) (tree : FileTree) (importer : Path) (specifier : String) :
    Target → Prop
  | .module id =>
    specifierKind specifier = .relative ∧ id < session.modules.length ∧
      filePath? tree session.options.extensions importer specifier = some (session.module id).path
  | .external id =>
    specifierKind specifier = .bare ∧ id < session.externals.length ∧
      (session.external id).specifier = specifier

def Led (session : Session) (tree : FileTree) (id : ModuleId) : Prop :=
  ∀ entry ∈ (session.module id).dependencies,
    entry.1 ∈ (session.module id).program.specifiers ∧
      session.Leads tree (session.module id).path entry.1 entry.2

/-- Whether the specifiers of a module are those of the file that it was loaded from, and a target
is known for each of them. -/
def Sourced (session : Session) (tree : FileTree) (id : ModuleId) : Prop :=
  ∃ program, tree.programAt (session.module id).path = .ok program ∧
    (session.module id).program.specifiers = program.specifiers ∧
      (session.module id).dependencies.names = program.specifiers

def DependsOn (session : Session) (id : ModuleId) (external : ExternalId) : Prop :=
  .external external ∈ (session.module id).dependencyTargets

def PathsDistinct (session : Session) : Prop :=
  ∀ first < session.modules.length, ∀ second < session.modules.length,
    (session.module first).path = (session.module second).path → first = second

def SpecifiersDistinct (session : Session) : Prop :=
  ∀ first < session.externals.length, ∀ second < session.externals.length,
    (session.external first).specifier = (session.external second).specifier → first = second

/-- From one session to another, modules were stored for the sake of some targets, in the order of a
walk through these, and none of them for a file that is under way. Externals that came up are among
the targets or those of a new module. -/
structure Loads (tree : FileTree) (underWay : List Path) (targets : List Target)
    (before after : Session) : Prop where
  grows : before.Grows after
  options : after.options = before.options
  distinct : before.PathsDistinct → after.PathsDistinct
  named : before.SpecifiersDistinct → after.SpecifiersDistinct
  apart : ∀ id, before.modules.length ≤ id → id < after.modules.length →
    (after.module id).path ∉ underWay
  led : ∀ id, before.modules.length ≤ id → id < after.modules.length → after.Led tree id
  sourced : ∀ id, before.modules.length ≤ id → id < after.modules.length → after.Sourced tree id
  walked : Visits (fun id => (after.module id).moduleDependencies)
    (List.range before.modules.length) (targets.filterMap Target.module?)
    (List.range after.modules.length)
  asked : ∀ external, before.externals.length ≤ external → external < after.externals.length →
    .external external ∈ targets ∨ ∃ id, before.modules.length ≤ id ∧
      id < after.modules.length ∧ after.DependsOn id external

variable {tree : FileTree} {underWay : List Path} {before after : Session}

theorem Leads.grows (h : before.Grows after) (hoptions : after.options = before.options)
    (importer : Path) (specifier : String) (target : Target)
    (hleads : before.Leads tree importer specifier target) :
    after.Leads tree importer specifier target := by
  cases target with
  | module id =>
    obtain ⟨hkind, hid, hfile⟩ := hleads
    refine ⟨hkind, Nat.lt_of_lt_of_le hid h.modules_length, ?_⟩
    rw [hoptions, (h.module id hid).path_eq]
    exact hfile
  | external id =>
    obtain ⟨hkind, hid, hspecifier⟩ := hleads
    exact ⟨hkind, Nat.lt_of_lt_of_le hid h.externals_length,
      (h.external id hid).specifier.trans hspecifier⟩

theorem Led.grows (h : before.Grows after) (hoptions : after.options = before.options)
    (id : ModuleId) (hid : id < before.modules.length) (hled : before.Led tree id) :
    after.Led tree id := by
  have hmodule := h.module id hid
  intro entry hentry
  rw [hmodule.dependencies_eq] at hentry
  rw [hmodule.program_eq, hmodule.path_eq]
  obtain ⟨hspecifier, hleads⟩ := hled entry hentry
  exact ⟨hspecifier, hleads.grows h hoptions _ _ _⟩

theorem Sourced.grows (h : before.Grows after) (id : ModuleId) (hid : id < before.modules.length)
    (hsourced : before.Sourced tree id) : after.Sourced tree id := by
  have hmodule := h.module id hid
  rw [Sourced, hmodule.path_eq, hmodule.program_eq, hmodule.dependencies_eq]
  exact hsourced

theorem DependsOn.grows (h : before.Grows after) (id : ModuleId)
    (hid : id < before.modules.length) (external : ExternalId)
    (hdepends : before.DependsOn id external) : after.DependsOn id external := by
  rwa [DependsOn, (h.module id hid).dependencyTargets_eq]

theorem PathsDistinct.grows (h : before.Grows after)
    (hlength : after.modules.length = before.modules.length)
    (hdistinct : before.PathsDistinct) : after.PathsDistinct := by
  intro first hfirst second hsecond heq
  rw [hlength] at hfirst hsecond
  rw [(h.module first hfirst).path_eq, (h.module second hsecond).path_eq] at heq
  exact hdistinct first hfirst second hsecond heq

theorem PathsDistinct.grows_new (h : before.Grows after)
    (hlength : after.modules.length = before.modules.length + 1)
    (hnew : ∀ id < before.modules.length,
      (before.module id).path ≠ (after.module before.modules.length).path)
    (hdistinct : before.PathsDistinct) : after.PathsDistinct := by
  unfold PathsDistinct
  rw [hlength]
  refine keys_distinct_succ (fun first hfirst second hsecond heq => ?_) fun id hid => ?_
  · rw [(h.module first hfirst).path_eq, (h.module second hsecond).path_eq] at heq
    exact hdistinct first hfirst second hsecond heq
  · rw [(h.module id hid).path_eq]
    exact hnew id hid

theorem SpecifiersDistinct.grows (h : before.Grows after)
    (hlength : after.externals.length = before.externals.length)
    (hdistinct : before.SpecifiersDistinct) : after.SpecifiersDistinct := by
  intro first hfirst second hsecond heq
  rw [hlength] at hfirst hsecond
  rw [(h.external first hfirst).specifier, (h.external second hsecond).specifier] at heq
  exact hdistinct first hfirst second hsecond heq

theorem SpecifiersDistinct.addExternal {session : Session} {specifier : String}
    (hnew : session.externalNamed? specifier = none) (hdistinct : session.SpecifiersDistinct) :
    (session.addExternal specifier).SpecifiersDistinct := by
  have hold : ∀ id < session.externals.length,
      (session.addExternal specifier).external id = session.external id := by
    intro id hid
    rw [external_addExternal, if_neg (Nat.ne_of_lt hid)]
  unfold SpecifiersDistinct
  rw [addExternal_length]
  refine keys_distinct_succ (fun first hfirst second hsecond heq => ?_) fun id hid heq => ?_
  · rw [hold first hfirst, hold second hsecond] at heq
    exact hdistinct first hfirst second hsecond heq
  · rw [hold id hid, external_addExternal, if_pos rfl] at heq
    have hfound := List.findIdx?_eq_none_iff.mp hnew (session.external id) (by simp [external, hid])
    exact absurd (beq_iff_eq.mpr heq) (Bool.eq_false_iff.mp hfound)

theorem Loads.of_same {targets : List Target} (hmodules : after.modules = before.modules)
    (hexternals : after.externals = before.externals) (hgrows : before.Grows after)
    (hoptions : after.options = before.options)
    (htargets : ∀ id, .module id ∈ targets → id < before.modules.length) :
    before.Loads tree underWay targets after where
  grows := hgrows
  options := hoptions
  distinct := PathsDistinct.grows hgrows (by rw [hmodules])
  named := SpecifiersDistinct.grows hgrows (by rw [hexternals])
  apart := fun _ hold hnew => absurd (hmodules ▸ hnew) (Nat.not_lt_of_le hold)
  led := fun _ hold hnew => absurd (hmodules ▸ hnew) (Nat.not_lt_of_le hold)
  sourced := fun _ hold hnew => absurd (hmodules ▸ hnew) (Nat.not_lt_of_le hold)
  walked := by
    rw [hmodules]
    exact .of_seen fun id hid =>
      List.mem_range.mpr (htargets id ((mem_filterMap_module? _ _).mp hid))
  asked := fun _ hold hnew => absurd (hexternals ▸ hnew) (Nat.not_lt_of_le hold)

theorem Loads.trans {first second third : Session} {targets targets' : List Target}
    (h : first.Loads tree underWay targets second)
    (h' : second.Loads tree underWay targets' third) :
    first.Loads tree underWay (targets ++ targets') third where
  grows := h.grows.trans h'.grows
  options := h'.options.trans h.options
  distinct := fun hdistinct => h'.distinct (h.distinct hdistinct)
  named := fun hnamed => h'.named (h.named hnamed)
  apart := by
    intro id hold hnew
    by_cases hid : id < second.modules.length
    · rw [(h'.grows.module id hid).path_eq]
      exact h.apart id hold hid
    · exact h'.apart id (Nat.le_of_not_lt hid) hnew
  led := by
    intro id hold hnew
    by_cases hid : id < second.modules.length
    · exact (h.led id hold hid).grows h'.grows h'.options id hid
    · exact h'.led id (Nat.le_of_not_lt hid) hnew
  sourced := by
    intro id hold hnew
    by_cases hid : id < second.modules.length
    · exact (h.sourced id hold hid).grows h'.grows id hid
    · exact h'.sourced id (Nat.le_of_not_lt hid) hnew
  walked := by
    rw [List.filterMap_append]
    refine (h.walked.congr fun id hid => ?_).append h'.walked
    exact (h'.grows.module id (List.mem_range.mp hid)).moduleDependencies_eq
  asked := by
    intro external hold hnew
    by_cases hexternal : external < second.externals.length
    · refine (h.asked external hold hexternal).imp (List.mem_append_left _) ?_
      rintro ⟨id, hid, hlt, hdepends⟩
      exact ⟨id, hid, Nat.lt_of_lt_of_le hlt h'.grows.modules_length,
        hdepends.grows h'.grows id hlt external⟩
    · refine (h'.asked external (Nat.le_of_not_lt hexternal) hnew).imp
        (List.mem_append_right _) ?_
      rintro ⟨id, hid, hlt, hdepends⟩
      exact ⟨id, Nat.le_trans h.grows.modules_length hid, hlt, hdepends⟩

theorem Loads.mono {targets : List Target} (h : before.Loads tree underWay targets after)
    {fewer : List Path} (hsub : fewer ⊆ underWay) : before.Loads tree fewer targets after :=
  { h with apart := fun id hold hnew hmem => h.apart id hold hnew (hsub hmem) }

theorem Loads.path_ne {targets : List Target} (h : before.Loads tree underWay targets after)
    {path : Path} (hpath : path ∈ underWay)
    (habsent : ∀ id < before.modules.length, (before.module id).path ≠ path) (id : ModuleId)
    (hid : id < after.modules.length) : (after.module id).path ≠ path := by
  intro heq
  by_cases hold : id < before.modules.length
  · rw [(h.grows.module id hold).path_eq] at heq
    exact habsent id hold heq
  · exact h.apart id (Nat.le_of_not_lt hold) hid (heq ▸ hpath)

theorem Loads.addExternal (session : Session) (specifier : String)
    (hnew : session.externalNamed? specifier = none) :
    session.Loads tree underWay [.external session.externals.length]
      (session.addExternal specifier) where
  grows := .addExternal session specifier
  options := rfl
  distinct := fun h => h
  named := .addExternal hnew
  apart := fun _ hold hnew => absurd hnew (Nat.not_lt_of_le hold)
  led := fun _ hold hnew => absurd hnew (Nat.not_lt_of_le hold)
  sourced := fun _ hold hnew => absurd hnew (Nat.not_lt_of_le hold)
  walked := .nil _
  asked := by
    intro external hold hnew
    rw [addExternal_length] at hnew
    obtain rfl : external = session.externals.length := by omega
    exact .inl List.mem_cons_self

end Session

/-! ## What is stored -/

namespace InSession

theorem complete_eq (module : Module) (session : Session) :
    ∃ uses bindings exports imports stars unnamedDefault,
      ((complete module).run session).1 =
        { module with uses, bindings, exports, imports, stars, unnamedDefault } := by
  have hdeclared : ∀ module session, ∃ bindings,
      ((declareAll module).run session).1 = { module with bindings } := fun _ _ => ⟨_, rfl⟩
  have himported : ∀ module session, ∃ imports,
      ((importAll module).run session).1 = { module with imports } := fun _ _ => ⟨_, rfl⟩
  have hpublished : ∀ module session, ∃ exports unnamedDefault,
      ((publishAll module).run session).1 = { module with exports, unnamedDefault } := by
    intro module session
    unfold publishAll
    rw [run_bind, run_pure, foldl_publish_eq]
    exact ⟨_, _, rfl⟩
  unfold complete
  rw [run_bind, run_bind, run_get, run_bind, run_bind, run_bind, run_pure]
  obtain ⟨bindings, hbindings⟩ :=
    hdeclared { module with uses := module.program.uses } session
  generalize (declareAll { module with uses := module.program.uses }).run session = declared at *
  rw [hbindings, Session.withStars_eq]
  generalize Module.withStars declared.2 _ = starred
  obtain ⟨imports, himports⟩ := himported
    { ({ module with uses := module.program.uses, bindings } : Module) with
      exports := starred.exports, stars := starred.stars } declared.2
  generalize (importAll _).run declared.2 = imported at *
  obtain ⟨exports, unnamedDefault, hexports⟩ := hpublished imported.1 imported.2
  rw [hexports, himports]
  exact ⟨_, _, _, _, _, _, rfl⟩

end InSession

namespace Building

/-- What is known of a module once it is stored. -/
structure Stored (path : Path) (isEntry : Bool) (program : Program) (dependencies : Table Target)
    (before after : Session) (id : ModuleId) : Prop where
  sound : after.Sound
  grows : before.Grows after
  options : after.options = before.options
  length : after.modules.length = id + 1
  outside : after.externals.length = before.externals.length
  id_eq : id = before.modules.length
  path_eq : (after.module id).path = path
  program_eq : (after.module id).program = program
  dependencies_eq : (after.module id).dependencies = dependencies
  isEntry_eq : (after.module id).isEntry = isEntry
  entry : isEntry = true → after.entry = some id

theorem prepare_eq (module : Module) (session : Session) :
    ∃ uses bindings exports imports stars unnamedDefault, ((prepare module).run session).1 =
      { module with uses, bindings, exports, imports, stars, unnamedDefault } := by
  unfold prepare
  rw [InSession.run_bind]
  exact InSession.complete_eq module _

theorem stored_finish (path : Path) (isEntry : Bool) (text : String) (program : Program)
    (dependencies : Table Target) (before : Session) (hsound : before.Sound)
    (htargets : ∀ target ∈ dependencies.values, before.Valid target) :
    Stored path isEntry program dependencies before
      ((finish path isEntry text program dependencies).run before).2
      ((finish path isEntry text program dependencies).run before).1 := by
  have hkept := keeps_finish path isEntry text program dependencies before hsound htargets
  have hoptions := (blind_lift (blind_finish path isEntry text program dependencies)).options_eq
    before
  rw [run_lift_finish] at hkept hoptions
  have hopened : before.Opened (newModule before path isEntry text program dependencies) :=
    ⟨rfl, htargets⟩
  obtain ⟨-, -, hlength, houtside⟩ := (keeps_prepare _ rfl rfl rfl rfl before hsound hopened).1
  obtain ⟨uses, bindings, exports, imports, stars, unnamedDefault, hmodule⟩ :=
    prepare_eq (newModule before path isEntry text program dependencies) before
  rw [run_finish]
  generalize (prepare (newModule before path isEntry text program dependencies)).run before =
    prepared at *
  have hstored : (prepared.2.store prepared.1).module before.modules.length = prepared.1 := by
    rw [Session.module_store, if_pos hlength.symm]
  constructor
  · exact hkept.2.1
  · exact hkept.1
  · exact hoptions
  · rw [Session.store_length, hlength]
  · exact houtside
  · rfl
  · rw [hstored, hmodule]
    rfl
  · rw [hstored, hmodule]
    rfl
  · rw [hstored, hmodule]
    rfl
  · rw [hstored, hmodule]
    rfl
  · intro hentry
    change (if prepared.1.isEntry then some prepared.1.id else _) = _
    rw [hmodule]
    exact if_pos hentry

/-! ## What is loaded -/

structure LoadedAs (tree : FileTree) (underWay : List Path) (path : Path) (before : Session)
    (id : ModuleId) (after : Session) : Prop where
  sound : after.Sound
  loads : before.Loads tree underWay [.module id] after
  valid : id < after.modules.length
  path_eq : (after.module id).path = path

structure Followed (tree : FileTree) (underWay : List Path) (path : Path) (specifier : String)
    (before : Session) (target : Target) (after : Session) : Prop where
  sound : after.Sound
  loads : before.Loads tree underWay [target] after
  leads : after.Leads tree path specifier target

theorem intern_specifier (specifier : String) (session : Session) :
    (((InSession.intern specifier).run session).2.external
      ((InSession.intern specifier).run session).1).specifier = specifier := by
  rw [InSession.run_intern]
  cases hnamed : session.externalNamed? specifier with
  | some id =>
    obtain ⟨hid, hsame, -⟩ := List.findIdx?_eq_some_iff_getElem.mp hnamed
    change (session.externals.getD id .blank).specifier = specifier
    rw [List.getD_eq_getElem?_getD, List.getElem?_eq_getElem hid]
    exact eq_of_beq hsame
  | none =>
    change ((session.addExternal specifier).external session.externals.length).specifier = specifier
    rw [Session.external_addExternal, if_pos rfl]

theorem followed_bare (tree : FileTree) (underWay : List Path) (path : Path) (specifier : String)
    (hkind : specifierKind specifier = .bare) (before : Session) (hsound : before.Sound) :
    Followed tree underWay path specifier before
      (.external ((InSession.intern specifier).run before).1)
      ((InSession.intern specifier).run before).2 := by
  obtain ⟨-, hafter, hvalid⟩ := keeps_intern specifier (fun _ => True) before hsound trivial
  refine ⟨hafter, ?_, hkind, hvalid _ rfl, intern_specifier specifier before⟩
  rw [InSession.run_intern]
  cases hnamed : before.externalNamed? specifier with
  | some id => exact .of_same rfl rfl (.refl before) rfl (by simp)
  | none => exact .addExternal before specifier hnamed

theorem loads_aside (tree : FileTree) (underWay : List Path) (session : Session) (journal : Journal)
    (comments : Comments) (nextOffset : Nat) :
    session.Loads tree underWay [] { session with journal, comments, nextOffset } :=
  .of_same rfl rfl (.of_same rfl rfl List.prefix_rfl List.prefix_rfl) rfl (by simp)

theorem followed_follow (tree : FileTree) (underWay : List Path) (path : Path)
    (loadFile : Path → Building ModuleId)
    (hload : ∀ file before id after, before.Sound →
      (loadFile file).run before = (.ok id, after) →
        LoadedAs tree underWay file before id after)
    (specifier : String) (before : Session) (hsound : before.Sound) (entry : String × Target)
    (after : Session)
    (hrun : (follow tree path loadFile specifier).run before = (.ok entry, after)) :
    entry.1 = specifier ∧ Followed tree underWay path specifier before entry.2 after := by
  have hcases := follow_cases tree path loadFile specifier before
  rw [hrun] at hcases
  cases hcases with
  | external hkind => exact ⟨rfl, followed_bare tree underWay path specifier hkind before hsound⟩
  | @loaded id _ journal file hkind hfile hrun =>
    have hid := hload file _ id after (sound_aside hsound journal _ _) hrun
    refine ⟨rfl, hid.sound, (loads_aside tree underWay before journal _ _).trans hid.loads, hkind,
      hid.valid, ?_⟩
    rw [hid.loads.options, hid.path_eq]
    exact hfile

theorem loads_specifiers (tree : FileTree) (underWay : List Path) (path : Path)
    (follow : String → Building (String × Target))
    (hfollow : ∀ specifier before entry after, before.Sound →
      (follow specifier).run before = (.ok entry, after) →
        entry.1 = specifier ∧ Followed tree underWay path specifier before entry.2 after)
    (specifiers : List String) (before : Session) (hsound : before.Sound)
    (entries : List (String × Target)) (after : Session)
    (hrun : (specifiers.mapM follow).run before = (.ok entries, after)) :
    after.Sound ∧ before.Loads tree underWay (entries.map Prod.snd) after ∧
      entries.map Prod.fst = specifiers ∧
      ∀ entry ∈ entries, after.Leads tree path entry.1 entry.2 := by
  induction specifiers generalizing before entries with
  | nil =>
    obtain ⟨rfl, rfl⟩ := run_pure_ok hrun
    exact ⟨hsound, .of_same rfl rfl (.refl before) rfl (by simp), rfl, by simp⟩
  | cons first rest ih =>
    rw [List.mapM_cons] at hrun
    obtain ⟨entry, mid, hentry, hrun⟩ := run_bind_ok hrun
    obtain ⟨others, last, hothers, hpure⟩ := run_bind_ok hrun
    obtain ⟨rfl, rfl⟩ := run_pure_ok hpure
    obtain ⟨rfl, hfollowed⟩ := hfollow first before entry mid hsound hentry
    obtain ⟨hlast, hloads, hnames, hleads⟩ := ih mid hfollowed.sound others hothers
    refine ⟨hlast, hfollowed.loads.trans hloads, ?_, fun found hfound => ?_⟩
    · rw [List.map_cons, hnames]
    · rcases List.mem_cons.mp hfound with rfl | hfound
      · exact hfollowed.leads.grows hloads.grows hloads.options _ _ _
      · exact hleads found hfound

section

variable {tree : FileTree} {underWay : List Path} {path : Path} {isEntry : Bool} {program : Program}
  {entries : List (String × Target)} {before mid after : Session} {id : ModuleId}
  (h : Stored path isEntry program entries mid after id)
  (hloads : before.Loads tree (underWay ++ [path]) (entries.map Prod.snd) mid)
include h

theorem Stored.lt_or_eq (other : ModuleId) (hother : other < after.modules.length) :
    other < mid.modules.length ∨ other = id := by
  rw [h.length, h.id_eq] at hother
  rw [h.id_eq]
  exact Nat.lt_succ_iff_lt_or_eq.mp hother

include hloads

theorem Stored.apart (hnew : path ∉ underWay) (other : ModuleId)
    (hold : before.modules.length ≤ other) (hlt : other < after.modules.length) :
    (after.module other).path ∉ underWay := by
  rcases h.lt_or_eq other hlt with hlt | rfl
  · rw [(h.grows.module other hlt).path_eq]
    exact fun hmem => hloads.apart other hold hlt (List.mem_append_left _ hmem)
  · rw [h.path_eq]
    exact hnew

theorem Stored.led (hnames : entries.map Prod.fst = program.specifiers)
    (hleads : ∀ entry ∈ entries, mid.Leads tree path entry.1 entry.2) (other : ModuleId)
    (hold : before.modules.length ≤ other) (hlt : other < after.modules.length) :
    after.Led tree other := by
  rcases h.lt_or_eq other hlt with hlt | rfl
  · exact (hloads.led other hold hlt).grows h.grows h.options other hlt
  · intro entry hentry
    rw [h.dependencies_eq] at hentry
    rw [h.program_eq, h.path_eq]
    exact ⟨hnames ▸ List.mem_map_of_mem hentry,
      (hleads entry hentry).grows h.grows h.options _ _ _⟩

theorem Stored.sourced (hnames : entries.map Prod.fst = program.specifiers)
    (hsource : ∃ found, tree.programAt path = .ok found ∧ program.specifiers = found.specifiers)
    (other : ModuleId) (hold : before.modules.length ≤ other)
    (hlt : other < after.modules.length) : after.Sourced tree other := by
  rcases h.lt_or_eq other hlt with hlt | rfl
  · exact (hloads.sourced other hold hlt).grows h.grows other hlt
  · obtain ⟨found, hfound, hspecifiers⟩ := hsource
    refine ⟨found, h.path_eq ▸ hfound, h.program_eq ▸ hspecifiers, ?_⟩
    rw [h.dependencies_eq]
    exact hnames.trans hspecifiers

theorem Stored.walked : Visits (fun id => (after.module id).moduleDependencies)
    (List.range before.modules.length) ([.module id].filterMap Target.module?)
    (List.range after.modules.length) := by
  have hbelow := (hloads.walked.congr fun other hother =>
    (h.grows.module other (List.mem_range.mp hother)).moduleDependencies_eq).eraseDups
  have hold : id ∉ List.range before.modules.length := by
    rw [List.mem_range, h.id_eq]
    exact Nat.not_lt_of_le hloads.grows.modules_length
  rw [← h.id_eq] at hbelow
  rw [h.length, List.range_succ]
  refine .new hold ?_ (.nil _)
  rw [Module.moduleDependencies, Module.dependencyTargets, h.dependencies_eq, moduleTargets_eq]
  exact hbelow

theorem Stored.asked (external : ExternalId) (hold : before.externals.length ≤ external)
    (hlt : external < after.externals.length) :
    ∃ other, before.modules.length ≤ other ∧ other < after.modules.length ∧
      after.DependsOn other external := by
  rw [h.outside] at hlt
  rcases hloads.asked external hold hlt with hmem | ⟨other, hother, hlt', hdepends⟩
  · refine ⟨id, h.id_eq ▸ hloads.grows.modules_length, h.length ▸ Nat.lt_succ_self id, ?_⟩
    rw [Session.DependsOn, Module.dependencyTargets, h.dependencies_eq]
    exact hmem
  · exact ⟨other, hother, Nat.lt_of_lt_of_le hlt' h.grows.modules_length,
      hdepends.grows h.grows other hlt' external⟩

theorem Stored.loadedAs (hnames : entries.map Prod.fst = program.specifiers)
    (hsource : ∃ found, tree.programAt path = .ok found ∧ program.specifiers = found.specifiers)
    (hleads : ∀ entry ∈ entries, mid.Leads tree path entry.1 entry.2) (hnew : path ∉ underWay)
    (habsent : ∀ other < before.modules.length, (before.module other).path ≠ path) :
    LoadedAs tree underWay path before id after where
  sound := h.sound
  loads :=
    { grows := hloads.grows.trans h.grows
      options := h.options.trans hloads.options
      distinct := fun hdistinct =>
        (hloads.distinct hdistinct).grows_new h.grows (h.id_eq ▸ h.length) fun other hother => by
          rw [← h.id_eq, h.path_eq]
          exact hloads.path_ne (List.mem_append_right _ List.mem_cons_self) habsent other hother
      named := fun hnamed => (hloads.named hnamed).grows h.grows h.outside
      apart := h.apart hloads hnew
      led := h.led hloads hnames hleads
      sourced := h.sourced hloads hnames hsource
      walked := h.walked hloads
      asked := fun external hold hlt => .inr (h.asked hloads external hold hlt) }
  valid := h.length ▸ Nat.lt_succ_self id
  path_eq := h.path_eq

end

theorem path_ne_of_moduleAt?_eq_none (session : Session) (path : Path)
    (h : session.moduleAt? path = none) (id : ModuleId) (hid : id < session.modules.length) :
    (session.module id).path ≠ path := by
  have hall := List.findIdx?_eq_none_iff.mp h (session.module id) (session.module_mem id hid)
  exact fun heq => absurd (beq_iff_eq.mpr heq) (Bool.eq_false_iff.mp hall)

theorem loadedAs_stored (tree : FileTree) (underWay : List Path) (path : Path) (before : Session)
    (hsound : before.Sound) (id : ModuleId) (hstored : before.moduleAt? path = some id)
    (journal : Journal) : LoadedAs tree underWay path before id { before with journal } := by
  obtain ⟨hvalid, hpath, -⟩ := List.findIdx?_eq_some_iff_getElem.mp hstored
  constructor
  · exact sound_aside hsound journal _ _
  · exact .of_same rfl rfl (grows_aside before journal _ _) rfl (by simpa using hvalid)
  · exact hvalid
  · change (before.modules.getD id .blank).path = path
    rw [List.getD_eq_getElem?_getD, List.getElem?_eq_getElem hvalid]
    exact eq_of_beq hpath

theorem loadedAs_finish (tree : FileTree) (underWay : List Path) (isEntry : Bool) (path : Path)
    (text : String) (program : Program) (entries : List (String × Target))
    (before followed : Session) (hsound : followed.Sound)
    (hloads : before.Loads tree (underWay ++ [path]) (entries.map Prod.snd) followed)
    (hnames : entries.map Prod.fst = program.specifiers)
    (hsource : ∃ found, tree.programAt path = .ok found ∧ program.specifiers = found.specifiers)
    (hleads : ∀ entry ∈ entries, followed.Leads tree path entry.1 entry.2)
    (hnew : path ∉ underWay) (habsent : before.moduleAt? path = none) :
    let finished := (finish path isEntry text program entries).run followed
    LoadedAs tree underWay path before finished.1 finished.2 ∧
      (isEntry = true → finished.2.entry = some finished.1) := by
  have hvalid : ∀ target ∈ Table.values entries, followed.Valid target := by
    intro target htarget
    obtain ⟨entry, hentry, rfl⟩ := List.mem_map.mp htarget
    have hlead := hleads entry hentry
    generalize entry.2 = target at hlead
    cases target with
    | module other => exact hlead.2.1
    | external other => exact hlead.2.1
  have hfinished := stored_finish path isEntry text program entries followed hsound hvalid
  exact ⟨hfinished.loadedAs hloads hnames hsource hleads hnew
    (path_ne_of_moduleAt?_eq_none before path habsent), hfinished.entry⟩

/-- A file is loaded with all that it depends on; an entry that was not stored yet becomes the
entry of the session. -/
theorem loaded_load (tree : FileTree) (depth : Nat) (underWay : List Path) (isEntry : Bool)
    (path : Path) (before : Session) (hsound : before.Sound) (id : ModuleId) (after : Session)
    (hrun : (load tree depth underWay isEntry path).run before = (.ok id, after)) :
    LoadedAs tree underWay path before id after ∧
      (isEntry = true → before.moduleAt? path = none → after.entry = some id) := by
  induction depth generalizing underWay isEntry path before id after with
  | zero => cases hrun
  | succ depth ih =>
    have hcases := load_cases tree depth underWay isEntry path before
    rw [hrun] at hcases
    cases hcases with
    | reused journal hstored =>
      exact ⟨loadedAs_stored tree underWay path before hsound id hstored journal,
        fun _ hnone => by cases hstored.symm.trans hnone⟩
    | @followed program _ journal comments nextOffset offset text habsent hnew hsource hrun =>
      obtain ⟨entries, followed, hentries, hfinish⟩ := run_bind_ok hrun
      -- what the file depends on is loaded by induction
      obtain ⟨hfollowed, hloads, hnames, hleads⟩ := loads_specifiers tree _ path _
        (fun specifier before entry after hsound => followed_follow tree _ path _
          (fun file before id after hsound hrun => (ih _ _ file before hsound id after hrun).1)
          specifier before hsound entry after) _ _
            (sound_aside hsound journal comments nextOffset) entries followed hentries
      have hstart := loads_aside tree (underWay ++ [path]) before journal comments nextOffset
      obtain ⟨hloaded, hentry⟩ := loadedAs_finish tree underWay isEntry path text
        (program.moved offset).resolve entries before followed hfollowed (hstart.trans hloads)
        hnames ⟨program, hsource, program.specifiers_placed offset⟩ hleads hnew habsent
      obtain ⟨hid, rfl⟩ := Prod.mk.inj hfinish
      obtain rfl := Except.ok.inj hid
      exact ⟨hloaded, fun hfirst _ => hentry hfirst⟩

end Building

/-! ## What is built -/

/-- A graph below one module, the entry: all modules are reached from it, and all their specifiers
are followed. -/
structure Session.Rooted (session : Session) (tree : FileTree) (path : Path) (root : ModuleId) :
    Prop where
  entry : session.entry = some root
  valid : root < session.modules.length
  path_eq : (session.module root).path = path
  distinct : session.PathsDistinct
  named : session.SpecifiersDistinct
  led : ∀ id, id < session.modules.length → session.Led tree id
  sourced : ∀ id, id < session.modules.length → session.Sourced tree id
  walked : Visits (fun id => (session.module id).moduleDependencies) [] [root]
    (List.range session.modules.length)
  asked : ∀ external, external < session.externals.length →
    ∃ id, id < session.modules.length ∧ session.DependsOn id external

theorem Session.Rooted.of_same {before after : Session} {tree : FileTree} {path : Path}
    {root : ModuleId} (h : before.Rooted tree path root) (hmodules : after.modules = before.modules)
    (hexternals : after.externals = before.externals) (hrecords : after.records = before.records)
    (hbindings : after.bindings = before.bindings) (hoptions : after.options = before.options)
    (hentry : after.entry = before.entry) : after.Rooted tree path root := by
  have hgrows : before.Grows after := .of_same hmodules hexternals
    (hrecords ▸ List.prefix_rfl) (hbindings ▸ List.prefix_rfl)
  constructor
  · exact hentry.trans h.entry
  · exact hmodules ▸ h.valid
  · rw [(hgrows.module root h.valid).path_eq, h.path_eq]
  · exact h.distinct.grows hgrows (by rw [hmodules])
  · exact h.named.grows hgrows (by rw [hexternals])
  · intro id hid
    rw [hmodules] at hid
    exact (h.led id hid).grows hgrows hoptions id hid
  · intro id hid
    rw [hmodules] at hid
    exact (h.sourced id hid).grows hgrows id hid
  · rw [hmodules]
    exact h.walked.congr fun id hid =>
      (hgrows.module id (List.mem_range.mp hid)).moduleDependencies_eq
  · intro external hexternal
    rw [hexternals] at hexternal
    obtain ⟨id, hid, hdepends⟩ := h.asked external hexternal
    exact ⟨id, hmodules ▸ hid, hdepends.grows hgrows id hid external⟩

theorem Session.Rooted.reached {session : Session} {tree : FileTree} {path : Path}
    {root : ModuleId} (h : session.Rooted tree path root) (id : ModuleId)
    (hid : id < session.modules.length) : session.Reaches root id := by
  rcases h.walked.added id (List.mem_range.mpr hid) with hid | ⟨other, hother, hreaches⟩
  · exact absurd hid List.not_mem_nil
  · obtain rfl := List.mem_singleton.mp hother
    exact hreaches

namespace Building

theorem loaded_build (tree : FileTree) (entry : Path) (before : Session) (hsound : before.Sound)
    (id : ModuleId) (after : Session) (hrun : (build tree entry).run before = (.ok id, after)) :
    LoadedAs tree [] (canonicalOr tree entry .empty).1 before id after ∧
      (before.moduleAt? (canonicalOr tree entry .empty).1 = none → after.entry = some id) := by
  obtain ⟨journal, remark, hbuild⟩ := run_build tree entry before
  rw [hbuild] at hrun
  split at hrun
  · rename_i root loaded hload
    obtain ⟨hroot, rfl⟩ := Prod.mk.inj hrun
    obtain rfl := Except.ok.inj hroot
    obtain ⟨hloaded, hentry⟩ := loaded_load tree _ [] true _ _ (sound_aside hsound journal _ _) root
      loaded hload
    refine ⟨⟨sound_aside hloaded.sound _ _ _, ?_, hloaded.valid, hloaded.path_eq⟩, hentry rfl⟩
    exact ((loads_aside tree [] before journal _ _).trans hloaded.loads).trans
      (loads_aside tree [] loaded (remark loaded) _ _)
  · exact absurd (congrArg Prod.fst hrun) nofun

theorem rooted_build (tree : FileTree) (entry : Path) (before : Session) (hsound : before.Sound)
    (hempty : before.modules = []) (houtside : before.externals = []) (id : ModuleId)
    (after : Session) (hrun : (build tree entry).run before = (.ok id, after)) :
    after.Rooted tree (canonicalOr tree entry .empty).1 id := by
  obtain ⟨hloaded, hentry⟩ := loaded_build tree entry before hsound id after hrun
  have hnone : before.modules.length = 0 := by rw [hempty, List.length_nil]
  have hnone' : before.externals.length = 0 := by rw [houtside, List.length_nil]
  have hold : ∀ id, before.modules.length ≤ id := fun id => hnone ▸ Nat.zero_le id
  have hold' : ∀ external, before.externals.length ≤ external := fun external =>
    hnone' ▸ Nat.zero_le external
  constructor
  · apply hentry
    rw [Session.moduleAt?, hempty]
    rfl
  · exact hloaded.valid
  · exact hloaded.path_eq
  · apply hloaded.loads.distinct
    intro first hfirst
    exact absurd hfirst (Nat.not_lt_of_le (hold first))
  · apply hloaded.loads.named
    intro first hfirst
    exact absurd hfirst (Nat.not_lt_of_le (hold' first))
  · exact fun id hid => hloaded.loads.led id (hold id) hid
  · exact fun id hid => hloaded.loads.sourced id (hold id) hid
  · have hwalked := hloaded.loads.walked
    rwa [hnone] at hwalked
  · intro external hexternal
    rcases hloaded.loads.asked external (hold' external) hexternal with hmem | ⟨id, -, hasked⟩
    · exact absurd (List.mem_singleton.mp hmem) nofun
    · exact ⟨id, hasked⟩

end Building

/-- Whether the graph below an entry can be built. -/
def Builds (tree : FileTree) (entry : Path) (options : BundleOptions) : Prop :=
  ((Building.settled tree entry).run (Session.new options)).1.toOption.isSome = true

instance (tree : FileTree) (entry : Path) (options : BundleOptions) :
    Decidable (Builds tree entry options) :=
  inferInstanceAs (Decidable (_ = true))

/-- What a successful build leaves is the graph below its entry. -/
theorem rooted_builtSession (tree : FileTree) (entry : Path) (options : BundleOptions)
    (h : Builds tree entry options) :
    ∃ root, (builtSession tree entry options).Rooted tree (canonicalOr tree entry .empty).1 root ∧
      (builtSession tree entry options).options = options := by
  unfold Builds at h
  generalize hrun : (Building.settled tree entry).run (Session.new options) = result at h
  obtain ⟨outcome, after⟩ := result
  cases outcome with
  | error error => exact absurd h nofun
  | ok order =>
    have hbuilt : builtSession tree entry options = after := congrArg Prod.snd hrun
    rw [hbuilt]
    unfold Building.settled at hrun
    obtain ⟨_, noted, hnote, hrun⟩ := Building.run_bind_ok hrun
    obtain rfl := (Prod.mk.inj hnote).2
    obtain ⟨root, built, hbuild, hsettle⟩ := Building.run_bind_ok hrun
    obtain rfl := (Prod.mk.inj hsettle).2
    have hnoted : (Session.new options).Fills
        ((Session.new options).note .info ("Bundling " ++ entry)) :=
      .of_same (Session.sound_new options) rfl rfl List.prefix_rfl List.prefix_rfl rfl
    have hrooted := Building.rooted_build tree entry _ hnoted.sound rfl rfl root built hbuild
    have hoptions := (Building.blind_build tree entry).options_eq
      ((Session.new options).note .info ("Bundling " ++ entry))
    rw [hbuild] at hoptions
    exact ⟨root, hrooted.of_same rfl rfl rfl rfl rfl rfl, hoptions⟩

theorem builds_of_bundle (tree : FileTree) (entry : Path) (output : Option Path)
    (options : BundleOptions) (bundled : Bundle)
    (h : (bundle tree entry output options).outcome = .ok bundled) : Builds tree entry options := by
  unfold bundle at h
  split at h
  · rename_i found written final hrun
    unfold Building.bundle at hrun
    obtain ⟨_, noted, hnote, hrun⟩ := Building.run_bind_ok hrun
    obtain ⟨root, built, hbuild, -⟩ := Building.run_bind_ok hrun
    obtain rfl := (Prod.mk.inj hnote).2
    have hbuild : (Building.build tree entry).run ((InSession.note .info
        ("Bundling " ++ entry)).run (Session.new options)).2 = (.ok root, built) := hbuild
    unfold Builds Building.settled
    rw [Building.run_lift_bind, Building.run_bind]
    rw [hbuild]
    rfl
  · exact absurd h nofun

end ScopeHoist
