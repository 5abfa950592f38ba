import ScopeHoist.Proofs.Providing

/-!
# What requests enter

The tables of stored modules and of externals get an entry only because somebody asks for it. What
a module gets is its own namespace or a name lent by an external that it exports whole, and with
its namespace come those of all such externals. An answered request stays answered.
-/

set_option autoImplicit false

namespace ScopeHoist

namespace Session

def Lent (session : Session) (id : ModuleId) (record : RecordId) : Prop :=
  ∃ star ∈ (session.module id).stars, ∃ found, session.records[record]? = some found ∧
    found.source = .external star.external

/-- What became of asking a target for a name. A module has nothing to answer only with a default,
or if it exports no external whole. -/
def Granted (session : Session) (name : String) (result : Option RecordId) : Target → Prop
  | .external id =>
    ∃ record, result = some record ∧ (session.external id).exports.get? name = some record
  | .module id =>
    id < session.modules.length ∧ (session.module id).exports.get? name = result ∧
      (result = none →
        name ≠ aggregateName ∧ (name = defaultName ∨ (session.module id).stars = []))

/-- What a stored module gets for a name that it did not have. -/
def Added (session : Session) (id : ModuleId) (name : String) (record : RecordId) : Prop :=
  (name = aggregateName ∧ session.IsAggregate id record) ∨
    (name ≠ aggregateName ∧ name ≠ defaultName ∧ session.Lent id record)

/-- From one session to another, the tables of stored modules got nothing but namespaces and names
of externals. -/
structure Extends (before after : Session) : Prop where
  grows : before.Grows after
  module : ∀ id, id < before.modules.length → ∀ name record,
    (before.module id).exports.get? name = none →
    (after.module id).exports.get? name = some record → after.Added id name record

/-- Whether an external is asked for a name, by itself or by way of a module that exports it
whole. -/
def AsksExternal (session : Session) (asks : Target → String → Prop) (id : ExternalId)
    (name : String) : Prop :=
  asks (.external id) name ∨ ∃ module, module < session.modules.length ∧
    asks (.module module) name ∧ ∃ star ∈ (session.module module).stars, star.external = id

/-- From one session to another, tables got nothing but what was asked for. -/
structure Enters (asks : Target → String → Prop) (before after : Session) : Prop where
  fills : before.Fills after
  module : ∀ id, id < before.modules.length → ∀ name record,
    (before.module id).exports.get? name = none →
    (after.module id).exports.get? name = some record →
    asks (.module id) name ∧ after.Added id name record
  external : ∀ id name, (before.external id).exports.get? name = none →
    (after.external id).exports.get? name ≠ none → before.AsksExternal asks id name

/-- From one session to another, all that was asked for was entered, and nothing else. -/
structure Answers (asks : Target → String → Prop) (before after : Session) : Prop extends
    Enters asks before after where
  whole : ∀ id, id < before.modules.length →
    (before.module id).exports.get? aggregateName = none →
    (after.module id).exports.get? aggregateName ≠ none →
    ∀ star ∈ (before.module id).stars,
      (after.external star.external).exports.get? aggregateName ≠ none

/-! ## Growth of tables -/

theorem Grows.external_exports {before after : Session} (h : before.Grows after)
    (id : ExternalId) (name : String) (record : RecordId)
    (hentry : (before.external id).exports.get? name = some record) :
    (after.external id).exports.get? name = some record := by
  by_cases hid : id < before.externals.length
  · exact (h.external id hid).kept name record hentry
  · have hblank : before.external id = .blank := by
      simp [Session.external, List.getElem?_eq_none (Nat.le_of_not_lt hid)]
    rw [hblank] at hentry
    cases hentry

theorem Grows.external_held {before after : Session} (h : before.Grows after) (id : ExternalId)
    (name : String) (hentry : (before.external id).exports.get? name ≠ none) :
    (after.external id).exports.get? name ≠ none := by
  obtain ⟨record, hrecord⟩ := Option.ne_none_iff_exists'.mp hentry
  rw [h.external_exports id name record hrecord]
  exact nofun

theorem Grows.stars_eq {before after : Session} (h : before.Grows after) (id : ModuleId)
    (hid : id < before.modules.length) : (after.module id).stars = (before.module id).stars :=
  (h.module id hid).stars_eq

theorem Grows.lent {before after : Session} (h : before.Grows after) (id : ModuleId)
    (hid : id < before.modules.length) (record : RecordId) (hlent : before.Lent id record) :
    after.Lent id record := by
  obtain ⟨star, hstar, found, hfound, hsource⟩ := hlent
  rw [← h.stars_eq id hid] at hstar
  exact ⟨star, hstar, found, h.record record found hfound, hsource⟩

theorem Grows.added {before after : Session} (h : before.Grows after) (id : ModuleId)
    (hid : id < before.modules.length) (name : String) (record : RecordId)
    (hadded : before.Added id name record) : after.Added id name record :=
  hadded.imp (fun hnew => ⟨hnew.1, h.isAggregate id record hnew.2⟩)
    fun hnew => ⟨hnew.1, hnew.2.1, h.lent id hid record hnew.2.2⟩

theorem Extends.of_same {before after : Session} (hgrows : before.Grows after)
    (hmodule : ∀ id, id < before.modules.length →
      (after.module id).exports = (before.module id).exports) : before.Extends after where
  grows := hgrows
  module := fun id hid name record hnone hsome => by
    rw [hmodule id hid, hnone] at hsome
    exact absurd hsome nofun

theorem Extends.refl (session : Session) : session.Extends session :=
  .of_same (.refl session) fun _ _ => rfl

/-- What was granted stays granted, since nothing is added under a name that has no answer. -/
theorem Extends.granted {before after : Session} (h : before.Extends after) (name : String)
    (result : Option RecordId) (target : Target) (hgranted : before.Granted name result target) :
    after.Granted name result target := by
  cases target with
  | external id =>
    obtain ⟨record, rfl, hentry⟩ := hgranted
    exact ⟨record, rfl, h.grows.external_exports id name record hentry⟩
  | module id =>
    obtain ⟨hid, hentry, hnone⟩ := hgranted
    have hid' : id < after.modules.length := Nat.lt_of_lt_of_le hid h.grows.modules_length
    rw [← h.grows.stars_eq id hid] at hnone
    refine ⟨hid', ?_, hnone⟩
    cases result with
    | some record => exact h.grows.module_exports id hid name record hentry
    | none =>
      obtain ⟨haggregate, hname⟩ := hnone rfl
      cases hafter : (after.module id).exports.get? name with
      | none => rfl
      | some record =>
        obtain ⟨hname', -⟩ | ⟨-, hdefault, star, hstar, -⟩ :=
          h.module id hid name record hentry hafter
        · exact absurd hname' haggregate
        · rcases hname with hname | hstars
          · exact absurd hname hdefault
          · rw [hstars] at hstar
            exact absurd hstar List.not_mem_nil

theorem report_externals (session : Session) (warning : Warning) :
    (session.report warning).externals = session.externals := by
  unfold report
  split
  · split <;> rfl
  · rfl

/-! ## Composition -/

variable {asks : Target → String → Prop}

theorem Enters.of_same {before after : Session} (hfills : before.Fills after)
    (hmodule : ∀ id, (after.module id).exports = (before.module id).exports)
    (hexternal : ∀ id, (after.external id).exports = (before.external id).exports) :
    before.Enters asks after where
  fills := hfills
  module := fun id _ name record hnone hsome => by
    rw [hmodule, hnone] at hsome
    exact absurd hsome nofun
  external := fun id name hnone hsome => by
    rw [hexternal] at hsome
    exact absurd hnone hsome

theorem Answers.of_same {before after : Session} (hfills : before.Fills after)
    (hmodule : ∀ id, (after.module id).exports = (before.module id).exports)
    (hexternal : ∀ id, (after.external id).exports = (before.external id).exports) :
    before.Answers asks after where
  toEnters := .of_same hfills hmodule hexternal
  whole := fun id _ hnone hsome => by
    rw [hmodule] at hsome
    exact absurd hnone hsome

theorem Answers.refl (session : Session) (h : session.Sound) : session.Answers asks session :=
  .of_same (.refl session h) (fun _ => rfl) fun _ => rfl

theorem Answers.note (session : Session) (h : session.Sound) (level : Level) (text : String) :
    session.Answers asks (session.note level text) :=
  .of_same (.of_same h rfl rfl List.prefix_rfl List.prefix_rfl rfl) (fun _ => rfl) fun _ => rfl

theorem Fills.of_note {before after : Session} (level : Level) (text : String)
    (h : before.Fills (after.note level text)) : before.Fills after :=
  ⟨h.grows.trans (.of_same rfl rfl List.prefix_rfl List.prefix_rfl),
    h.sound.of_same rfl rfl List.prefix_rfl List.prefix_rfl rfl, h.length, h.outside⟩

theorem Enters.toExtends {before after : Session} (h : before.Enters asks after) :
    before.Extends after where
  grows := h.fills.grows
  module := fun id hid name record hnone hsome => (h.module id hid name record hnone hsome).2

theorem Enters.asksExternal {before after : Session} (h : before.Enters asks after)
    (id : ExternalId) (name : String) (hasks : after.AsksExternal asks id name) :
    before.AsksExternal asks id name := by
  rcases hasks with hasks | ⟨module, hmodule, hasks, star, hstar, hid⟩
  · exact .inl hasks
  · rw [h.fills.length] at hmodule
    rw [h.fills.grows.stars_eq module hmodule] at hstar
    exact .inr ⟨module, hmodule, hasks, star, hstar, hid⟩

theorem Enters.trans {first second third : Session} (h : first.Enters asks second)
    (h' : second.Enters asks third) : first.Enters asks third where
  fills := h.fills.trans h'.fills
  module := fun id hid name record hnone hsome => by
    have hid' : id < second.modules.length := by
      rw [h.fills.length]
      exact hid
    cases hmid : (second.module id).exports.get? name with
    | none => exact h'.module id hid' name record hmid hsome
    | some held =>
      have hkept := h'.fills.grows.module_exports id hid' name held hmid
      rw [hkept] at hsome
      obtain rfl := Option.some.inj hsome
      obtain ⟨hasks, hadded⟩ := h.module id hid name held hnone hmid
      exact ⟨hasks, h'.fills.grows.added id hid' name held hadded⟩
  external := fun id name hnone hsome => by
    by_cases hmid : (second.external id).exports.get? name = none
    · exact h.asksExternal id name (h'.external id name hmid hsome)
    · exact h.external id name hnone hmid

theorem Answers.trans {first second third : Session} (h : first.Answers asks second)
    (h' : second.Answers asks third) : first.Answers asks third where
  toEnters := h.toEnters.trans h'.toEnters
  whole := fun id hid hnone hsome star hstar => by
    have hid' : id < second.modules.length := by
      rw [h.fills.length]
      exact hid
    by_cases hmid : (second.module id).exports.get? aggregateName = none
    · rw [← h.fills.grows.stars_eq id hid] at hstar
      exact h'.whole id hid' hmid hsome star hstar
    · exact h'.fills.grows.external_held _ _ (h.whole id hid hnone hmid star hstar)

end Session

namespace InSession

open Session

/-! ## Actions that answer -/

variable (asks : Target → String → Prop)

/-- From a sound session with some property, an action enters what is asked for, and yields a
result with another property. -/
def Asking {α : Type} (pre : Session → Prop) (action : InSession α)
    (post : α → Session → Prop) : Prop :=
  ∀ session, session.Sound → pre session →
    session.Answers asks (action.run session).2 ∧
      post (action.run session).1 (action.run session).2

def Stays (property : Session → Prop) : Prop :=
  ∀ before after, before.Sound → before.Answers asks after → property before → property after

variable {asks}

theorem stays_of_steady {property : Session → Prop} (h : Steady property) : Stays asks property :=
  fun before after hsound hanswers => h before after hsound hanswers.fills

theorem stays_and {first second : Session → Prop} (h : Stays asks first)
    (h' : Stays asks second) : Stays asks fun session => first session ∧ second session :=
  fun before after hsound hanswers hboth =>
    ⟨h before after hsound hanswers hboth.1, h' before after hsound hanswers hboth.2⟩

theorem stays_valid (target : Target) : Stays asks fun session => session.Valid target :=
  stays_of_steady (steady_valid target)

theorem stays_asksExternal (id : ExternalId) (name : String) :
    Stays asks fun session => session.AsksExternal asks id name := by
  rintro before after - hanswers (hasks | ⟨module, hmodule, hasks, star, hstar, hid⟩)
  · exact .inl hasks
  · refine .inr ⟨module, ?_, hasks, star, ?_, hid⟩
    · rw [hanswers.fills.length]
      exact hmodule
    · rw [hanswers.fills.grows.stars_eq module hmodule]
      exact hstar

theorem stays_forall {ι : Type} {property : ι → Session → Prop}
    (h : ∀ i, Stays asks (property i)) : Stays asks fun session => ∀ i, property i session :=
  fun before after hsound hanswers hall i => h i before after hsound hanswers (hall i)

theorem stays_imp {property : Session → Prop} (assumption : Prop) (h : Stays asks property) :
    Stays asks fun session => assumption → property session :=
  fun before after hsound hanswers himp ha => h before after hsound hanswers (himp ha)

theorem stays_granted (name : String) (result : Option RecordId) (target : Target) :
    Stays asks fun session => session.Granted name result target :=
  fun _ _ _ hanswers => hanswers.toExtends.granted name result target

section

variable {α β : Type} {pre : Session → Prop}

theorem asking_weaken {pre' : Session → Prop} {action : InSession α}
    {post post' : α → Session → Prop} (h : Asking asks pre action post)
    (hpre : ∀ session, pre' session → pre session)
    (hpost : ∀ value session, post value session → post' value session) :
    Asking asks pre' action post' := fun session hsound hp =>
  ⟨(h session hsound (hpre session hp)).1, hpost _ _ (h session hsound (hpre session hp)).2⟩

theorem asking_pure {value : α} {post : α → Session → Prop}
    (h : ∀ session, session.Sound → pre session → post value session) :
    Asking asks pre (pure value) post := fun session hsound hp =>
  ⟨.refl session hsound, h session hsound hp⟩

theorem asking_bind {action : InSession α} {next : α → InSession β} {mid : α → Session → Prop}
    {post : β → Session → Prop} (hpre : Stays asks pre) (haction : Asking asks pre action mid)
    (hnext : ∀ value, Asking asks (fun session => pre session ∧ mid value session) (next value)
      post) :
    Asking asks pre (action >>= next) post := by
  intro session hsound hp
  obtain ⟨hanswers, hmid⟩ := haction session hsound hp
  obtain ⟨hanswers', hpost⟩ :=
    hnext _ _ hanswers.fills.sound ⟨hpre _ _ hsound hanswers hp, hmid⟩
  exact ⟨hanswers.trans hanswers', hpost⟩

theorem asking_get {next : Session → InSession β} {post : β → Session → Prop}
    (h : ∀ before, Asking asks (fun session => session = before ∧ pre session) (next before)
      post) :
    Asking asks pre (get >>= next) post := fun session hsound hp =>
  h session session hsound ⟨rfl, hp⟩

theorem asking_quiet {action : InSession α} {post : α → Session → Prop}
    (h : Keeps pre action post)
    (hmodules : ∀ session, (action.run session).2.modules = session.modules)
    (hexternals : ∀ session, (action.run session).2.externals = session.externals) :
    Asking asks pre action post := by
  intro session hsound hp
  obtain ⟨hfills, hpost⟩ := h session hsound hp
  refine ⟨.of_same hfills (fun id => ?_) fun id => ?_, hpost⟩
  · rw [Session.module, hmodules, ← Session.module]
  · rw [Session.external, hexternals, ← Session.external]

theorem asking_note (level : Level) (text : String) :
    Asking asks pre (note level text) fun _ _ => True :=
  asking_quiet (keeps_note level text) (fun _ => rfl) fun _ => rfl

theorem asking_forM {action : α → InSession Unit} {post : α → Session → Prop}
    (hpre : Stays asks pre) (hpost : ∀ value, Stays asks (post value)) (values : List α)
    (h : ∀ value ∈ values, Asking asks pre (action value) fun _ => post value) :
    Asking asks pre (values.forM action) fun _ session => ∀ value ∈ values, post value session := by
  induction values with
  | nil => exact asking_pure fun _ _ _ => by simp
  | cons first rest ih =>
    change Asking asks pre (action first >>= fun _ => rest.forM action) _
    refine asking_bind hpre (h first List.mem_cons_self) fun _ => ?_
    intro session hsound hp
    obtain ⟨hanswers, hrest⟩ :=
      ih (fun value hvalue => h value (List.mem_cons_of_mem _ hvalue)) session hsound hp.1
    refine ⟨hanswers, fun value hvalue => ?_⟩
    rcases List.mem_cons.mp hvalue with rfl | hvalue
    · exact hpost value _ _ hsound hanswers hp.2
    · exact hrest value hvalue

theorem asking_forM_quiet {action : α → InSession Unit} (hpre : Stays asks pre) (values : List α)
    (h : ∀ value ∈ values, Asking asks pre (action value) fun _ _ => True) :
    Asking asks pre (values.forM action) fun _ _ => True :=
  asking_weaken (asking_forM hpre (fun _ _ _ _ _ _ => trivial) values h) (fun _ hp => hp)
    fun _ _ _ => trivial

theorem asking_mapM {action : α → InSession β} {post : α → β → Session → Prop}
    (hpre : Stays asks pre) (hpost : ∀ value result, Stays asks (post value result))
    (values : List α) (h : ∀ value ∈ values, Asking asks pre (action value) (post value)) :
    Asking asks pre (values.mapM action) fun results session =>
      List.Forall₂ (fun value result => post value result session) values results := by
  induction values with
  | nil => exact asking_pure fun _ _ _ => .nil
  | cons first rest ih =>
    rw [List.mapM_cons]
    refine asking_bind hpre (h first List.mem_cons_self) fun result => ?_
    refine asking_bind (stays_and hpre (hpost first result))
      (asking_weaken (ih fun value hvalue => h value (List.mem_cons_of_mem _ hvalue))
        (fun _ hp => hp.1) fun _ _ hresults => hresults) fun results => ?_
    exact asking_pure fun _ _ hp => .cons hp.1.2 hp.2

end

/-! ## Requests -/

theorem externalRecord_get? (session : Session) (id : ExternalId)
    (hid : id < session.externals.length) (name preferred : String)
    (exportedFrom : Option String) :
    let asked := (externalRecord id name preferred exportedFrom).run session
    (asked.2.external id).exports.get? name = some asked.1 := by
  rw [externalRecord_run]
  cases hentry : (session.external id).exports.get? name with
  | some record => exact hentry
  | none =>
    dsimp only
    rw [external_enterExternal (session.addRecord _) id hid]
    exact Table.get?_insert_self _ _ _

theorem externalRecord_get?_of_ne (session : Session) (id other : ExternalId)
    (name preferred otherName : String) (exportedFrom : Option String)
    (h : ¬ (other = id ∧ otherName = name)) :
    ((((externalRecord id name preferred exportedFrom).run session).2).external
      other).exports.get? otherName = (session.external other).exports.get? otherName := by
  rw [externalRecord_run]
  cases hentry : (session.external id).exports.get? name with
  | some record => rfl
  | none =>
    dsimp only
    rw [enterExternal, external_setExternal]
    split
    · rename_i hother
      obtain ⟨rfl, -⟩ := hother
      have hname : otherName ≠ name := fun heq => h ⟨rfl, heq⟩
      exact Table.get?_insert_ne _ _ _ _ hname
    · rfl

theorem asking_externalRecord (id : ExternalId) (name preferred : String)
    (exportedFrom : Option String) :
    Asking asks
      (fun session => session.Valid (.external id) ∧ session.AsksExternal asks id name)
      (externalRecord id name preferred exportedFrom) fun record session =>
        (session.external id).exports.get? name = some record := by
  intro session hsound ⟨hid, hasks⟩
  have hfills := (keeps_externalRecord id name preferred exportedFrom session hsound hid).1
  have hmodule : ∀ other, (((externalRecord id name preferred exportedFrom).run
      session).2).module other = session.module other := fun other => by
    rw [Session.module, externalRecord_modules, ← Session.module]
  refine ⟨⟨⟨hfills, ?_, ?_⟩, ?_⟩, externalRecord_get? session id hid name preferred exportedFrom⟩
  · intro other _ otherName record hnone hsome
    rw [hmodule, hnone] at hsome
    cases hsome
  · intro other otherName hnone hsome
    by_cases heq : other = id ∧ otherName = name
    · obtain ⟨rfl, rfl⟩ := heq
      exact hasks
    · rw [externalRecord_get?_of_ne session id other name preferred otherName _ heq] at hsome
      exact absurd hnone hsome
  · intro other _ hnone hsome
    rw [hmodule] at hsome
    exact absurd hnone hsome

theorem asking_needNamespace (star : StarReexport) :
    Asking asks
      (fun session => session.Valid (.external star.external) ∧
        session.AsksExternal asks star.external aggregateName)
      (needNamespace star) fun _ session =>
        (session.external star.external).exports.get? aggregateName ≠ none := by
  intro session hsound hpre
  obtain ⟨hanswers, hentry⟩ :=
    asking_externalRecord star.external aggregateName star.specifier none session hsound hpre
  refine ⟨hanswers, ?_⟩
  change ((((externalRecord star.external aggregateName star.specifier none).run
    session).2).external star.external).exports.get? aggregateName ≠ none
  rw [hentry]
  exact nofun

theorem asking_needNamespaces (stars : List StarReexport) :
    Asking asks
      (fun session => ∀ star ∈ stars, session.Valid (.external star.external) ∧
        session.AsksExternal asks star.external aggregateName)
      (stars.forM needNamespace) fun _ session => ∀ star ∈ stars,
        (session.external star.external).exports.get? aggregateName ≠ none := by
  apply asking_forM
  · exact stays_forall fun star => stays_imp _
      (stays_and (stays_valid (.external star.external)) (stays_asksExternal _ _))
  · exact fun star before after _ hanswers =>
      hanswers.fills.grows.external_held star.external aggregateName
  · exact fun star hstar => asking_weaken (asking_needNamespace star)
      (fun _ hall => hall star hstar) fun _ _ hpost => hpost

theorem enters_newAggregate (session : Session) (hsound : session.Sound) (id : ModuleId)
    (hid : id < session.modules.length)
    (habsent : (session.module id).exports.get? aggregateName = none) (identifier : String)
    (hasks : asks (.module id) aggregateName) :
    session.Enters asks ((session.addRecord
      ⟨aggregateName, identifier, .module id, none, none⟩).enter id aggregateName
        session.records.length) := by
  refine ⟨(fills_newAggregate session hsound id hid habsent identifier).1, ?_, ?_⟩
  · intro other hother name record hnone hsome
    by_cases heq : other = id
    · subst heq
      rw [Session.module_enter (session.addRecord _) other hid, Table.get?_insert] at hsome
      split at hsome
      · rename_i hname
        subst hname
        obtain rfl := Option.some.inj hsome
        exact ⟨hasks, .inl ⟨rfl, _, session.addRecord_get? _, rfl, rfl, rfl⟩⟩
      · change (session.module other).exports.get? name = some record at hsome
        rw [hnone] at hsome
        exact absurd hsome nofun
    · rw [Session.module_enter_ne _ id other heq] at hsome
      change (session.module other).exports.get? name = some record at hsome
      rw [hnone] at hsome
      exact absurd hsome nofun
  · intro other name hnone hsome
    exact absurd hnone hsome

theorem asking_aggregateRecord (id : ModuleId) (preferred : String)
    (hasks : asks (.module id) aggregateName) :
    Asking asks (fun session => session.Valid (.module id)) (aggregateRecord id preferred)
      fun record session => session.Granted aggregateName (some record) (.module id) := by
  intro session hsound hid
  have hkeeps := (keeps_aggregateRecord id preferred session hsound hid).1
  cases hentry : (session.module id).exports.get? aggregateName with
  | some record =>
    rw [aggregateRecord_of_get? session id preferred record hentry]
    exact ⟨.refl session hsound, hid, hentry, fun hnone => by cases hnone⟩
  | none =>
    rw [aggregateRecord_run session id hid preferred hentry] at hkeeps ⊢
    have henters := enters_newAggregate session hsound id hid hentry (legalName preferred) hasks
    generalize hentered : (session.addRecord
      ⟨aggregateName, legalName preferred, .module id, none, none⟩).enter id aggregateName
        session.records.length = entered at *
    have hid' : id < entered.modules.length := by
      rw [henters.fills.length]
      exact hid
    have hstars := henters.fills.grows.stars_eq id hid
    have hvalid : ∀ star ∈ (session.module id).stars, entered.Valid (.external star.external) :=
      fun star hstar => henters.fills.grows.valid (.external star.external)
        ((hsound.modules id hid).stars star hstar)
    have hasked : ∀ star ∈ (session.module id).stars,
        entered.AsksExternal asks star.external aggregateName := by
      intro star hstar
      rw [← hstars] at hstar
      exact .inr ⟨id, hid', hasks, star, hstar, rfl⟩
    obtain ⟨hanswers, hheld⟩ := asking_needNamespaces (session.module id).stars entered
      henters.fills.sound fun star hstar => ⟨hvalid star hstar, hasked star hstar⟩
    refine ⟨⟨henters.trans hanswers.toEnters, ?_⟩, ?_, ?_, fun hnone => by cases hnone⟩
    · intro other hother hnone hsome star hstar
      by_cases heq : other = id
      · subst heq
        exact hheld star hstar
      · -- the namespaces of other modules are none of this request
        have hother' : other < entered.modules.length := by
          rw [henters.fills.length]
          exact hother
        have hsame : (entered.module other).exports.get? aggregateName = none := by
          rw [← hentered, Session.module_enter_ne _ id other heq]
          exact hnone
        rw [← henters.fills.grows.stars_eq other hother] at hstar
        exact hanswers.whole other hother' hsame hsome star hstar
    · exact Nat.lt_of_lt_of_le hid' hanswers.fills.grows.modules_length
    · refine hanswers.fills.grows.module_exports id hid' aggregateName _ ?_
      rw [← hentered, Session.module_enter (session.addRecord _) id hid]
      exact Table.get?_insert_self _ _ _

theorem stars_eq_nil_of_starCandidates (session : Session) (id : ModuleId) (name : String)
    (h : starCandidates session id name = []) : (session.module id).stars = [] := by
  unfold starCandidates at h
  dsimp only at h
  split at h
  · exact h
  · rename_i hknown
    rw [h] at hknown
    exact absurd rfl hknown

theorem answers_reported (session : Session) (hsound : session.Sound) (id : ModuleId)
    (name : String) (chosen : StarReexport) (others : List StarReexport) :
    session.Answers asks (reported session id name chosen others) := by
  apply Answers.of_same (fills_reported session hsound id name chosen others)
  · intro other
    unfold reported
    split
    · rfl
    · rw [Session.module, report_modules, ← Session.module]
  · intro other
    unfold reported
    split
    · rfl
    · rw [Session.external, report_externals, ← Session.external]

theorem lent_of_get? {session : Session} (hsound : session.Sound) (id : ModuleId)
    (hid : id < session.modules.length) (star : StarReexport)
    (hstar : star ∈ (session.module id).stars) (name : String) (record : RecordId)
    (hentry : (session.external star.external).exports.get? name = some record) :
    session.Lent id record := by
  have hvalid := (hsound.modules id hid).stars star hstar
  obtain ⟨found, hfound, -, hsource, -⟩ :=
    (hsound.externals star.external hvalid).entries _ (Table.mem_of_get? _ _ _ hentry)
  exact ⟨star, hstar, found, hfound, hsource⟩

theorem answers_enterLent {before mid : Session} (h : before.Answers asks mid) (id : ModuleId)
    (hid : id < before.modules.length) (name : String) (hname : name ≠ aggregateName)
    (hdefault : name ≠ defaultName) (hasks : asks (.module id) name) (record : RecordId)
    (hrecord : mid.Lent id record)
    (hfills : before.Fills (mid.enter id name record)) :
    before.Answers asks (mid.enter id name record) := by
  have hid' : id < mid.modules.length := by
    rw [h.fills.length]
    exact hid
  have hentry : ∀ other otherName, ¬ (other = id ∧ otherName = name) →
      ((mid.enter id name record).module other).exports.get? otherName =
        (mid.module other).exports.get? otherName := by
    intro other otherName hne
    by_cases heq : other = id
    · subst heq
      rw [Session.module_enter mid other hid']
      exact Table.get?_insert_ne _ _ _ _ fun heq => hne ⟨rfl, heq⟩
    · rw [Session.module_enter_ne mid id other heq]
  have hlent : ∀ other held, mid.Lent other held →
      (mid.enter id name record).Lent other held := by
    rintro other held ⟨star, hstar, hfound⟩
    refine ⟨star, ?_, hfound⟩
    by_cases heq : other = id
    · subst heq
      rw [Session.module_enter mid other hid']
      exact hstar
    · rw [Session.module_enter_ne mid id other heq]
      exact hstar
  refine ⟨⟨hfills, ?_, h.external⟩, ?_⟩
  · intro other hother otherName held hnone hsome
    by_cases heq : other = id ∧ otherName = name
    · obtain ⟨rfl, rfl⟩ := heq
      rw [Session.module_enter mid other hid', Table.get?_insert_self] at hsome
      obtain rfl := Option.some.inj hsome
      exact ⟨hasks, .inr ⟨hname, hdefault, hlent other record hrecord⟩⟩
    · rw [hentry other otherName heq] at hsome
      obtain ⟨hask, hadded⟩ := h.module other hother otherName held hnone hsome
      exact ⟨hask, hadded.imp (fun h => h) fun hnew =>
        ⟨hnew.1, hnew.2.1, hlent other held hnew.2.2⟩⟩
  · intro other hother hnone hsome
    rw [hentry other aggregateName fun heq => hname heq.2.symm] at hsome
    exact h.whole other hother hnone hsome

theorem asking_starRecord? (id : ModuleId) (name preferred : String) (hname : name ≠ aggregateName)
    (hdefault : name ≠ defaultName) (hasks : asks (.module id) name) :
    Asking asks
      (fun session => session.Valid (.module id) ∧ (session.module id).exports.get? name = none)
      (starRecord? id name preferred) fun result session =>
        session.Granted name result (.module id) := by
  intro session hsound hpre
  have hfills := (keeps_starRecord? id name preferred hname session hsound hpre).1
  obtain ⟨hid, habsent⟩ := hpre
  cases hcandidates : starCandidates session id name with
  | nil =>
    rw [starRecord?_nil session id name preferred hcandidates]
    exact ⟨.refl session hsound, hid, habsent, fun _ =>
      ⟨hname, .inr (stars_eq_nil_of_starCandidates session id name hcandidates)⟩⟩
  | cons chosen others =>
    rw [starRecord?_run session id name preferred chosen others hcandidates] at hfills ⊢
    have hstar := starCandidates_mem session id name chosen (by simp [hcandidates])
    have hreported := fills_reported session hsound id name chosen others
    have hquiet : session.Answers asks _ :=
      answers_reported session hsound id name chosen others
    have hid' : id < (reported session id name chosen others).modules.length := by
      rw [hreported.length]
      exact hid
    have hask : (reported session id name chosen others).AsksExternal asks chosen.external name :=
      .inr ⟨id, hid', hasks, chosen, by rwa [hreported.grows.stars_eq id hid], rfl⟩
    obtain ⟨hasked, hentry⟩ := asking_externalRecord chosen.external name preferred
      (some chosen.specifier) _ hreported.sound ⟨hreported.grows.valid (.external chosen.external)
        ((hsound.modules id hid).stars chosen hstar), hask⟩
    have hbefore := hquiet.trans hasked
    generalize (externalRecord chosen.external name preferred (some chosen.specifier)).run
      (reported session id name chosen others) = asked at *
    have hvalid : id < asked.2.modules.length := by
      rw [hbefore.fills.length]
      exact hid
    have hlent : asked.2.Lent id asked.1 :=
      lent_of_get? hasked.fills.sound id hvalid chosen
        (by rwa [hbefore.fills.grows.stars_eq id hid]) name asked.1 hentry
    have henter := answers_enterLent hbefore id hid name hname hdefault hasks asked.1 hlent
      (.of_note _ _ hfills)
    refine ⟨henter.trans (Answers.note _ henter.fills.sound _ _), ?_, ?_,
      fun hnone => by cases hnone⟩
    · change id < (asked.2.enter id name asked.1).modules.length
      rw [Session.enter_length]
      exact hvalid
    · change ((asked.2.enter id name asked.1).module id).exports.get? name = some asked.1
      rw [Session.module_enter _ id hvalid]
      exact Table.get?_insert_self _ _ _

theorem asking_targetRecord? (target : Target) (name preferred : String)
    (hasks : asks target name) :
    Asking asks (fun session => session.Valid target) (targetRecord? target name preferred)
      fun result session => session.Granted name result target := by
  cases target with
  | external id =>
    refine asking_bind (stays_valid _) (asking_weaken (asking_externalRecord id name preferred none)
      (fun session hvalid => ⟨hvalid, .inl hasks⟩) fun _ _ hpost => hpost) fun record => ?_
    exact asking_pure fun session _ hpre => ⟨record, rfl, hpre.2⟩
  | module id =>
    by_cases hname : name = aggregateName
    · subst hname
      refine asking_bind (stays_valid _) (asking_aggregateRecord id preferred hasks)
        fun record => ?_
      exact asking_pure fun session _ hpre => hpre.2
    · simp only [targetRecord?, beq_iff_eq, hname, if_false]
      refine asking_get fun before => ?_
      cases hentry : (before.module id).exports.get? name with
      | some record =>
        apply asking_pure
        rintro session - ⟨rfl, hid⟩
        exact ⟨hid, hentry, fun hnone => by cases hnone⟩
      | none =>
        by_cases hdefault : name = defaultName
        · simp only [hdefault, beq_self_eq_true, if_true]
          apply asking_pure
          rintro session - ⟨rfl, hid⟩
          exact ⟨hid, hdefault ▸ hentry, fun _ => ⟨hdefault ▸ hname, .inl rfl⟩⟩
        · simp only [beq_iff_eq, hdefault, if_false]
          apply asking_weaken (asking_starRecord? id name preferred hname hdefault hasks)
          · rintro session ⟨rfl, hid⟩
            exact ⟨hid, hentry⟩
          · exact fun _ _ hpost => hpost

theorem asking_request (module : Module) (target : Target) (specifier name preferred : String)
    (hasks : asks target name) :
    Asking asks (fun session => session.Valid target)
      (request module target specifier name preferred)
      fun result session => session.Granted name result target := by
  refine asking_bind (stays_valid target) (asking_targetRecord? target name preferred hasks)
    fun result => ?_
  cases result with
  | some record => exact asking_pure fun session _ hpre => hpre.2
  | none =>
    have hreport : Asking asks (fun session => session.Granted name none target)
        (modify fun session => session.report (.missingExport module.path specifier name))
        fun _ _ => True :=
      asking_quiet (keeps_modify fun session hsound _ => ⟨.report session hsound _, trivial⟩)
        (fun session => session.report_modules _) fun session => session.report_externals _
    refine asking_weaken (asking_bind (stays_granted name none target) hreport fun _ =>
      asking_pure fun session _ hpre => hpre.1) (fun _ hpre => hpre.2) fun _ _ hpost => hpost

end InSession

end ScopeHoist
