import ScopeHoist.Proofs.Backing
import ScopeHoist.Proofs.Legal
import ScopeHoist.Proofs.Publishing
import ScopeHoist.Proofs.Requests

/-!
# Analysis by edits

All that is done with the session while a module gets its interface is a sequence of edits. What a
target answers it hands out, and the module that comes out of it lists its own declarations, takes
over what targets hand out, and has records of its own for the rest.
-/

set_option autoImplicit false

namespace ScopeHoist

namespace Session

theorem edit_note (session : Session) (level : Level) (text : String) :
    session.Edit (session.note level text) :=
  .quiet _ rfl rfl rfl rfl rfl rfl List.prefix_rfl

theorem edited_report (session : Session) (warning : Warning) :
    session.Edited (session.report warning) := by
  have hwarn : session.Edited (session.warn warning) :=
    .single (.quiet _ rfl rfl rfl rfl rfl rfl (List.prefix_append _ _))
  unfold report
  split
  · split
    · exact .refl
    · exact hwarn
  · exact hwarn

end Session

namespace InSession

open Session

/-! ## Actions that make edits -/

/-- From a grounded session with some property, an action makes edits, and yields a result with
another property. -/
def Edits {α : Type} (pre : Session → Prop) (action : InSession α)
    (post : α → Session → Prop) : Prop :=
  ∀ session, session.Grounded → pre session →
    session.Edited (action.run session).2 ∧ post (action.run session).1 (action.run session).2

def Lasts (property : Session → Prop) : Prop :=
  ∀ before after, before.Grounded → before.Edited after → property before → property after

theorem lasts_and {first second : Session → Prop} (h : Lasts first) (h' : Lasts second) :
    Lasts fun session => first session ∧ second session :=
  fun before after hgrounded hedited hboth =>
    ⟨h before after hgrounded hedited hboth.1, h' before after hgrounded hedited hboth.2⟩

theorem lasts_valid (target : Target) : Lasts fun session => session.Valid target :=
  fun _ _ _ hedited => hedited.serves.grows.valid target

theorem lasts_offers (target : Target) (record : RecordId) :
    Lasts fun session => session.Offers target record :=
  fun _ _ hgrounded hedited => Offers.grows hgrounded hedited.serves.grows target record

theorem lasts_forall {ι : Type} {property : ι → Session → Prop} (h : ∀ i, Lasts (property i)) :
    Lasts fun session => ∀ i, property i session :=
  fun before after hgrounded hedited hall i => h i before after hgrounded hedited (hall i)

theorem lasts_imp {property : Session → Prop} (assumption : Prop) (h : Lasts property) :
    Lasts fun session => assumption → property session :=
  fun before after hgrounded hedited himp ha => h before after hgrounded hedited (himp ha)

def Answered (target : Target) (result : Option RecordId) (session : Session) : Prop :=
  ∀ record, result = some record → session.Offers target record

theorem lasts_answered (target : Target) (result : Option RecordId) :
    Lasts (Answered target result) :=
  lasts_forall fun record => lasts_imp _ (lasts_offers target record)

section

variable {α β : Type} {pre : Session → Prop}

theorem edits_weaken {pre' : Session → Prop} {action : InSession α}
    {post post' : α → Session → Prop} (h : Edits pre action post)
    (hpre : ∀ session, pre' session → pre session)
    (hpost : ∀ value session, post value session → post' value session) :
    Edits pre' action post' := fun session hgrounded hp =>
  ⟨(h session hgrounded (hpre session hp)).1, hpost _ _ (h session hgrounded (hpre session hp)).2⟩

theorem edits_pure {value : α} {post : α → Session → Prop}
    (h : ∀ session, session.Grounded → pre session → post value session) :
    Edits pre (pure value) post := fun session hgrounded hp =>
  ⟨.refl, h session hgrounded hp⟩

theorem edits_bind {action : InSession α} {next : α → InSession β} {mid : α → Session → Prop}
    {post : β → Session → Prop} (hpre : Lasts pre) (haction : Edits pre action mid)
    (hnext : ∀ value, Edits (fun session => pre session ∧ mid value session) (next value) post) :
    Edits pre (action >>= next) post := fun session hgrounded hp => by
  obtain ⟨hedited, hmid⟩ := haction session hgrounded hp
  obtain ⟨hedited', hpost⟩ :=
    hnext _ _ (hgrounded.edited hedited) ⟨hpre _ _ hgrounded hedited hp, hmid⟩
  exact ⟨hedited.trans hedited', hpost⟩

theorem edits_get {next : Session → InSession β} {post : β → Session → Prop}
    (h : ∀ before, Edits (fun session => session = before ∧ pre session) (next before) post) :
    Edits pre (get >>= next) post := fun session hgrounded hp =>
  h session session hgrounded ⟨rfl, hp⟩

theorem edits_note (level : Level) (text : String) :
    Edits pre (note level text) fun _ _ => True := fun session _ _ =>
  ⟨.single (session.edit_note level text), trivial⟩

theorem edits_forM {action : α → InSession Unit} (hpre : Lasts pre) (values : List α)
    (h : ∀ value ∈ values, Edits pre (action value) fun _ _ => True) :
    Edits pre (values.forM action) fun _ _ => True := by
  induction values with
  | nil => exact edits_pure fun _ _ _ => trivial
  | cons first rest ih =>
    change Edits pre (action first >>= fun _ => rest.forM action) _
    apply edits_bind hpre (h first List.mem_cons_self)
    intro _
    exact edits_weaken (ih fun value hvalue => h value (List.mem_cons_of_mem _ hvalue))
      (fun _ hp => hp.1) fun _ _ hpost => hpost

theorem edits_mapM {action : α → InSession β} {post : α → β → Session → Prop}
    (hpre : Lasts pre) (hpost : ∀ value result, Lasts (post value result)) (values : List α)
    (h : ∀ value ∈ values, Edits pre (action value) (post value)) :
    Edits pre (values.mapM action) fun results session =>
      List.Forall₂ (fun value result => post value result session) values results := by
  induction values with
  | nil => exact edits_pure fun _ _ _ => .nil
  | cons first rest ih =>
    rw [List.mapM_cons]
    apply edits_bind hpre (h first List.mem_cons_self)
    intro result
    apply edits_bind (lasts_and hpre (hpost first result))
      (edits_weaken (ih fun value hvalue => h value (List.mem_cons_of_mem _ hvalue))
        (fun _ hp => hp.1) fun _ _ hresults => hresults)
    intro results
    exact edits_pure fun _ _ hp => .cons hp.1.2 hp.2

end

/-! ## Answers -/

theorem edits_externalRecord (id : ExternalId) (name preferred : String)
    (exportedFrom : Option String) :
    Edits (fun session => session.Valid (.external id))
      (externalRecord id name preferred exportedFrom)
      fun record session => (session.external id).exports.get? name = some record := by
  intro session _ hid
  rw [externalRecord_run]
  cases hentry : (session.external id).exports.get? name with
  | some record => exact ⟨.refl, hentry⟩
  | none =>
    refine ⟨.single (.foreign id name (legalName preferred) exportedFrom hid hentry
      (isLegalName_legalName preferred)), ?_⟩
    dsimp only
    rw [Session.external_enterExternal (session.addRecord _) id hid]
    exact Table.get?_insert_self _ _ _

theorem edits_needNamespace (star : StarReexport) :
    Edits (fun session => session.Valid (.external star.external)) (needNamespace star)
      fun _ _ => True := fun session hgrounded hvalid =>
  ⟨(edits_externalRecord star.external aggregateName star.specifier none session hgrounded
    hvalid).1, trivial⟩

theorem edits_needNamespaces (stars : List StarReexport) :
    Edits (fun session => ∀ star ∈ stars, session.Valid (.external star.external))
      (stars.forM needNamespace) fun _ _ => True :=
  edits_forM (lasts_forall fun star : StarReexport =>
    lasts_imp (star ∈ stars) (lasts_valid (.external star.external))) stars fun star hstar =>
      edits_weaken (edits_needNamespace star) (fun _ hall => hall star hstar) fun _ _ _ => trivial

theorem edits_aggregateRecord (id : ModuleId) (preferred : String) :
    Edits (fun session => session.Valid (.module id)) (aggregateRecord id preferred)
      fun record session => (session.module id).exports.get? aggregateName = some record := by
  intro session hgrounded hid
  cases hentry : (session.module id).exports.get? aggregateName with
  | some record =>
    rw [aggregateRecord_of_get? session id preferred record hentry]
    exact ⟨.refl, hentry⟩
  | none =>
    rw [aggregateRecord_run session id hid preferred hentry]
    have hedit := Edit.aggregate id (legalName preferred) hid hentry
      (isLegalName_legalName preferred)
    have hentered : (((session.addRecord
        ⟨aggregateName, legalName preferred, .module id, none, none⟩).enter id aggregateName
          session.records.length).module id).exports.get? aggregateName =
            some session.records.length := by
      rw [Session.module_enter (session.addRecord _) id hid]
      exact Table.get?_insert_self _ _ _
    have hgrows := hedit.serves.grows
    obtain ⟨hstars, -⟩ := edits_needNamespaces (session.module id).stars _
      (hgrounded.edit hedit) fun star hstar =>
        hgrows.valid (.external star.external) (hgrounded.stars id hid star hstar)
    exact ⟨.head hedit hstars,
      hstars.serves.grows.module_exports id (hgrows.valid (.module id) hid) _ _ hentered⟩

theorem edited_reported (session : Session) (id : ModuleId) (name : String)
    (chosen : StarReexport) (others : List StarReexport) :
    session.Edited (reported session id name chosen others) := by
  unfold reported
  split
  · exact .refl
  · exact session.edited_report _

theorem reported_modules (session : Session) (id : ModuleId) (name : String)
    (chosen : StarReexport) (others : List StarReexport) :
    (reported session id name chosen others).modules = session.modules := by
  unfold reported
  split
  · rfl
  · exact session.report_modules _

def Listed (id : ModuleId) (name : String) (result : Option RecordId) (session : Session) : Prop :=
  ∀ record, result = some record → (session.module id).exports.get? name = some record

theorem Listed.answered {id : ModuleId} {name : String} {result : Option RecordId}
    {session : Session} (h : Listed id name result session) (hgrounded : session.Grounded)
    (hid : session.Valid (.module id)) : Answered (.module id) result session :=
  fun record heq =>
    hgrounded.exports id hid record (Table.value_mem_of_get? _ name record (h record heq))

theorem edits_starRecord? (id : ModuleId) (name preferred : String) :
    Edits (fun session => session.Valid (.module id) ∧
        (session.module id).exports.get? name = none)
      (starRecord? id name preferred) (Listed id name) := by
  rintro session hgrounded ⟨hid, habsent⟩
  cases hcandidates : starCandidates session id name with
  | nil =>
    rw [starRecord?_nil session id name preferred hcandidates]
    exact ⟨.refl, fun record heq => by cases heq⟩
  | cons chosen others =>
    rw [starRecord?_run session id name preferred chosen others hcandidates]
    have hstar := starCandidates_mem session id name chosen (by simp [hcandidates])
    have hreported := edited_reported session id name chosen others
    have hvalid : (reported session id name chosen others).Valid (.external chosen.external) :=
      hreported.serves.grows.valid (.external chosen.external)
        (hgrounded.stars id hid chosen hstar)
    obtain ⟨hasked, hentry⟩ := edits_externalRecord chosen.external name preferred
      (some chosen.specifier) _ (hgrounded.edited hreported) hvalid
    have hmodules : ((externalRecord chosen.external name preferred (some chosen.specifier)).run
        (reported session id name chosen others)).2.modules = session.modules := by
      rw [externalRecord_modules, reported_modules]
    generalize (externalRecord chosen.external name preferred (some chosen.specifier)).run
      (reported session id name chosen others) = asked at *
    have hbefore : session.Edited asked.2 := hreported.trans hasked
    have hid' : id < asked.2.modules.length := hbefore.serves.grows.valid (.module id) hid
    have habsent' : (asked.2.module id).exports.get? name = none := by
      rw [Session.module, hmodules]
      exact habsent
    have hlend : asked.2.Edit (asked.2.enter id name asked.1) :=
      .lend id chosen.external name asked.1 hid'
        (hasked.serves.grows.valid (.external chosen.external) hvalid) hentry habsent'
    refine ⟨(hbefore.tail hlend).tail (Session.edit_note _ _ _), fun record heq => ?_⟩
    obtain rfl := Option.some.inj heq
    change ((asked.2.enter id name asked.1).module id).exports.get? name = some asked.1
    rw [Session.module_enter asked.2 id hid']
    exact Table.get?_insert_self _ _ _

theorem edits_moduleRecord? (id : ModuleId) (name preferred : String) :
    Edits (fun session => session.Valid (.module id)) (moduleRecord? id name preferred)
      (Listed id name) := by
  refine edits_get fun before => ?_
  cases hentry : (before.module id).exports.get? name with
  | some record =>
    apply edits_pure
    rintro session - ⟨rfl, hid⟩ found heq
    obtain rfl := Option.some.inj heq
    exact hentry
  | none =>
    by_cases hdefault : name = defaultName
    · simp only [hdefault, beq_self_eq_true, if_true]
      exact edits_pure fun _ _ _ found heq => by cases heq
    · simp only [beq_iff_eq, hdefault, if_false]
      apply edits_weaken (edits_starRecord? id name preferred)
      · rintro session ⟨rfl, hid⟩
        exact ⟨hid, hentry⟩
      · exact fun _ _ hpost => hpost

theorem edits_targetRecord? (target : Target) (name preferred : String) :
    Edits (fun session => session.Valid target) (targetRecord? target name preferred)
      (Answered target) := by
  cases target with
  | external id =>
    apply edits_bind (lasts_valid _) (edits_externalRecord id name preferred none)
    refine fun record => edits_pure fun session hgrounded hpre found heq => ?_
    obtain rfl := Option.some.inj heq
    exact offers_external hgrounded id hpre.1 name record hpre.2
  | module id =>
    by_cases hname : name = aggregateName
    · simp only [targetRecord?, hname, beq_self_eq_true, if_true]
      apply edits_bind (lasts_valid _) (edits_aggregateRecord id preferred)
      refine fun record => edits_pure fun session hgrounded hpre found heq => ?_
      obtain rfl := Option.some.inj heq
      exact hgrounded.exports id hpre.1 record (Table.value_mem_of_get? _ _ _ hpre.2)
    · simp only [targetRecord?, beq_iff_eq, hname, if_false]
      intro session hgrounded hid
      obtain ⟨hedited, hlisted⟩ := edits_moduleRecord? id name preferred session hgrounded hid
      exact ⟨hedited, hlisted.answered (hgrounded.edited hedited)
        (hedited.serves.grows.valid (.module id) hid)⟩

theorem edits_request (module : Module) (target : Target) (specifier name preferred : String) :
    Edits (fun session => session.Valid target) (request module target specifier name preferred)
      (Answered target) := by
  apply edits_bind (lasts_valid target) (edits_targetRecord? target name preferred)
  intro result
  cases result with
  | some record => exact edits_pure fun session _ hpre => hpre.2
  | none =>
    have hreport : Edits (fun _ => True)
        (modify fun session => session.report (.missingExport module.path specifier name))
        fun _ _ => True := fun session _ _ =>
      ⟨session.edited_report (.missingExport module.path specifier name), trivial⟩
    exact edits_weaken (edits_bind (fun _ _ _ _ h => h) hreport fun _ =>
      edits_pure fun _ _ _ => nofun) (fun _ _ => trivial) fun _ _ hpost => hpost

end InSession

/-! ## Drafts -/

namespace Session

section

variable (session : Session) (module : Module)

def Obtains (record : RecordId) : Prop :=
  ∃ target ∈ module.dependencyTargets, session.Offers target record

def Makes (record : RecordId) : Prop :=
  ∃ found owner binding, session.records[record]? = some found ∧
    found.source = .module module.id ∧ found.owner = some owner ∧ owner ∈ module.bindings ∧
      session.bindings[owner]? = some binding ∧ found.localName = binding.declaration.name ∧
        found.identifier = binding.name

/-- A module that is about to be stored, with what is in it so far. -/
structure Drafted : Prop where
  opened : session.Opened module
  bindings : ∀ id ∈ module.bindings, ∃ binding, session.bindings[id]? = some binding ∧
    binding.module = module.id
  imports : ∀ binding ∈ module.imports, binding.target ∈ module.dependencyTargets ∧
    InSession.Answered binding.target binding.resolved session
  stars : ∀ star ∈ module.stars, star.external < session.externals.length
  proper : module.exports.Proper
  entries : ∀ entry ∈ module.exports,
    session.Obtains module entry.2 ∨ session.Makes module entry.2 ∨
      (entry.1 = defaultName ∧ module.unnamedDefault = some entry.2)
  unnamed : ∀ record, module.unnamedDefault = some record → session.IsUnnamed module.id record

/-- What an export statement may publish. -/
def Publishable (published : Published) : Prop :=
  (published.isUnnamed = false ∧
    (session.Obtains module published.record ∨ session.Makes module published.record)) ∨
  (published.isUnnamed = true ∧ published.name = defaultName ∧
    session.IsUnnamed module.id published.record)

end

variable {session : Session} {module : Module}

theorem Drafted.change (h : session.Drafted module) (imports : List ImportBinding)
    (stars : List StarReexport) (exports : Table RecordId)
    (himports : ∀ binding ∈ imports, binding.target ∈ module.dependencyTargets ∧
      InSession.Answered binding.target binding.resolved session)
    (hstars : ∀ star ∈ stars, star.external < session.externals.length) (hproper : exports.Proper)
    (hentries : ∀ entry ∈ exports, entry ∈ module.exports ∨ session.Obtains module entry.2) :
    session.Drafted { module with imports, stars, exports } where
  opened := ⟨h.opened.id_eq, h.opened.targets⟩
  bindings := h.bindings
  imports := himports
  stars := hstars
  proper := hproper
  entries := fun entry hentry => (hentries entry hentry).elim (h.entries entry) .inl
  unnamed := h.unnamed

theorem Drafted.mergeModule (hgrounded : session.Grounded) (h : session.Drafted module)
    (dependency : ModuleId) (htarget : .module dependency ∈ module.dependencyTargets) :
    session.Drafted (module.mergeModule (session.module dependency)) := by
  have hvalid : dependency < session.modules.length := h.opened.targets _ htarget
  apply h.change module.imports _ _ h.imports
  · intro star hstar
    rcases (mem_foldl_addNew _ _ _).mp hstar with hstar | hstar
    · exact h.stars star hstar
    · exact hgrounded.stars dependency hvalid star hstar
  · exact Table.proper_insertAll _ h.proper _
  · intro entry hentry
    rcases Table.mem_of_mem_insertAll _ h.proper _ entry hentry with hentry | hentry
    · exact .inl hentry
    · have hmem := (List.mem_filter.mp hentry).1
      exact .inr ⟨_, htarget,
        hgrounded.exports dependency hvalid entry.2 (List.mem_map_of_mem hmem)⟩

theorem Drafted.exportStar (hgrounded : session.Grounded) (h : session.Drafted module)
    (specifier : String) : session.Drafted (module.exportStar session specifier) := by
  unfold Module.exportStar
  split
  · rename_i id htarget
    exact h.mergeModule hgrounded id (target?_mem module specifier _ htarget)
  · rename_i id htarget
    have hvalid := h.opened.targets _ (target?_mem module specifier _ htarget)
    refine h.change module.imports _ module.exports h.imports (fun star hstar => ?_) h.proper
      fun _ hentry => .inl hentry
    rcases (mem_addNew _ _ _).mp hstar with hstar | rfl
    · exact h.stars star hstar
    · exact hvalid
  · exact h

theorem Drafted.withStars (hgrounded : session.Grounded) (h : session.Drafted module) :
    session.Drafted (module.withStars session) := by
  unfold Module.withStars
  generalize module.starSpecifiers = specifiers
  induction specifiers generalizing module with
  | nil => exact h
  | cons first rest ih => exact ih (h.exportStar hgrounded first)

/-- Entering a published record leaves a draft, whether it takes the place of another or not. -/
theorem Drafted.publish (h : session.Drafted module) (published : Published)
    (hpublished : session.Publishable module published) :
    session.Drafted (module.publish published) := by
  have hmem := Table.mem_insert module.exports h.proper published.name published.record
  have hproper := Table.proper_insert module.exports h.proper published.name published.record
  rcases hpublished with ⟨hkind, hrecord⟩ | ⟨hkind, hname, hunnamed⟩
  · have hdefault : (module.publish published).unnamedDefault = module.unnamedDefault := by
      simp [Module.publish, hkind]
    refine ⟨⟨h.opened.id_eq, h.opened.targets⟩, h.bindings, h.imports, h.stars, hproper,
      fun entry hentry => ?_, ?_⟩
    · rw [hdefault]
      rcases (hmem entry).mp hentry with rfl | ⟨hold, -⟩
      · exact hrecord.imp_right .inl
      · exact h.entries entry hold
    · rw [hdefault]
      exact h.unnamed
  · have hdefault : (module.publish published).unnamedDefault = some published.record := by
      simp [Module.publish, hkind]
    refine ⟨⟨h.opened.id_eq, h.opened.targets⟩, h.bindings, h.imports, h.stars, hproper,
      fun entry hentry => ?_, fun record hrecord => ?_⟩
    · rw [hdefault]
      rcases (hmem entry).mp hentry with rfl | ⟨hold, hne⟩
      · exact .inr (.inr ⟨hname, rfl⟩)
      · rcases h.entries entry hold with hobtains | hmakes | ⟨hkey, -⟩
        · exact .inl hobtains
        · exact .inr (.inl hmakes)
        · exact absurd (hkey.trans hname.symm) hne
    · rw [hdefault] at hrecord
      obtain rfl := Option.some.inj hrecord
      exact hunnamed

theorem Drafted.foldl_publish (published : List Published) (h : session.Drafted module)
    (hall : ∀ entry ∈ published, session.Publishable module entry) :
    session.Drafted (published.foldl Module.publish module) := by
  induction published generalizing module with
  | nil => exact h
  | cons first rest ih =>
    exact ih (h.publish first (hall first List.mem_cons_self)) fun entry hentry =>
      hall entry (List.mem_cons_of_mem _ hentry)

theorem Drafted.obtains (h : session.Drafted module) (identity : Identity)
    (binding : ImportBinding) (hbinding : module.import? identity = some binding)
    (record : RecordId) (hrecord : binding.resolved = some record) :
    session.Obtains module record := by
  obtain ⟨htarget, hanswered⟩ := h.imports binding (List.mem_of_find?_eq_some hbinding)
  exact ⟨binding.target, htarget, hanswered record hrecord⟩

end Session

namespace InSession

open Session

theorem lasts_obtains (module : Module) (record : RecordId) :
    Lasts fun session => session.Obtains module record := by
  rintro before after hgrounded hedited ⟨target, htarget, hoffers⟩
  exact ⟨target, htarget, hoffers.grows hgrounded hedited.serves.grows⟩

theorem lasts_makes (module : Module) (record : RecordId) :
    Lasts fun session => session.Makes module record := by
  rintro before after - hedited ⟨found, owner, binding, hfound, hsource, howner, hmember,
    hbinding, hrest⟩
  have hgrows := hedited.serves.grows
  exact ⟨found, owner, binding, hgrows.record _ _ hfound, hsource, howner, hmember,
    hgrows.binding _ _ hbinding, hrest⟩

theorem lasts_opened (module : Module) : Lasts fun session => session.Opened module := by
  intro before after _ hedited hopened
  refine ⟨?_, fun target htarget =>
    hedited.serves.grows.valid target (hopened.targets target htarget)⟩
  rw [hedited.serves.length]
  exact hopened.id_eq

theorem lasts_drafted (module : Module) : Lasts fun session => session.Drafted module := by
  intro before after hgrounded hedited h
  have hgrows := hedited.serves.grows
  refine ⟨lasts_opened module before after hgrounded hedited h.opened, fun id hid => ?_,
    fun binding hbinding => ⟨(h.imports binding hbinding).1,
      lasts_answered _ _ before after hgrounded hedited (h.imports binding hbinding).2⟩,
    fun star hstar => Nat.lt_of_lt_of_le (h.stars star hstar) hgrows.externals_length, h.proper,
    fun entry hentry => ?_,
    fun record hrecord => hgrows.isUnnamed _ record (h.unnamed record hrecord)⟩
  · obtain ⟨binding, hbinding, hmodule⟩ := h.bindings id hid
    exact ⟨binding, hgrows.binding id binding hbinding, hmodule⟩
  · rcases h.entries entry hentry with hobtains | hmakes | hunnamed
    · exact .inl (lasts_obtains module entry.2 before after hgrounded hedited hobtains)
    · exact .inr (.inl (lasts_makes module entry.2 before after hgrounded hedited hmakes))
    · exact .inr (.inr hunnamed)

theorem lasts_publishable (module : Module) (published : Published) :
    Lasts fun session => session.Publishable module published := by
  rintro before after hgrounded hedited (⟨hkind, hrecord⟩ | ⟨hkind, hname, hunnamed⟩)
  · exact .inl ⟨hkind, hrecord.imp (lasts_obtains module _ before after hgrounded hedited)
      (lasts_makes module _ before after hgrounded hedited)⟩
  · exact .inr ⟨hkind, hname, hedited.serves.grows.isUnnamed _ _ hunnamed⟩

/-! ## Parts of an interface -/

theorem edits_declareAll (module : Module) (hexports : module.exports = [])
    (himports : module.imports = []) (hstars : module.stars = [])
    (hunnamed : module.unnamedDefault = none) :
    Edits (fun session => session.Opened module) (declareAll module) fun result session =>
      session.Drafted result := by
  intro session _ hopened
  rw [run_declareAll]
  refine ⟨.single (.declare _ fun binding hbinding => ?_), ⟨hopened.id_eq, hopened.targets⟩,
    fun id hid => ?_, by simp [himports], by simp [hstars], ?_, by simp [hexports],
    by simp [hunnamed]⟩
  · obtain ⟨declaration, -, rfl⟩ := List.mem_map.mp hbinding
    exact hopened.id_eq
  · obtain ⟨i, hi, rfl⟩ := List.mem_range'.mp hid
    refine ⟨newBindingOf module module.program.declarations[i], ?_, rfl⟩
    simp [hi]
  · simp only [hexports]
    exact Table.proper_nil

def Importable (module : Module) (binding : ImportBinding) (session : Session) : Prop :=
  binding.target ∈ module.dependencyTargets ∧ Answered binding.target binding.resolved session

theorem lasts_importable (module : Module) (binding : ImportBinding) :
    Lasts (Importable module binding) := fun before after hgrounded hedited h =>
  ⟨h.1, lasts_answered _ _ before after hgrounded hedited h.2⟩

theorem lasts_all {α : Type} {property : α → Session → Prop} (h : ∀ a, Lasts (property a))
    (values : List α) : Lasts fun session => ∀ a ∈ values, property a session :=
  lasts_forall fun a => lasts_imp _ (h a)

theorem edits_importName (module : Module) (target : Target)
    (htarget : target ∈ module.dependencyTargets) (source : String)
    (specifier : ImportSpecifier) :
    Edits (fun session => session.Drafted module) (importName module target source specifier)
      (Importable module) := by
  apply edits_bind (lasts_drafted module) (edits_weaken (edits_request module target source _ _)
    (fun session hdraft => hdraft.opened.targets target htarget) fun _ _ hpost => hpost)
  intro resolved
  apply edits_bind (lasts_and (lasts_drafted module) (lasts_answered target resolved))
    (edits_note _ _)
  exact fun _ => edits_pure fun session _ hpre => ⟨htarget, hpre.1.2⟩

theorem edits_importsOf (module : Module) (item : Item) :
    Edits (fun session => session.Drafted module) (importsOf module item)
      fun bindings session => ∀ binding ∈ bindings, Importable module binding session := by
  have hnone : Edits (fun session => session.Drafted module)
      (pure [] : InSession (List ImportBinding))
      fun bindings session => ∀ binding ∈ bindings, Importable module binding session :=
    edits_pure fun _ _ _ => by simp
  cases item with
  | importFrom specifiers source span =>
    simp only [importsOf]
    cases htarget : module.target? source.value with
    | none => exact hnone
    | some target =>
      refine edits_weaken (edits_mapM (lasts_drafted module)
        (fun _ binding => lasts_importable module binding) specifiers fun specifier _ =>
          edits_importName module target (target?_mem module _ target htarget) source.value
            specifier) (fun _ hdraft => hdraft) fun bindings session hall binding hbinding => ?_
      obtain ⟨_, _, himportable⟩ := forall₂_mem_right hall binding hbinding
      exact himportable
  | _ => exact hnone

theorem edits_importAll (module : Module) :
    Edits (fun session => session.Drafted module) (importAll module)
      fun result session => session.Drafted result := by
  apply edits_bind (lasts_drafted module) (edits_mapM (lasts_drafted module)
    (fun _ bindings => lasts_all (lasts_importable module) bindings) module.program.items
    fun item _ => edits_importsOf module item)
  refine fun results => edits_pure fun session _ hpre => ?_
  refine hpre.1.change results.flatten module.stars module.exports (fun binding hbinding => ?_)
    hpre.1.stars hpre.1.proper fun _ hentry => .inl hentry
  obtain ⟨_, _, himportable⟩ := forall₂_flatten hpre.2 binding hbinding
  exact himportable

/-- Actions that publish what a draft may publish. -/
def Publishing (module : Module) (action : InSession (List Published)) : Prop :=
  Edits (fun session => session.Drafted module) action
    fun result session => ∀ published ∈ result, session.Publishable module published

variable {module : Module}

theorem publishing_nothing : Publishing module (pure []) :=
  edits_pure fun _ _ _ => by simp

theorem publishing_get {next : Session → InSession (List Published)}
    (h : ∀ session, Publishing module (next session)) : Publishing module (get >>= next) :=
  edits_get fun before => edits_weaken (h before) (fun _ hpre => hpre.2) fun _ _ hpost => hpost

theorem publishing_all {α : Type} {action : α → InSession (List Published)} (values : List α)
    (h : ∀ value ∈ values, Publishing module (action value)) :
    Publishing module (do return (← values.mapM action).flatten) := by
  apply edits_bind (lasts_drafted module) (edits_mapM (lasts_drafted module)
    (fun _ result => lasts_all (lasts_publishable module) result) values h)
  refine fun results => edits_pure fun session _ hpre published hpublished => ?_
  obtain ⟨_, _, hready⟩ := forall₂_flatten hpre.2 published hpublished
  exact hready

theorem publishing_binding (name : String) (id : BindingId) (hid : id ∈ module.bindings) :
    Publishing module (publishBinding module name id) := by
  intro session _ hdraft
  obtain ⟨found, hfound, -⟩ := hdraft.bindings id hid
  rw [run_publishBinding module name id session found hfound]
  refine ⟨.single (.record _ (congrArg Target.module hdraft.opened.id_eq) (fun owner heq => ?_)
    nofun), fun published hpublished => ?_⟩
  · obtain rfl := Option.some.inj heq
    exact (List.getElem?_eq_some_iff.mp hfound).1
  · obtain rfl := List.mem_singleton.mp hpublished
    exact .inl ⟨rfl, .inr ⟨_, id, found, session.addRecord_get? _, rfl, rfl, hid, hfound, rfl,
      rfl⟩⟩

theorem publishing_unnamed : Publishing module (publishUnnamed module) := by
  intro session _ hdraft
  rw [run_publishUnnamed]
  refine ⟨.single (.record _ (congrArg Target.module hdraft.opened.id_eq) nofun fun _ =>
    isLegalName_legalName _), fun published hpublished => ?_⟩
  obtain rfl := List.mem_singleton.mp hpublished
  exact .inr ⟨rfl, rfl, _, session.addRecord_get? _, rfl, rfl, rfl⟩

theorem publishing_found (name : String) (id : Ident) (session : Session) (binding : BindingId)
    (hbinding : module.bindingOf? session id = some binding) :
    Publishing module (publishBinding module name binding) :=
  publishing_binding name binding (bindingOf?_spec module session id binding hbinding).1

theorem publishing_declared (ids : List Ident) :
    Publishing module (publishDeclared module ids) := by
  apply publishing_all ids
  refine fun id _ => publishing_get fun session => ?_
  cases hbinding : module.bindingOf? session id with
  | some binding => exact publishing_found id.name id session binding hbinding
  | none => exact publishing_nothing

theorem publishing_local (name : String) (id : Ident) :
    Publishing module (publishLocal module name id) := by
  refine publishing_get fun session => ?_
  cases hbinding : module.bindingOf? session id with
  | some binding => exact publishing_found name id session binding hbinding
  | none =>
    cases himport : module.import? id.identity with
    | some binding =>
      refine edits_pure fun session _ hdraft published hpublished => ?_
      simp only [Option.mem_toList, Option.map_eq_some_iff] at hpublished
      obtain ⟨record, hrecord, rfl⟩ := hpublished
      exact .inl ⟨rfl, .inl (hdraft.obtains _ binding himport record hrecord)⟩
    | none =>
      exact edits_bind (lasts_drafted module) (edits_note _ _) fun _ =>
        edits_pure fun _ _ _ => by simp

theorem publishing_specifier (specifier : ExportSpecifier) :
    Publishing module (publishSpecifier module specifier) := by
  cases specifier with
  | aggregate exported span => exact publishing_nothing
  | named origin exported span =>
    cases origin with
    | ident id => exact publishing_local _ id
    | text quotation => exact publishing_nothing

theorem publishing_from (target : Target) (htarget : target ∈ module.dependencyTargets)
    (source : String) (specifier : ExportSpecifier) :
    Publishing module (publishFrom module target source specifier) := by
  apply edits_bind (lasts_drafted module) (edits_weaken (edits_request module target source _ _)
    (fun session hdraft => hdraft.opened.targets target htarget) fun _ _ hpost => hpost)
  refine fun result => edits_pure fun session _ hpre published hpublished => ?_
  simp only [Option.mem_toList, Option.map_eq_some_iff] at hpublished
  obtain ⟨record, hrecord, rfl⟩ := hpublished
  exact .inl ⟨rfl, .inl ⟨target, htarget, hpre.2 record hrecord⟩⟩

theorem publishing_defaultDecl (decl : Tree) :
    Publishing module (publishDefaultDecl module decl) := by
  unfold publishDefaultDecl
  cases (declaredIdents decl).head? with
  | none => exact publishing_unnamed
  | some id =>
    refine publishing_get fun session => ?_
    cases hbinding : module.bindingOf? session id with
    | some binding => exact publishing_found defaultName id session binding hbinding
    | none => exact publishing_unnamed

theorem publishing_default (value : Tree) : Publishing module (publishDefault module value) := by
  cases value with
  | node form span children => exact publishing_unnamed
  | ident id =>
    refine publishing_get fun session => ?_
    cases hbinding : module.bindingOf? session id with
    | some binding =>
      dsimp only
      split
      · exact publishing_found defaultName id session binding hbinding
      · exact publishing_unnamed
    | none =>
      cases himport : (module.import? id.identity).bind ImportBinding.resolved with
      | none => exact publishing_unnamed
      | some record =>
        refine edits_pure fun session _ hdraft published hpublished => ?_
        obtain rfl := List.mem_singleton.mp hpublished
        obtain ⟨binding, hbinding, hrecord⟩ := Option.bind_eq_some_iff.mp himport
        exact .inl ⟨rfl, .inl (hdraft.obtains _ binding hbinding record hrecord)⟩

theorem publishing_item (item : Item) : Publishing module (publishedBy module item) := by
  cases item with
  | exportDecl decl span => exact publishing_declared (declaredIdents decl)
  | exportList specifiers span =>
    exact publishing_all specifiers fun specifier _ => publishing_specifier specifier
  | exportFrom specifiers source span =>
    simp only [publishedBy]
    cases htarget : module.target? source.value with
    | none => exact publishing_nothing
    | some target =>
      exact publishing_all specifiers fun specifier _ =>
        publishing_from target (target?_mem module _ target htarget) source.value specifier
  | exportDefaultDecl decl span => exact publishing_defaultDecl decl
  | exportDefault value span => exact publishing_default value
  | _ => exact publishing_nothing

theorem edits_publishAll (module : Module) :
    Edits (fun session => session.Drafted module) (publishAll module)
      fun result session => session.Drafted result := by
  apply edits_bind (lasts_drafted module) (edits_mapM (lasts_drafted module)
    (fun _ result => lasts_all (lasts_publishable module) result) module.program.items
    fun item _ => publishing_item item)
  refine fun results => edits_pure fun session _ hpre => ?_
  refine hpre.1.foldl_publish _ fun published hpublished => ?_
  obtain ⟨_, _, hready⟩ := forall₂_flatten hpre.2 published hpublished
  exact hready

theorem edits_connect (module : Module) :
    Edits (fun session => session.Drafted module) (connect module)
      fun result session => session.Drafted result := by
  apply edits_bind (lasts_drafted module) (edits_importAll module)
  intro imported
  apply edits_weaken _ (fun _ hpre => hpre.2) fun _ _ hpost => hpost
  apply edits_bind (lasts_drafted imported) (edits_publishAll imported)
  intro published
  apply edits_weaken _ (fun _ hpre => hpre.2) fun _ _ hpost => hpost
  exact edits_bind (lasts_drafted published) (edits_note _ _) fun _ =>
    edits_pure fun _ _ hpre => hpre.1

/-- A module whose targets are in the session gets its interface by edits. -/
theorem edits_complete (module : Module) (hexports : module.exports = [])
    (himports : module.imports = []) (hstars : module.stars = [])
    (hunnamed : module.unnamedDefault = none) :
    Edits (fun session => session.Opened module) (complete module) fun result session =>
      session.Drafted result := by
  change Edits _ (declareAll { module with uses := module.program.uses } >>= fun declared =>
    get >>= fun session => connect (declared.withStars session)) _
  apply edits_bind (lasts_opened module) (edits_weaken
    (edits_declareAll { module with uses := module.program.uses } hexports himports hstars hunnamed)
    (fun session hopened => ⟨hopened.id_eq, hopened.targets⟩) fun _ _ hpost => hpost)
  refine fun declared => edits_get fun before session hgrounded hpre => ?_
  obtain ⟨rfl, -, hdraft⟩ := hpre
  exact edits_connect _ session hgrounded (hdraft.withStars hgrounded)

end InSession

end ScopeHoist
