import ScopeHoist.Proofs.Steps

/-!
# Providing keeps sessions sound

Asking for the record of a name yields one that the target supplies. The record is either found in
the table or new; a new one enters the table of the external it comes from, and that of the module
asked, under a name that had no entry.
-/

set_option autoImplicit false

namespace ScopeHoist

namespace Session

def addRecord (session : Session) (record : ExportRecord) : Session :=
  { session with records := session.records ++ [record] }

theorem addRecord_get? (session : Session) (record : ExportRecord) :
    (session.addRecord record).records[session.records.length]? = some record := by
  simp [addRecord]

theorem fills_addRecord (session : Session) (hsound : session.Sound) (record : ExportRecord) :
    session.Fills (session.addRecord record) :=
  .of_same hsound rfl rfl (List.prefix_append _ _) List.prefix_rfl rfl

theorem report_modules (session : Session) (warning : Warning) :
    (session.report warning).modules = session.modules := by
  unfold report
  split
  · split <;> rfl
  · rfl

theorem Fills.report (session : Session) (hsound : session.Sound) (warning : Warning) :
    session.Fills (session.report warning) := by
  have hwarn : session.Fills (session.warn warning) :=
    .of_same hsound rfl rfl List.prefix_rfl List.prefix_rfl rfl
  unfold Session.report
  split
  · split
    · exact .refl session hsound
    · exact hwarn
  · exact hwarn

def enterExternal (session : Session) (id : ExternalId) (name : String) (record : RecordId) :
    Session :=
  session.setExternal id fun external =>
    { external with exports := external.exports.insert name record }

def enter (session : Session) (id : ModuleId) (name : String) (record : RecordId) : Session :=
  session.setModule id fun module => { module with exports := module.exports.insert name record }

theorem external_enterExternal (session : Session) (id : ExternalId)
    (hid : id < session.externals.length) (name : String) (record : RecordId) :
    (session.enterExternal id name record).external id =
      { session.external id with exports := (session.external id).exports.insert name record } := by
  rw [enterExternal, external_setExternal, if_pos ⟨rfl, hid⟩]

theorem external_enterExternal_ne (session : Session) (id other : ExternalId) (h : other ≠ id)
    (name : String) (record : RecordId) :
    (session.enterExternal id name record).external other = session.external other := by
  rw [enterExternal, external_setExternal, if_neg fun heq => h heq.1]

theorem module_enter (session : Session) (id : ModuleId) (hid : id < session.modules.length)
    (name : String) (record : RecordId) :
    (session.enter id name record).module id =
      { session.module id with exports := (session.module id).exports.insert name record } := by
  rw [enter, module_setModule, if_pos ⟨rfl, hid⟩]

theorem enter_length (session : Session) (id : ModuleId) (name : String) (record : RecordId) :
    (session.enter id name record).modules.length = session.modules.length :=
  session.setModule_length id _

theorem module_enter_ne (session : Session) (id other : ModuleId) (h : other ≠ id) (name : String)
    (record : RecordId) : (session.enter id name record).module other = session.module other := by
  rw [enter, module_setModule, if_neg fun heq => h heq.1]

theorem get?_insert_absent {α : Type} (table : Table α) (name : String) (value : α)
    (habsent : table.get? name = none) (other : String) (held : α)
    (hheld : table.get? other = some held) : (table.insert name value).get? other = some held := by
  have hne : other ≠ name := fun heq => by simp [heq, habsent] at hheld
  rw [Table.get?_insert_ne _ _ _ _ hne]
  exact hheld

theorem Grows.enterExternal (session : Session) (id : ExternalId) (name : String)
    (record : RecordId) (habsent : (session.external id).exports.get? name = none) :
    session.Grows (session.enterExternal id name record) :=
  .setExternal session id _ ⟨rfl, get?_insert_absent _ name record habsent⟩

theorem Grows.enter (session : Session) (id : ModuleId) (name : String) (record : RecordId)
    (habsent : (session.module id).exports.get? name = none) :
    session.Grows (session.enter id name record) :=
  .setModule session id _ ⟨rfl, get?_insert_absent _ name record habsent⟩

theorem Fills.enterExternal (session : Session) (hsound : session.Sound) (id : ExternalId)
    (hid : id < session.externals.length) (name : String) (record : RecordId)
    (habsent : (session.external id).exports.get? name = none) (found : ExportRecord)
    (hfound : session.records[record]? = some found) (hname : found.localName = name)
    (hsource : found.source = .external id) (howner : found.owner = none) :
    session.Fills (session.enterExternal id name record) := by
  have hproper := (hsound.externals id hid).proper
  have hgrows := Grows.enterExternal session id name record habsent
  refine ⟨hgrows, hsound.grows hgrows rfl
    (fun other hother => hgrows.soundExports hsound _ (hsound.modules other hother).exports)
    (fun other hother => ?_) rfl, rfl, session.setExternal_length _ _⟩
  have hother : other < session.externals.length := by simpa [Session.enterExternal] using hother
  by_cases heq : other = id
  · subst heq
    have hexports := session.external_enterExternal other hid name record
    refine ⟨by rw [hexports]; exact Table.proper_insert _ hproper _ _, ?_⟩
    intro entry hentry
    rw [hexports] at hentry
    rcases (Table.mem_insert _ hproper _ _ _).mp hentry with rfl | hentry
    · exact ⟨found, hfound, hname, hsource, howner⟩
    · exact (hsound.externals other hid).entries entry hentry.1
  · refine hgrows.soundExternal other (hsound.externals other hother) ?_
    rw [session.external_enterExternal_ne id other heq]

theorem Fills.enter (session : Session) (hsound : session.Sound) (id : ModuleId)
    (hid : id < session.modules.length) (name : String) (record : RecordId)
    (habsent : (session.module id).exports.get? name = none)
    (hsupplies : (session.enter id name record).Supplies (.module id) record)
    (haggregate : name = aggregateName → session.IsAggregate id record) :
    session.Fills (session.enter id name record) := by
  have hproper := hsound.proper id hid
  have hgrows := Grows.enter session id name record habsent
  refine ⟨hgrows, hsound.grows hgrows (setModule_length _ _ _) (fun other hother => ?_)
    (fun other hother => hgrows.soundExternal other (hsound.externals other hother) rfl) rfl,
    setModule_length _ _ _, rfl⟩
  have hold := hgrows.soundExports hsound _ (hsound.modules other hother).exports
  by_cases heq : other = id
  · subst heq
    have hid_eq := hsound.id_eq other hid
    rw [session.module_enter other hid]
    refine ⟨Table.proper_insert _ hproper _ _, fun entry hentry => ?_, fun entry hentry => ?_⟩
    · obtain ⟨key, hkey⟩ := (Table.mem_values _ _).mp hentry
      rcases (Table.mem_insert _ hproper _ _ _).mp hkey with heq | hmem
      · obtain ⟨-, rfl⟩ := Prod.mk.inj heq
        rw [hid_eq]
        exact hsupplies
      · exact hold.supplies entry ((Table.mem_values _ _).mpr ⟨key, hmem.1⟩)
    · rw [Table.get?_insert] at hentry
      split at hentry
      · rename_i hname
        obtain rfl := Option.some.inj hentry
        rw [hid_eq]
        exact .inl (hgrows.isAggregate _ _ (haggregate hname.symm))
      · exact hold.aggregate entry hentry
  · rw [session.module_enter_ne id other heq]
    exact hold

theorem supplies_external (session : Session) (hsound : session.Sound) (id : ExternalId)
    (hid : id < session.externals.length) (name : String) (record : RecordId)
    (hentry : (session.external id).exports.get? name = some record) :
    session.Supplies (.external id) record := by
  obtain ⟨found, hfound, hname, hsource, howner⟩ :=
    (hsound.externals id hid).entries _ (Table.mem_of_get? _ _ _ hentry)
  exact ⟨found, hfound, .external id hsource howner hid (by rw [hname]; exact hentry), hsource⟩

theorem Supplies.of_external {session : Session} {external : ExternalId} {record : RecordId}
    (h : session.Supplies (.external external) record) (module : ModuleId) :
    session.Supplies (.module module) record := by
  obtain ⟨found, hfound, hprovides, hsource⟩ := h
  exact ⟨found, hfound, hprovides, fun source heq => by
    rw [hsource] at heq
    exact absurd heq nofun⟩

end Session

namespace InSession

theorem externalRecord_run (session : Session) (id : ExternalId) (name preferred : String)
    (exportedFrom : Option String) :
    (externalRecord id name preferred exportedFrom).run session =
      match (session.external id).exports.get? name with
      | some record => (record, session)
      | none =>
        (session.records.length,
          (session.addRecord
            ⟨name, legalName preferred, .external id, none, exportedFrom⟩).enterExternal id name
              session.records.length) := by
  simp only [externalRecord, run_bind, run_get]
  cases (session.external id).exports.get? name with
  | some record => simp only [run_pure]
  | none =>
    simp only [run_bind, run_pure, run_newRecord, run_addExternalExport]
    rfl

theorem keeps_externalRecord (id : ExternalId) (name preferred : String)
    (exportedFrom : Option String) :
    Keeps (fun session => session.Valid (.external id))
      (externalRecord id name preferred exportedFrom)
      fun record session => session.Supplies (.external id) record := by
  intro session hsound hid
  rw [externalRecord_run]
  cases hentry : (session.external id).exports.get? name with
  | some record =>
    exact ⟨.refl session hsound, session.supplies_external hsound id hid name record hentry⟩
  | none =>
    have hadd := session.fills_addRecord hsound
      ⟨name, legalName preferred, .external id, none, exportedFrom⟩
    have hset := Session.Fills.enterExternal _ hadd.sound id hid name _ hentry _
      (session.addRecord_get? _) rfl rfl rfl
    refine ⟨hadd.trans hset, Session.supplies_external _ hset.sound id
      (hset.grows.valid (.external id) hid) name _ ?_⟩
    rw [Session.external_enterExternal (session.addRecord _) id hid]
    exact Table.get?_insert_self _ _ _

theorem keeps_needNamespace (star : StarReexport) :
    Keeps (fun session => session.Valid (.external star.external)) (needNamespace star)
      fun _ _ => True := by
  intro session hsound hvalid
  exact ⟨(keeps_externalRecord star.external aggregateName star.specifier none session hsound
    hvalid).1, trivial⟩

theorem fills_newAggregate (session : Session) (hsound : session.Sound) (id : ModuleId)
    (hid : id < session.modules.length)
    (habsent : (session.module id).exports.get? aggregateName = none) (identifier : String) :
    let entered := (session.addRecord ⟨aggregateName, identifier, .module id, none, none⟩).enter id
      aggregateName session.records.length
    session.Fills entered ∧ entered.Supplies (.module id) session.records.length := by
  intro entered
  have hadd := session.fills_addRecord hsound ⟨aggregateName, identifier, .module id, none, none⟩
  have hrecord : entered.records[session.records.length]? =
      some ⟨aggregateName, identifier, .module id, none, none⟩ := session.addRecord_get? _
  have hvalid : id < entered.modules.length := by
    rw [Session.enter_length]
    exact hid
  have hentry : (entered.module id).exports.get? aggregateName = some session.records.length := by
    rw [Session.module_enter (session.addRecord _) id hid]
    exact Table.get?_insert_self _ _ _
  have hsupplies : entered.Supplies (.module id) session.records.length := by
    refine ⟨_, hrecord, .aggregate id rfl rfl hvalid rfl hentry, fun source heq => ?_⟩
    obtain rfl := Target.module.inj heq
    exact Relation.ReflTransGen.refl
  have henter := Session.Fills.enter _ hadd.sound id hid aggregateName _ habsent hsupplies
    fun _ => ⟨_, session.addRecord_get? _, rfl, rfl, rfl⟩
  exact ⟨hadd.trans henter, hsupplies⟩

theorem aggregateRecord_of_get? (session : Session) (id : ModuleId) (preferred : String)
    (record : RecordId)
    (h : (session.module id).exports.get? aggregateName = some record) :
    (aggregateRecord id preferred).run session = (record, session) := by
  simp only [aggregateRecord, run_bind, run_get, h, run_pure]

/-- The namespace of a module that has none yet: its record is entered, then those of the
externals that the module exports whole are seen to. -/
theorem aggregateRecord_run (session : Session) (id : ModuleId) (hid : id < session.modules.length)
    (preferred : String) (hentry : (session.module id).exports.get? aggregateName = none) :
    let entered := (session.addRecord
      ⟨aggregateName, legalName preferred, .module id, none, none⟩).enter id aggregateName
        session.records.length
    (aggregateRecord id preferred).run session =
      (session.records.length, (((session.module id).stars.forM needNamespace).run entered).2) := by
  intro entered
  have hstars : (entered.module id).stars = (session.module id).stars := by
    rw [Session.module_enter (session.addRecord _) id hid]
    rfl
  rw [← hstars]
  simp only [aggregateRecord, run_bind, run_get, hentry, run_pure, run_newRecord, run_addExport]
  rfl

theorem keeps_aggregateRecord (id : ModuleId) (preferred : String) :
    Keeps (fun session => session.Valid (.module id)) (aggregateRecord id preferred)
      fun record session => session.Supplies (.module id) record := by
  intro session hsound hid
  cases hentry : (session.module id).exports.get? aggregateName with
  | some record =>
    have hid_eq := hsound.id_eq id hid
    have hsupplies := (hsound.modules id hid).exports.supplies record
      (Table.value_mem_of_get? _ _ _ hentry)
    rw [hid_eq] at hsupplies
    rw [aggregateRecord_of_get? session id preferred record hentry]
    exact ⟨.refl session hsound, hsupplies⟩
  | none =>
    obtain ⟨hfills, hsupplies⟩ := fills_newAggregate session hsound id hid hentry
      (legalName preferred)
    have hstars := keeps_forM (steady_forall fun star : StarReexport =>
        steady_imp (star ∈ (session.module id).stars) (steady_valid (.external star.external)))
      (session.module id).stars fun star hstar =>
        keeps_weaken (keeps_needNamespace star) (fun _ hall => hall star hstar)
          fun _ _ _ => trivial
    rw [aggregateRecord_run session id hid preferred hentry]
    have := hstars _ hfills.sound fun star hstar => hfills.grows.valid (.external star.external)
      ((hsound.modules id hid).stars star hstar)
    exact ⟨hfills.trans this.1, this.1.grows.supplies hfills.sound _ _ hsupplies⟩

theorem externalRecord_modules (session : Session) (id : ExternalId) (name preferred : String)
    (exportedFrom : Option String) :
    ((externalRecord id name preferred exportedFrom).run session).2.modules = session.modules := by
  rw [externalRecord_run]
  split <;> rfl

theorem externalRecord_warnings (session : Session) (id : ExternalId) (name preferred : String)
    (exportedFrom : Option String) :
    ((externalRecord id name preferred exportedFrom).run session).2.warnings =
      session.warnings := by
  rw [externalRecord_run]
  split <;> rfl

theorem starCandidates_sublist (session : Session) (id : ModuleId) (name : String) :
    (starCandidates session id name).Sublist (session.module id).stars := by
  unfold starCandidates
  dsimp only
  split
  · exact List.Sublist.refl _
  · exact List.filter_sublist

theorem starCandidates_mem (session : Session) (id : ModuleId) (name : String)
    (star : StarReexport) (h : star ∈ starCandidates session id name) :
    star ∈ (session.module id).stars :=
  (starCandidates_sublist session id name).subset h

def reported (session : Session) (id : ModuleId) (name : String) (chosen : StarReexport)
    (others : List StarReexport) : Session :=
  if others.isEmpty then session
  else session.report (.ambiguousStar (session.module id).path name
    ((chosen :: others).map StarReexport.specifier) chosen.specifier)

theorem fills_reported (session : Session) (hsound : session.Sound) (id : ModuleId)
    (name : String) (chosen : StarReexport) (others : List StarReexport) :
    session.Fills (reported session id name chosen others) := by
  unfold reported
  split
  · exact .refl session hsound
  · exact .report session hsound _

theorem starRecord?_nil (session : Session) (id : ModuleId) (name preferred : String)
    (h : starCandidates session id name = []) :
    (starRecord? id name preferred).run session = (none, session) := by
  simp only [starRecord?, run_bind, run_get, h, run_pure]

theorem starRecord?_run (session : Session) (id : ModuleId) (name preferred : String)
    (chosen : StarReexport) (others : List StarReexport)
    (h : starCandidates session id name = chosen :: others) :
    let asked := (externalRecord chosen.external name preferred (some chosen.specifier)).run
      (reported session id name chosen others)
    (starRecord? id name preferred).run session =
      (some asked.1, (asked.2.enter id name asked.1).note .trace
        ("Resolved " ++ name ++ " of " ++ (session.module id).path ++ " through export * from "
          ++ chosen.specifier)) := by
  simp only [starRecord?, run_bind, run_get, h]
  cases others with
  | nil =>
    simp only [reported, List.isEmpty_nil, Bool.not_true, Bool.false_eq_true, if_true, if_false,
      run_bind, run_pure, run_note, run_addExport, Session.enter]
  | cons first rest =>
    simp only [reported, List.isEmpty_cons, Bool.not_false, Bool.false_eq_true, if_true, if_false,
      run_modify, run_bind, run_pure, run_note, run_addExport, Session.enter]

theorem keeps_starRecord? (id : ModuleId) (name preferred : String) (hname : name ≠ aggregateName) :
    Keeps (fun session => session.Valid (.module id) ∧
        (session.module id).exports.get? name = none)
      (starRecord? id name preferred)
      fun result session => ∀ record, result = some record →
        session.Supplies (.module id) record := by
  intro session hsound ⟨hid, habsent⟩
  cases hcandidates : starCandidates session id name with
  | nil =>
    rw [starRecord?_nil session id name preferred hcandidates]
    exact ⟨.refl session hsound, nofun⟩
  | cons chosen others =>
    rw [starRecord?_run session id name preferred chosen others hcandidates]
    have hstar := starCandidates_mem session id name chosen (by simp [hcandidates])
    have hreported := fills_reported session hsound id name chosen others
    obtain ⟨hasked, hsupplies⟩ := keeps_externalRecord chosen.external name preferred
      (some chosen.specifier) _ hreported.sound
      (hreported.grows.valid (.external chosen.external)
        ((hsound.modules id hid).stars chosen hstar))
    have hbefore := hreported.trans hasked
    generalize hrun : (externalRecord chosen.external name preferred
      (some chosen.specifier)).run (reported session id name chosen others) = asked at *
    have hvalid : id < asked.2.modules.length := hbefore.grows.valid (.module id) hid
    have hmodules : asked.2.module id = (reported session id name chosen others).module id := by
      rw [Session.module, ← hrun, externalRecord_modules]
      rfl
    have habsent' : (asked.2.module id).exports.get? name = none := by
      rw [hmodules, reported]
      split
      · exact habsent
      · rw [Session.module, Session.report_modules]
        exact habsent
    have henter := Session.Fills.enter asked.2 hasked.sound id hvalid name asked.1 habsent'
      ((Session.Grows.enter asked.2 id name asked.1 habsent').supplies hasked.sound _ _
        (hsupplies.of_external id)) fun heq => absurd heq hname
    have hnote : (asked.2.enter id name asked.1).Fills ((asked.2.enter id name asked.1).note .trace
        ("Resolved " ++ name ++ " of " ++ (session.module id).path ++ " through export * from "
          ++ chosen.specifier)) :=
      .of_same henter.sound rfl rfl List.prefix_rfl List.prefix_rfl rfl
    refine ⟨hbefore.trans (henter.trans hnote), fun record heq => ?_⟩
    obtain rfl := Option.some.inj heq
    exact (henter.trans hnote).grows.supplies hasked.sound _ _ (hsupplies.of_external id)

theorem keeps_moduleRecord? (id : ModuleId) (name preferred : String)
    (hname : name ≠ aggregateName) :
    Keeps (fun session => session.Valid (.module id)) (moduleRecord? id name preferred)
      fun result session => ∀ record, result = some record →
        session.Supplies (.module id) record := by
  refine keeps_get fun before => ?_
  cases hentry : (before.module id).exports.get? name with
  | some record =>
    refine keeps_pure fun session hsound hpre found heq => ?_
    obtain ⟨rfl, hid⟩ := hpre
    obtain rfl := Option.some.inj heq
    have := (hsound.modules id hid).exports.supplies record (Table.value_mem_of_get? _ _ _ hentry)
    rwa [hsound.id_eq id hid] at this
  | none =>
    by_cases hdefault : name = defaultName
    · simp only [hdefault, beq_self_eq_true, if_true]
      exact keeps_pure fun _ _ _ => nofun
    · simp only [beq_iff_eq, hdefault, if_false]
      refine keeps_weaken (keeps_starRecord? id name preferred hname) (fun session hpre => ?_)
        fun _ _ hpost => hpost
      obtain ⟨rfl, hid⟩ := hpre
      exact ⟨hid, hentry⟩

theorem keeps_targetRecord? (target : Target) (name preferred : String) :
    Keeps (fun session => session.Valid target) (targetRecord? target name preferred)
      fun result session => ∀ record, result = some record → session.Supplies target record := by
  cases target with
  | external id =>
    refine keeps_bind (steady_valid _) (keeps_externalRecord id name preferred none)
      fun record => keeps_pure fun session _ hpre found heq => ?_
    obtain rfl := Option.some.inj heq
    exact hpre.2
  | module id =>
    by_cases hname : name = aggregateName
    · simp only [targetRecord?, hname, beq_self_eq_true, if_true]
      refine keeps_bind (steady_valid _) (keeps_aggregateRecord id preferred)
        fun record => keeps_pure fun session _ hpre found heq => ?_
      obtain rfl := Option.some.inj heq
      exact hpre.2
    · simp only [targetRecord?, beq_iff_eq, hname, if_false]
      exact keeps_moduleRecord? id name preferred hname

end InSession

end ScopeHoist
