import ScopeHoist.Proofs.Providing

/-!
# What stands behind records

After a session was shaken, and when its declarations have their names in the bundle, it is not
sound any more: declarations are gone, and names differ from those in the source. What stays is the
web of references. A record that some table or live import holds is backed by the place that it
comes from, and requests change a session only by edits that keep this so.
-/

set_option autoImplicit false

namespace ScopeHoist

namespace Session

/-- A record is held where it comes from, and called like the declaration that it is of. -/
inductive Backs (session : Session) (id : RecordId) (record : ExportRecord) : Prop
  | external (external : ExternalId) (hsource : record.source = .external external)
      (howner : record.owner = none) (hvalid : external < session.externals.length)
      (hentry : (session.external external).exports.get? record.localName = some id)
  | declared (module : ModuleId) (owner : BindingId) (binding : Binding)
      (hsource : record.source = .module module) (howner : record.owner = some owner)
      (hvalid : module < session.modules.length)
      (hmember : owner ∈ (session.module module).bindings)
      (hbinding : session.bindings[owner]? = some binding)
      (hname : record.localName = binding.declaration.name)
      (hidentifier : record.identifier = binding.name)
      (hentry : id ∈ (session.module module).exports.values)
  | unnamed (module : ModuleId) (hsource : record.source = .module module)
      (howner : record.owner = none) (hvalid : module < session.modules.length)
      (hdefault : (session.module module).unnamedDefault = some id)
  | aggregate (module : ModuleId) (hsource : record.source = .module module)
      (howner : record.owner = none) (hvalid : module < session.modules.length)
      (hentry : (session.module module).exports.get? aggregateName = some id)

/-- A target can hand out a record: something stands behind it, within what the target reaches. -/
def Offers (session : Session) (target : Target) (id : RecordId) : Prop :=
  ∃ record, session.records[id]? = some record ∧ session.Backs id record ∧
    match target with
    | .module module => ∀ source, record.source = .module source → session.Reaches module source
    | .external external => record.source = .external external

/-- What tables and live imports hold is handed out by modules and by targets of imports. -/
structure Grounded (session : Session) : Prop where
  proper : ∀ id, id < session.modules.length → (session.module id).exports.Proper
  stars : ∀ id, id < session.modules.length → ∀ star ∈ (session.module id).stars,
    star.external < session.externals.length
  externals : ∀ id, id < session.externals.length → session.SoundExternal id
  exports : ∀ id, id < session.modules.length → ∀ record ∈ (session.module id).exports.values,
    session.Offers (.module id) record
  imports : ∀ id, id < session.modules.length → ∀ binding ∈ (session.module id).imports,
    0 < binding.references → ∀ record, binding.resolved = some record →
      session.Offers binding.target record

/-! ## What growth keeps -/

section

variable {before after : Session} (hgrounded : before.Grounded) (h : before.Grows after)
include hgrounded h

theorem Backs.grows (id : RecordId) (record : ExportRecord) (hbacks : before.Backs id record) :
    after.Backs id record := by
  cases hbacks with
  | external external hsource howner hvalid hentry =>
    exact .external external hsource howner (Nat.lt_of_lt_of_le hvalid h.externals_length)
      ((h.external external hvalid).kept _ _ hentry)
  | declared module owner binding hsource howner hvalid hmember hbinding hname hidentifier hentry =>
    obtain ⟨key, hkey⟩ := Table.get?_of_mem_values _ (hgrounded.proper module hvalid) id hentry
    have hafter := h.module_exports module hvalid key id hkey
    rw [← (h.module module hvalid).bindings_eq] at hmember
    exact .declared module owner binding hsource howner (Nat.lt_of_lt_of_le hvalid h.modules_length)
      hmember (h.binding owner binding hbinding) hname hidentifier
      (Table.value_mem_of_get? _ key id hafter)
  | unnamed module hsource howner hvalid hdefault =>
    rw [← (h.module module hvalid).unnamedDefault_eq] at hdefault
    exact .unnamed module hsource howner (Nat.lt_of_lt_of_le hvalid h.modules_length) hdefault
  | aggregate module hsource howner hvalid hentry =>
    exact .aggregate module hsource howner (Nat.lt_of_lt_of_le hvalid h.modules_length)
      (h.module_exports module hvalid _ _ hentry)

theorem Offers.grows (target : Target) (id : RecordId) (hoffers : before.Offers target id) :
    after.Offers target id := by
  obtain ⟨record, hrecord, hbacks, hsource⟩ := hoffers
  refine ⟨record, h.record id record hrecord, hbacks.grows hgrounded h id record, ?_⟩
  cases target with
  | module module => exact fun source heq => h.reaches module source (hsource source heq)
  | external external => exact hsource

theorem Grounded.grows (hlength : after.modules.length = before.modules.length)
    (hproper : ∀ id, id < before.modules.length → (after.module id).exports.Proper)
    (hnew : ∀ id, id < before.modules.length → ∀ record ∈ (after.module id).exports.values,
      record ∈ (before.module id).exports.values ∨ after.Offers (.module id) record)
    (hexternals : ∀ id, id < after.externals.length → after.SoundExternal id) :
    after.Grounded where
  proper := fun id hid => hproper id (hlength ▸ hid)
  stars := fun id hid star hstar => by
    have hid : id < before.modules.length := hlength ▸ hid
    rw [(h.module id hid).stars_eq] at hstar
    exact Nat.lt_of_lt_of_le (hgrounded.stars id hid star hstar) h.externals_length
  externals := hexternals
  exports := fun id hid record hrecord => by
    have hid : id < before.modules.length := hlength ▸ hid
    rcases hnew id hid record hrecord with hold | hoffers
    · exact (hgrounded.exports id hid record hold).grows hgrounded h
    · exact hoffers
  imports := fun id hid binding hbinding hlive record hrecord => by
    have hid : id < before.modules.length := hlength ▸ hid
    rw [(h.module id hid).imports_eq] at hbinding
    exact (hgrounded.imports id hid binding hbinding hlive record hrecord).grows hgrounded h

theorem Grounded.of_same (hmodules : after.modules = before.modules)
    (hexternals : after.externals = before.externals) : after.Grounded := by
  have hmodule : ∀ id, after.module id = before.module id := fun id => by
    simp [Session.module, hmodules]
  have hexternal : ∀ id, after.external id = before.external id := fun id => by
    simp [Session.external, hexternals]
  apply hgrounded.grows h (by rw [hmodules])
  · intro id hid
    rw [hmodule]
    exact hgrounded.proper id hid
  · intro id hid record hrecord
    rw [hmodule] at hrecord
    exact .inl hrecord
  · intro id hid
    rw [hexternals] at hid
    exact h.soundExternal id (hgrounded.externals id hid) (by rw [hexternal])

end

theorem offers_external {session : Session} (hgrounded : session.Grounded) (id : ExternalId)
    (hid : id < session.externals.length) (name : String) (record : RecordId)
    (hentry : (session.external id).exports.get? name = some record) :
    session.Offers (.external id) record := by
  obtain ⟨found, hfound, hname, hsource, howner⟩ :=
    (hgrounded.externals id hid).entries _ (Table.mem_of_get? _ _ _ hentry)
  exact ⟨found, hfound, .external id hsource howner hid (by rw [hname]; exact hentry), hsource⟩

theorem Offers.of_external {session : Session} {external : ExternalId} {record : RecordId}
    (h : session.Offers (.external external) record) (module : ModuleId) :
    session.Offers (.module module) record := by
  obtain ⟨found, hfound, hbacks, hsource⟩ := h
  refine ⟨found, hfound, hbacks, fun source heq => ?_⟩
  rw [hsource] at heq
  exact absurd heq nofun

/-! ## Edits -/

/-- A change that is made to a session while a module gets its interface. That module will have the
number behind those of all stored ones. -/
inductive Edit (before : Session) : Session → Prop
  /-- Something is noted down or warned of. -/
  | quiet (after : Session) (hmodules : after.modules = before.modules)
      (hexternals : after.externals = before.externals) (hrecords : after.records = before.records)
      (hbindings : after.bindings = before.bindings) (hentry : after.entry = before.entry)
      (hoptions : after.options = before.options)
      (hwarnings : before.warnings <+: after.warnings) : before.Edit after
  /-- The module makes its declarations known. -/
  | declare (bindings : List Binding)
      (hmodule : ∀ binding ∈ bindings, binding.module = before.modules.length) :
      before.Edit { before with bindings := before.bindings ++ bindings }
  /-- The module gets a record for a value of its own. -/
  | record (record : ExportRecord) (hsource : record.source = .module before.modules.length)
      (howner : ∀ owner, record.owner = some owner → owner < before.bindings.length)
      (hlegal : record.owner = none → isLegalName record.identifier = true) :
      before.Edit (before.addRecord record)
  /-- An external gets a record for a name that it did not have. -/
  | foreign (id : ExternalId) (name identifier : String) (exportedFrom : Option String)
      (hid : id < before.externals.length)
      (habsent : (before.external id).exports.get? name = none)
      (hlegal : isLegalName identifier = true) :
      before.Edit ((before.addRecord
        ⟨name, identifier, .external id, none, exportedFrom⟩).enterExternal id name
          before.records.length)
  /-- A stored module gets a record for its namespace. -/
  | aggregate (id : ModuleId) (identifier : String) (hid : id < before.modules.length)
      (habsent : (before.module id).exports.get? aggregateName = none)
      (hlegal : isLegalName identifier = true) :
      before.Edit ((before.addRecord ⟨aggregateName, identifier, .module id, none, none⟩).enter id
        aggregateName before.records.length)
  /-- A stored module takes over a name of an external that it exports whole. -/
  | lend (id : ModuleId) (external : ExternalId) (name : String) (record : RecordId)
      (hid : id < before.modules.length) (hexternal : external < before.externals.length)
      (hentry : (before.external external).exports.get? name = some record)
      (habsent : (before.module id).exports.get? name = none) :
      before.Edit (before.enter id name record)

/-- Where the records and declarations of a session with some number of modules may come from. -/
structure Placed (session : Session) (count : Nat) : Prop where
  source : ∀ record ∈ session.records, ∀ module, record.source = .module module → module < count
  external : ∀ record ∈ session.records, ∀ external, record.source = .external external →
    external < session.externals.length
  owner : ∀ record ∈ session.records, ∀ owner, record.owner = some owner →
    owner < session.bindings.length
  module : ∀ binding ∈ session.bindings, binding.module < count

/-- What edits leave as it is, and what they only add to. -/
structure Serves (before after : Session) : Prop where
  grows : before.Grows after
  length : after.modules.length = before.modules.length
  outside : after.externals.length = before.externals.length
  entry : after.entry = before.entry
  options : after.options = before.options
  dependents : ∀ id, (after.module id).dependents = (before.module id).dependents
  importers : ∀ id, (after.external id).dependents = (before.external id).dependents
  warnings : before.warnings <+: after.warnings
  placed : before.Placed (before.modules.length + 1) → after.Placed (before.modules.length + 1)

theorem Serves.refl (session : Session) : session.Serves session :=
  ⟨.refl session, rfl, rfl, rfl, rfl, fun _ => rfl, fun _ => rfl, List.prefix_rfl, fun h => h⟩

theorem Serves.trans {first second third : Session} (h : first.Serves second)
    (h' : second.Serves third) : first.Serves third where
  grows := h.grows.trans h'.grows
  length := h'.length.trans h.length
  outside := h'.outside.trans h.outside
  entry := h'.entry.trans h.entry
  options := h'.options.trans h.options
  dependents := fun id => (h'.dependents id).trans (h.dependents id)
  importers := fun id => (h'.importers id).trans (h.importers id)
  warnings := h.warnings.trans h'.warnings
  placed := fun hplaced => by
    have hlater := h'.placed
    rw [h.length] at hlater
    exact hlater (h.placed hplaced)

theorem Placed.of_same {before after : Session} {count : Nat} (h : before.Placed count)
    (hrecords : after.records = before.records) (hbindings : after.bindings = before.bindings)
    (hexternals : after.externals.length = before.externals.length) : after.Placed count where
  source := hrecords ▸ h.source
  external := by
    rw [hrecords, hexternals]
    exact h.external
  owner := by
    rw [hrecords, hbindings]
    exact h.owner
  module := hbindings ▸ h.module

theorem Placed.addRecord {session : Session} {count : Nat} (h : session.Placed count)
    (record : ExportRecord) (hsource : ∀ module, record.source = .module module → module < count)
    (hexternal : ∀ external, record.source = .external external →
      external < session.externals.length)
    (howner : ∀ owner, record.owner = some owner → owner < session.bindings.length) :
    (session.addRecord record).Placed count := by
  have hmem : ∀ found, found ∈ (session.addRecord record).records →
      found ∈ session.records ∨ found = record := fun found hfound => by
    simpa [Session.addRecord] using hfound
  refine ⟨fun found hfound => ?_, fun found hfound => ?_, fun found hfound => ?_, h.module⟩
  · rcases hmem found hfound with hold | rfl
    · exact h.source found hold
    · exact hsource
  · rcases hmem found hfound with hold | rfl
    · exact h.external found hold
    · exact hexternal
  · rcases hmem found hfound with hold | rfl
    · exact h.owner found hold
    · exact howner

theorem Grows.addRecord (session : Session) (record : ExportRecord) :
    session.Grows (session.addRecord record) :=
  .of_same rfl rfl (List.prefix_append _ _) List.prefix_rfl

theorem enter_dependents (session : Session) (id : ModuleId) (name : String) (record : RecordId)
    (other : ModuleId) :
    ((session.enter id name record).module other).dependents =
      (session.module other).dependents := by
  rw [enter, module_setModule]
  split
  · rename_i h
    rw [h.1]
  · rfl

theorem enterExternal_dependents (session : Session) (id : ExternalId) (name : String)
    (record : RecordId) (other : ExternalId) :
    ((session.enterExternal id name record).external other).dependents =
      (session.external other).dependents := by
  rw [enterExternal, external_setExternal]
  split
  · rename_i h
    rw [h.1]
  · rfl

theorem Edit.serves {before after : Session} (h : before.Edit after) : before.Serves after := by
  cases h with
  | quiet after hmodules hexternals hrecords hbindings hentry hoptions hwarnings =>
    have hgrows : before.Grows after := .of_same hmodules hexternals
      (hrecords ▸ List.prefix_rfl) (hbindings ▸ List.prefix_rfl)
    refine ⟨hgrows, by rw [hmodules], by rw [hexternals], hentry, hoptions, fun id => ?_,
      fun id => ?_, hwarnings,
      fun hplaced => hplaced.of_same hrecords hbindings (by rw [hexternals])⟩
    · rw [Session.module, hmodules, ← Session.module]
    · rw [Session.external, hexternals, ← Session.external]
  | declare bindings hmodule =>
    refine ⟨.of_same rfl rfl List.prefix_rfl (List.prefix_append _ _), rfl, rfl, rfl, rfl,
      fun _ => rfl, fun _ => rfl, List.prefix_rfl, fun hplaced => ⟨hplaced.source,
        hplaced.external, fun record hrecord owner howner => ?_, fun binding hbinding => ?_⟩⟩
    · have hmore := (List.prefix_append before.bindings bindings).length_le
      exact Nat.lt_of_lt_of_le (hplaced.owner record hrecord owner howner) hmore
    · rcases List.mem_append.mp hbinding with hold | hnew
      · exact hplaced.module binding hold
      · rw [hmodule binding hnew]
        exact Nat.lt_succ_self _
  | record record hsource howner =>
    refine ⟨.addRecord before record, rfl, rfl, rfl, rfl, fun _ => rfl, fun _ => rfl,
      List.prefix_rfl, fun hplaced => hplaced.addRecord record (fun module heq => ?_)
        (fun external heq => ?_) howner⟩
    · rw [hsource] at heq
      obtain rfl := Target.module.inj heq
      exact Nat.lt_succ_self _
    · rw [hsource] at heq
      cases heq
  | foreign id name identifier exportedFrom hid habsent =>
    refine ⟨(Grows.addRecord before _).trans (.enterExternal _ id name _ habsent), rfl,
      setExternal_length _ _ _, rfl, rfl, fun _ => rfl, enterExternal_dependents _ id name _,
      List.prefix_rfl, fun hplaced => ?_⟩
    refine (hplaced.addRecord ⟨name, identifier, .external id, none, exportedFrom⟩
      (fun module heq => ?_) (fun external heq => ?_) (fun owner heq => ?_)).of_same rfl rfl
        (setExternal_length _ _ _)
    · cases heq
    · obtain rfl := Target.external.inj heq
      exact hid
    · cases heq
  | aggregate id identifier hid habsent =>
    refine ⟨(Grows.addRecord before _).trans (.enter _ id aggregateName _ habsent),
      enter_length _ _ _ _, rfl, rfl, rfl, enter_dependents _ id aggregateName _, fun _ => rfl,
      List.prefix_rfl, fun hplaced => ?_⟩
    refine (hplaced.addRecord ⟨aggregateName, identifier, .module id, none, none⟩
      (fun module heq => ?_) (fun external heq => ?_) (fun owner heq => ?_)).of_same rfl rfl rfl
    · obtain rfl := Target.module.inj heq
      exact Nat.lt_succ_of_lt hid
    · cases heq
    · cases heq
  | lend id external name record hid hexternal hentry habsent =>
    exact ⟨.enter before id name record habsent, enter_length _ _ _ _, rfl, rfl, rfl,
      enter_dependents _ id name _, fun _ => rfl, List.prefix_rfl,
      fun hplaced => hplaced.of_same rfl rfl rfl⟩

/-! ## Edits keep a session grounded -/

theorem SoundExternal.enter {session : Session} {id : ExternalId} (h : session.SoundExternal id)
    (hid : id < session.externals.length) (name : String) (record : ExportRecord)
    (hname : record.localName = name) (hsource : record.source = .external id)
    (howner : record.owner = none) :
    ((session.addRecord record).enterExternal id name session.records.length).SoundExternal id := by
  have hexports := (session.addRecord record).external_enterExternal id hid name
    session.records.length
  have hproper : ((session.addRecord record).external id).exports.Proper := h.proper
  refine ⟨by rw [hexports]; exact Table.proper_insert _ hproper _ _, fun entry hentry => ?_⟩
  rw [hexports] at hentry
  rcases (Table.mem_insert _ hproper _ _ _).mp hentry with rfl | ⟨hold, -⟩
  · exact ⟨record, session.addRecord_get? record, hname, hsource, howner⟩
  · obtain ⟨found, hfound, hrest⟩ := h.entries entry hold
    exact ⟨found, (Grows.addRecord session record).record _ found hfound, hrest⟩

theorem Grounded.enter {session : Session} (hgrounded : session.Grounded) (id : ModuleId)
    (hid : id < session.modules.length) (name : String) (record : RecordId)
    (habsent : (session.module id).exports.get? name = none)
    (hoffers : (session.enter id name record).Offers (.module id) record) :
    (session.enter id name record).Grounded := by
  have hgrows := Grows.enter session id name record habsent
  have hself := session.module_enter id hid name record
  have hproper := hgrounded.proper id hid
  apply hgrounded.grows hgrows (enter_length _ _ _ _)
  · intro other hother
    by_cases heq : other = id
    · rw [heq, hself]
      exact Table.proper_insert _ hproper _ _
    · rw [session.module_enter_ne id other heq]
      exact hgrounded.proper other hother
  · intro other hother held hheld
    by_cases heq : other = id
    · rw [heq, hself] at hheld
      obtain ⟨key, hkey⟩ := (Table.mem_values _ _).mp hheld
      rcases (Table.mem_insert _ hproper _ _ _).mp hkey with hnew | ⟨hold, -⟩
      · obtain ⟨-, rfl⟩ := Prod.mk.inj hnew
        exact .inr (heq ▸ hoffers)
      · exact .inl (heq ▸ (Table.mem_values _ _).mpr ⟨key, hold⟩)
    · rw [session.module_enter_ne id other heq] at hheld
      exact .inl hheld
  · exact fun other hother => hgrows.soundExternal other (hgrounded.externals other hother) rfl

theorem Grounded.edit {before after : Session} (hgrounded : before.Grounded)
    (h : before.Edit after) : after.Grounded := by
  have hgrows := h.serves.grows
  cases h with
  | quiet after hmodules hexternals => exact hgrounded.of_same hgrows hmodules hexternals
  | declare bindings => exact hgrounded.of_same hgrows rfl rfl
  | record record => exact hgrounded.of_same hgrows rfl rfl
  | foreign id name identifier exportedFrom hid habsent =>
    refine hgrounded.grows hgrows rfl hgrounded.proper (fun _ _ _ hrecord => .inl hrecord)
      fun other hother => ?_
    have hother : other < before.externals.length := by
      simpa [Session.enterExternal, Session.addRecord] using hother
    by_cases heq : other = id
    · rw [heq]
      exact (hgrounded.externals id hid).enter hid name
        ⟨name, identifier, .external id, none, exportedFrom⟩ rfl rfl rfl
    · refine hgrows.soundExternal other (hgrounded.externals other hother) ?_
      rw [external_enterExternal_ne _ id other heq]
      rfl
  | aggregate id identifier hid habsent =>
    have hadd := Grows.addRecord before ⟨aggregateName, identifier, .module id, none, none⟩
    refine (hgrounded.of_same hadd rfl rfl).enter id hid aggregateName _ habsent ?_
    have hself := (before.addRecord ⟨aggregateName, identifier, .module id, none, none⟩)
      |>.module_enter id hid aggregateName before.records.length
    refine ⟨_, before.addRecord_get? _, .aggregate id rfl rfl ?_ ?_, fun source heq => ?_⟩
    · rw [enter_length]
      exact hid
    · rw [hself]
      exact Table.get?_insert_self _ _ _
    · obtain rfl := Target.module.inj heq
      exact Relation.ReflTransGen.refl
  | lend id external name record hid hexternal hentry habsent =>
    refine hgrounded.enter id hid name record habsent ?_
    exact ((offers_external hgrounded external hexternal name record hentry).grows hgrounded
      hgrows).of_external id

def LegallyNamed (session : Session) : Prop :=
  ∀ record ∈ session.records, record.owner = none → isLegalName record.identifier = true

theorem LegallyNamed.of_same {before after : Session} (h : before.LegallyNamed)
    (hrecords : after.records = before.records) : after.LegallyNamed := by
  unfold LegallyNamed
  rwa [hrecords]

theorem LegallyNamed.addRecord {session : Session} (h : session.LegallyNamed)
    (record : ExportRecord)
    (hlegal : record.owner = none → isLegalName record.identifier = true) :
    (session.addRecord record).LegallyNamed := by
  intro found hfound
  rcases List.mem_append.mp hfound with hold | hnew
  · exact h found hold
  · exact List.mem_singleton.mp hnew ▸ hlegal

theorem LegallyNamed.edit {before after : Session} (hnamed : before.LegallyNamed)
    (h : before.Edit after) : after.LegallyNamed := by
  cases h with
  | quiet after hmodules hexternals hrecords => exact hnamed.of_same hrecords
  | declare bindings => exact hnamed
  | record record hsource howner hlegal => exact hnamed.addRecord record hlegal
  | foreign id name identifier exportedFrom hid habsent hlegal =>
    exact hnamed.addRecord ⟨name, identifier, .external id, none, exportedFrom⟩ fun _ => hlegal
  | aggregate id identifier hid habsent hlegal =>
    exact hnamed.addRecord ⟨aggregateName, identifier, .module id, none, none⟩ fun _ => hlegal
  | lend id external name record => exact hnamed

def Edited : Session → Session → Prop := Relation.ReflTransGen Edit

theorem Edited.serves {before after : Session} (h : before.Edited after) :
    before.Serves after := by
  induction h with
  | refl => exact .refl before
  | tail _ hlast ih => exact ih.trans hlast.serves

theorem Grounded.edited {before after : Session} (hgrounded : before.Grounded)
    (h : before.Edited after) : after.Grounded := by
  induction h with
  | refl => exact hgrounded
  | tail _ hlast ih => exact ih.edit hlast

theorem LegallyNamed.edited {before after : Session} (hnamed : before.LegallyNamed)
    (h : before.Edited after) : after.LegallyNamed := by
  induction h with
  | refl => exact hnamed
  | tail _ hlast ih => exact ih.edit hlast

end Session

end ScopeHoist
