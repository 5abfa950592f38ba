import ScopeHoist.Bundle
import ScopeHoist.Proofs.Naming
import ScopeHoist.Proofs.Progress

/-!
# Coherence through all phases

Shaking takes what it takes out of every table at once, and never what the entry exports or what a
live import stands for. Naming calls records anew whenever it calls a declaration anew. So sessions
stay coherent through builds, shakes and namings in any order.
-/

set_option autoImplicit false

namespace ScopeHoist

theorem map_eq_of_getElem? {α β : Type} (first second : List α) (f : α → β)
    (h : ∀ i : Nat, (first[i]?).map f = (second[i]?).map f) : first.map f = second.map f :=
  List.ext_getElem? fun i => by rw [List.getElem?_map, List.getElem?_map, h]

namespace Session

theorem Valid.of_lengths {before after : Session} {target : Target} (h : before.Valid target)
    (hmodules : after.modules.length = before.modules.length)
    (hexternals : after.externals.length = before.externals.length) : after.Valid target := by
  cases target with
  | module id => exact Nat.lt_of_lt_of_eq h hmodules.symm
  | external id => exact Nat.lt_of_lt_of_eq h hexternals.symm

theorem Placed.transfer {before after : Session} {count : Nat} (h : before.Placed count)
    (hrecords : after.records.map ExportRecord.nameless = before.records.map ExportRecord.nameless)
    (hbindings : after.bindings.map Binding.module = before.bindings.map Binding.module)
    (hexternals : after.externals.length = before.externals.length) : after.Placed count := by
  have hlength : after.bindings.length = before.bindings.length := by
    simpa using congrArg List.length hbindings
  have hsame : ∀ record ∈ after.records, ∃ found ∈ before.records,
      found.source = record.source ∧ found.owner = record.owner := by
    intro record hrecord
    have hmem : record.nameless ∈ before.records.map ExportRecord.nameless :=
      hrecords ▸ List.mem_map_of_mem hrecord
    obtain ⟨found, hfound, heq⟩ := List.mem_map.mp hmem
    obtain ⟨-, -, hsource, howner, -⟩ := ExportRecord.mk.inj heq
    exact ⟨found, hfound, hsource, howner⟩
  refine ⟨fun record hrecord => ?_, fun record hrecord => ?_, fun record hrecord => ?_,
    fun binding hbinding => ?_⟩
  · obtain ⟨found, hfound, hsource, -⟩ := hsame record hrecord
    rw [← hsource]
    exact h.source found hfound
  · obtain ⟨found, hfound, hsource, -⟩ := hsame record hrecord
    rw [← hsource, hexternals]
    exact h.external found hfound
  · obtain ⟨found, hfound, -, howner⟩ := hsame record hrecord
    rw [← howner, hlength]
    exact h.owner found hfound
  · have hmem : binding.module ∈ before.bindings.map Binding.module :=
      hbindings ▸ List.mem_map_of_mem hbinding
    obtain ⟨found, hfound, heq⟩ := List.mem_map.mp hmem
    rw [← heq]
    exact h.module found hfound

theorem Fits.transfer {before after : Session} {id : ModuleId} {module : Module}
    (h : before.Fits id module) (hmodules : after.modules.length = before.modules.length)
    (hexternals : after.externals.length = before.externals.length)
    (hrecords : after.records.map ExportRecord.nameless = before.records.map ExportRecord.nameless)
    (hbindings : after.bindings.map Binding.module = before.bindings.map Binding.module) :
    after.Fits id module := by
  have hlength : after.records.length = before.records.length := by
    simpa using congrArg List.length hrecords
  constructor
  case id_eq => exact h.id_eq
  case dependencies =>
    intro target htarget
    obtain ⟨hvalid, hbelow⟩ := h.dependencies target htarget
    exact ⟨hvalid.of_lengths hmodules hexternals, hbelow⟩
  case bindings =>
    intro binding hbinding
    obtain ⟨found, hfound, hplace⟩ := h.bindings binding hbinding
    have hsame := congrArg (fun places : List ModuleId => places[binding]?) hbindings
    simp only [List.getElem?_map, hfound] at hsame
    obtain ⟨found', hfound', hplace'⟩ := Option.map_eq_some_iff.mp hsame
    exact ⟨found', hfound', hplace'.trans hplace⟩
  case imports => exact hlength ▸ h.imports
  case unnamed => exact hlength ▸ h.unnamed

/-! ## Shaking -/

section

variable {before after : Session} {idle : List BindingId} {unused : List RecordId}
  (h : before.Shaken idle unused after)
include h

theorem Shaken.dependents_eq (id : ModuleId) :
    (after.module id).dependents = (before.module id).dependents := by
  by_cases hid : id < before.modules.length
  · obtain ⟨stars, -, hmodule⟩ := h.module id hid
    rw [hmodule]
  · rw [before.module_of_length_le id (Nat.le_of_not_lt hid),
      after.module_of_length_le id (h.length ▸ Nat.le_of_not_lt hid)]

theorem Shaken.importers_eq (id : ExternalId) :
    (after.external id).dependents = (before.external id).dependents := by
  by_cases hid : id < before.externals.length
  · rw [h.external id hid]
  · have hid := Nat.le_of_not_lt hid
    simp [Session.external, List.getElem?_eq_none hid,
      List.getElem?_eq_none (h.externals_length ▸ hid)]

theorem Shaken.backs (hgrounded : before.Grounded) (id : RecordId) (record : ExportRecord)
    (hkept : id ∉ unused) (hbacks : before.Backs id record) : after.Backs id record := by
  cases hbacks with
  | external external hsource howner hvalid hentry =>
    refine .external external hsource howner (h.externals_length ▸ hvalid) ?_
    rw [h.external external hvalid]
    exact get?_exportsWithout _ (hgrounded.externals external hvalid).proper _ id hentry hkept
  | declared module owner binding hsource howner hvalid hmember hbinding hname hidentifier hentry =>
    have hproper := hgrounded.proper module hvalid
    obtain ⟨key, hkey⟩ := Table.get?_of_mem_values _ hproper id hentry
    have hafter := h.binding owner
    rw [hbinding] at hafter
    refine .declared module owner _ hsource howner (h.length ▸ hvalid) ?_ hafter hname hidentifier
      (Table.value_mem_of_get? _ key id (h.get?_exports module hvalid hproper key id hkey hkept))
    rw [h.bindings_eq module hvalid]
    exact hmember
  | unnamed module hsource howner hvalid hdefault =>
    refine .unnamed module hsource howner (h.length ▸ hvalid) ?_
    rw [h.unnamedDefault_eq module hvalid]
    exact hdefault
  | aggregate module hsource howner hvalid hentry =>
    exact .aggregate module hsource howner (h.length ▸ hvalid)
      (h.get?_exports module hvalid (hgrounded.proper module hvalid) _ id hentry hkept)

theorem Shaken.offers (hgrounded : before.Grounded) (target : Target) (id : RecordId)
    (hkept : id ∉ unused) (hoffers : before.Offers target id) : after.Offers target id := by
  obtain ⟨record, hrecord, hbacks, hsource⟩ := hoffers
  refine ⟨record, h.records ▸ hrecord, h.backs hgrounded id record hkept hbacks, ?_⟩
  cases target with
  | module module => exact fun source heq => (h.reaches module source).mpr (hsource source heq)
  | external external => exact hsource

/-- What a shake may take for unused is neither exported by the entry nor what a live import stands
for. -/
theorem Grounded.shaken (hgrounded : before.Grounded)
    (hcertain : ∀ record ∈ unused, .certain ∉ before.grounds record) : after.Grounded := by
  have hmodule : ∀ id, id < after.modules.length → id < before.modules.length :=
    fun id hid => h.length ▸ hid
  constructor
  case proper =>
    exact fun id hid => h.proper id (hmodule id hid) (hgrounded.proper id (hmodule id hid))
  case stars =>
    intro id hid star hstar
    rw [h.externals_length]
    exact hgrounded.stars id (hmodule id hid) star (h.stars_subset id (hmodule id hid) hstar)
  case externals =>
    intro id hid
    rw [h.externals_length] at hid
    have hexternal := hgrounded.externals id hid
    refine ⟨?_, fun entry hentry => ?_⟩
    · rw [h.external id hid]
      exact Table.proper_filter _ hexternal.proper _
    · rw [h.external id hid] at hentry
      rw [h.records]
      exact hexternal.entries entry ((mem_exportsWithout _ entry).mp hentry).1
  case exports =>
    intro id hid record hrecord
    have hid := hmodule id hid
    obtain ⟨name, hname⟩ := (Table.mem_values _ _).mp hrecord
    obtain ⟨hmem, hwhy⟩ := (h.mem_exports id hid (name, record)).mp hname
    refine h.offers hgrounded _ record (fun hunused => ?_)
      (hgrounded.exports id hid record (List.mem_map_of_mem hmem))
    rcases hwhy with hentry | hkept
    · exact hcertain record hunused
        (before.certain_of_entry id hid hentry (name, record) hmem)
    · exact hkept hunused
  case imports =>
    intro id hid binding hbinding hlive record hresolved
    have hid := hmodule id hid
    rw [h.imports_eq id hid] at hbinding
    refine h.offers hgrounded _ record (fun hunused => ?_)
      (hgrounded.imports id hid binding hbinding hlive record hresolved)
    exact hcertain record hunused (before.certain_of_isImported record
      (before.isImported_of_mem id hid binding hbinding hlive record hresolved))

theorem Shaken.bindings_module :
    after.bindings.map Binding.module = before.bindings.map Binding.module := by
  refine map_eq_of_getElem? _ _ _ fun i => ?_
  rw [h.binding]
  cases before.bindings[i]? <;> rfl

theorem Shaken.fits (hcoherent : before.Coherent) (id : ModuleId)
    (hid : id < after.modules.length) : after.Fits id (after.module id) := by
  have hid := h.length ▸ hid
  obtain ⟨stars, -, heq⟩ := h.module id hid
  have hfits := (hcoherent.fits id hid).transfer h.length h.externals_length (by rw [h.records])
    h.bindings_module
  rw [heq]
  exact ⟨hfits.id_eq, hfits.dependencies, hfits.bindings, hfits.imports, hfits.unnamed⟩

theorem Coherent.shaken (hcoherent : before.Coherent)
    (hcertain : ∀ record ∈ unused, .certain ∉ before.grounds record) : after.Coherent := by
  have hfits := h.fits hcoherent
  constructor
  case id_eq => exact fun id hid => (hfits id hid).id_eq
  case paths =>
    refine (pathsDistinct_iff _).mp fun first hfirst second hsecond hsame => ?_
    rw [h.length] at hfirst hsecond
    rw [h.path_eq first hfirst, h.path_eq second hsecond] at hsame
    exact (pathsDistinct_iff _).mpr hcoherent.paths first hfirst second hsecond hsame
  case specifiers =>
    refine (specifiersDistinct_iff _).mp fun first hfirst second hsecond hsame => ?_
    rw [h.externals_length] at hfirst hsecond
    rw [h.external first hfirst, h.external second hsecond] at hsame
    exact (specifiersDistinct_iff _).mpr hcoherent.specifiers first hfirst second hsecond hsame
  case dependencies => exact fun id hid => (hfits id hid).dependencies
  case dependents =>
    intro id dependent
    rw [h.dependents_eq, h.dependencyTargets_eq, h.length]
    exact hcoherent.dependents id dependent
  case importers =>
    intro id dependent
    rw [h.importers_eq, h.dependencyTargets_eq, h.length]
    exact hcoherent.importers id dependent
  case entry =>
    intro id hentry
    rw [h.entry] at hentry
    rw [h.length]
    exact hcoherent.entry id hentry
  case bindings => exact fun id hid => (hfits id hid).bindings
  case imports => exact fun id hid => (hfits id hid).imports
  case unnamed => exact fun id hid => (hfits id hid).unnamed
  case placed =>
    rw [h.length]
    exact hcoherent.placed.transfer (by rw [h.records]) h.bindings_module h.externals_length
  case grounded => exact hcoherent.grounded.shaken h hcertain

end

theorem Coherent.shake {session : Session} (h : session.Coherent) :
    (InSession.shake.run session).2.Coherent := by
  refine h.shaken session.shaken_shake fun record hrecord hgrounds => ?_
  obtain ⟨final, hrests, hnever⟩ := session.verdict_restsOn
  exact hnever record hgrounds (hrests.unused record hrecord).2

end Session

/-! ## Naming -/

namespace Session

/-- A session whose declarations and records were called anew. Records that something stands behind
are called like their declarations, but for some declarations; others were caught up with. -/
structure Tuned (start : Session) (loose : List BindingId) (done : List RecordId)
    (session : Session) : Prop where
  respelled : start.Respelled session
  entry : session.entry = start.entry
  called : ∀ id record owner, start.records[id]? = some record → record.owner = some owner →
    (start.Backs id record ∧ owner ∉ loose) ∨ id ∈ done →
      session.identifier id = session.nameOf (.binding owner)

variable {start session : Session} {loose : List BindingId} {done : List RecordId}

theorem Tuned.note (h : start.Tuned loose done session) (level : Level) (text : String) :
    start.Tuned loose done (session.note level text) :=
  ⟨⟨h.respelled.modules, h.respelled.externals, h.respelled.binding, h.respelled.record⟩, h.entry,
    h.called⟩

theorem Tuned.loosen (h : start.Tuned [] [] session) (loose : List BindingId) :
    start.Tuned loose [] session :=
  ⟨h.respelled, h.entry, fun id record owner hrecord howner hwhich =>
    h.called id record owner hrecord howner
      (hwhich.imp (fun hbacks => ⟨hbacks.1, List.not_mem_nil⟩) fun hmem => hmem)⟩

theorem nameOf_setBinding_ne (id other : BindingId) (hne : other ≠ id) (name : String) :
    (session.setBinding id fun binding => { binding with name }).nameOf (.binding other) =
      session.nameOf (.binding other) := by
  have hne : id ≠ other := fun heq => hne heq.symm
  simp [nameOf, setBinding, hne]

theorem Tuned.setBinding (h : start.Tuned loose [] session) (id : BindingId) (hid : id ∈ loose)
    (name : String) :
    start.Tuned loose [] (session.setBinding id fun binding => { binding with name }) := by
  refine ⟨h.respelled.setBinding id name, h.entry,
    fun other record owner hrecord howner hwhich => ?_⟩
  have hne : owner ≠ id := by
    rcases hwhich with hbacks | hmem
    · exact fun heq => hbacks.2 (heq ▸ hid)
    · exact absurd hmem List.not_mem_nil
  rw [nameOf_setBinding_ne id owner hne name]
  exact h.called other record owner hrecord howner hwhich

theorem identifier_setRecord (id other : RecordId) (name : String) (record : ExportRecord)
    (hrecord : session.records[id]? = some record) :
    (session.setRecord id fun record => { record with identifier := name }).identifier other =
      if other = id then name else session.identifier other := by
  by_cases heq : other = id
  · subst heq
    simp [identifier, setRecord, hrecord]
  · have hne : id ≠ other := fun hsame => heq hsame.symm
    simp [identifier, setRecord, hne, heq]

theorem Tuned.setValue (h : start.Tuned loose done session) (id : RecordId) (record : ExportRecord)
    (hrecord : start.records[id]? = some record) (howner : record.owner = none) (name : String) :
    start.Tuned loose done
      (session.setRecord id fun record => { record with identifier := name }) := by
  obtain ⟨identifier, hnow⟩ := h.respelled.exists_record id record hrecord
  refine ⟨h.respelled.setRecord id name, h.entry, fun other found owner hfound hof hwhich => ?_⟩
  have hne : other ≠ id := by
    rintro rfl
    rw [hrecord] at hfound
    obtain rfl := Option.some.inj hfound
    rw [howner] at hof
    exact absurd hof nofun
  rw [session.identifier_setRecord id other name _ hnow, if_neg hne]
  exact h.called other found owner hfound hof hwhich

theorem Tuned.catchUp (h : start.Tuned loose done session) (id : RecordId) (record : ExportRecord)
    (hrecord : start.records[id]? = some record) (owner : BindingId)
    (howner : record.owner = some owner) :
    start.Tuned loose (done ++ [id]) (session.setRecord id fun record =>
      { record with identifier := session.nameOf (.binding owner) }) := by
  obtain ⟨identifier, hnow⟩ := h.respelled.exists_record id record hrecord
  refine ⟨h.respelled.setRecord id _, h.entry, fun other found owner' hfound hof hwhich => ?_⟩
  rw [session.identifier_setRecord id other _ _ hnow]
  by_cases heq : other = id
  · subst heq
    rw [hrecord] at hfound
    obtain rfl := Option.some.inj hfound
    rw [howner] at hof
    obtain rfl := Option.some.inj hof
    rw [if_pos rfl]
    rfl
  · rw [if_neg heq]
    refine h.called other found owner' hfound hof (hwhich.imp_right fun hmem => ?_)
    exact (List.mem_append.mp hmem).resolve_right fun hlast => heq (List.mem_singleton.mp hlast)

theorem Tuned.pass (h : start.Tuned loose done session) (id : RecordId)
    (hnone : ∀ record, start.records[id]? = some record → record.owner = none) :
    start.Tuned loose (done ++ [id]) session := by
  refine ⟨h.respelled, h.entry, fun other found owner hfound hof hwhich => ?_⟩
  refine h.called other found owner hfound hof (hwhich.imp_right fun hmem => ?_)
  refine (List.mem_append.mp hmem).resolve_right fun hlast => ?_
  obtain rfl := List.mem_singleton.mp hlast
  rw [hnone found hfound] at hof
  exact absurd hof nofun

/-- When all that a module exports was caught up with, nothing of its declarations is loose. -/
theorem Tuned.fasten (hcoherent : start.Coherent) (module : ModuleId)
    (h : start.Tuned (start.module module).bindings done session)
    (hdone : ∀ id ∈ (start.module module).exports.values, id ∈ done) :
    start.Tuned [] [] session := by
  refine ⟨h.respelled, h.entry, fun id record owner hrecord howner hwhich => ?_⟩
  rcases hwhich with ⟨hbacks, -⟩ | hmem
  swap
  · exact absurd hmem List.not_mem_nil
  refine h.called id record owner hrecord howner ?_
  by_cases hloose : owner ∈ (start.module module).bindings
  · -- a declaration is listed by its module only, which exports all records of it
    have hvalid : module < start.modules.length := by
      refine Nat.lt_of_not_le fun hge => ?_
      rw [start.module_of_length_le module hge] at hloose
      exact absurd hloose List.not_mem_nil
    cases hbacks with
    | declared source other binding _ hof hsource hmember _ _ _ hentry =>
      rw [howner] at hof
      obtain rfl := Option.some.inj hof
      obtain ⟨found, hfound, hmodule⟩ := hcoherent.bindings module hvalid owner hloose
      obtain ⟨found', hfound', hmodule'⟩ := hcoherent.bindings source hsource owner hmember
      rw [hfound] at hfound'
      obtain rfl := Option.some.inj hfound'
      obtain rfl : source = module := hmodule'.symm.trans hmodule
      exact .inr (hdone id hentry)
    | external external _ hof => exact absurd (howner.symm.trans hof) nofun
    | unnamed module _ hof => exact absurd (howner.symm.trans hof) nofun
    | aggregate module _ hof => exact absurd (howner.symm.trans hof) nofun
  · exact .inl ⟨hbacks, hloose⟩

section

variable (h : start.Tuned [] [] session)
include h

theorem Tuned.backs (id : RecordId) (record : ExportRecord)
    (hrecord : start.records[id]? = some record) (hbacks : start.Backs id record) :
    ∃ spelling, session.records[id]? = some { record with identifier := spelling } ∧
      session.Backs id { record with identifier := spelling } := by
  have hrespelled := h.respelled
  obtain ⟨spelling, hnow⟩ := hrespelled.exists_record id record hrecord
  refine ⟨spelling, hnow, ?_⟩
  cases hbacks with
  | external external hsource howner hvalid hentry =>
    exact .external external hsource howner (hrespelled.externals ▸ hvalid)
      (by rw [hrespelled.external]; exact hentry)
  | declared module owner binding hsource howner hvalid hmember hbinding hname hidentifier
      hentry =>
    obtain ⟨name, hafter⟩ := hrespelled.exists_binding owner binding hbinding
    have hsame := h.called id record owner hrecord howner (.inl ⟨.declared module owner binding
      hsource howner hvalid hmember hbinding hname hidentifier hentry, List.not_mem_nil⟩)
    refine .declared module owner _ hsource howner (hrespelled.modules ▸ hvalid)
      (by rw [hrespelled.module]; exact hmember) hafter hname ?_
      (by rw [hrespelled.module]; exact hentry)
    simpa [identifier, nameOf, hnow, hafter] using hsame
  | unnamed module hsource howner hvalid hdefault =>
    exact .unnamed module hsource howner (hrespelled.modules ▸ hvalid)
      (by rw [hrespelled.module]; exact hdefault)
  | aggregate module hsource howner hvalid hentry =>
    exact .aggregate module hsource howner (hrespelled.modules ▸ hvalid)
      (by rw [hrespelled.module]; exact hentry)

theorem Tuned.offers (target : Target) (id : RecordId) (hoffers : start.Offers target id) :
    session.Offers target id := by
  obtain ⟨record, hrecord, hback, hsource⟩ := hoffers
  obtain ⟨spelling, hnow, hback'⟩ := h.backs id record hrecord hback
  refine ⟨_, hnow, hback', ?_⟩
  cases target with
  | module module =>
    exact fun source heq => (h.respelled.reaches module source).mpr (hsource source heq)
  | external external => exact hsource

theorem Tuned.grounded (hgrounded : start.Grounded) : session.Grounded := by
  have hmodules := h.respelled.modules
  have hexternals := h.respelled.externals
  have hmodule := h.respelled.module
  constructor
  case proper => simpa only [hmodules, hmodule] using hgrounded.proper
  case stars => simpa only [hmodules, hexternals, hmodule] using hgrounded.stars
  case externals =>
    exact fun id hid => h.respelled.soundExternal id (hgrounded.externals id (hexternals ▸ hid))
  case exports =>
    intro id hid record hrecord
    rw [hmodule] at hrecord
    exact h.offers _ record (hgrounded.exports id (hmodules ▸ hid) record hrecord)
  case imports =>
    intro id hid binding hbinding hlive record hresolved
    rw [hmodule] at hbinding
    exact h.offers _ record
      (hgrounded.imports id (hmodules ▸ hid) binding hbinding hlive record hresolved)

theorem Tuned.coherent (hcoherent : start.Coherent) : session.Coherent := by
  have hmodules := h.respelled.modules
  have hexternals := h.respelled.externals
  have hmodule := h.respelled.module
  have hexternal := h.respelled.external
  have hrecords := map_eq_of_getElem? _ _ _ h.respelled.record
  have hbindings : session.bindings.map Binding.module = start.bindings.map Binding.module := by
    refine map_eq_of_getElem? _ _ _ fun i => ?_
    have hsame := congrArg (Option.map Binding.module) (h.respelled.binding i)
    rw [Option.map_map, Option.map_map] at hsame
    exact hsame
  have hfits : ∀ id, id < session.modules.length → session.Fits id (session.module id) := by
    intro id hid
    rw [hmodule]
    exact (hcoherent.fits id (hmodules ▸ hid)).transfer (by rw [hmodules]) (by rw [hexternals])
      hrecords hbindings
  constructor
  case id_eq => exact fun id hid => (hfits id hid).id_eq
  case paths => simpa only [moduleAt?, hmodules, hmodule] using hcoherent.paths
  case specifiers =>
    simpa only [externalNamed?, hexternals, hexternal] using hcoherent.specifiers
  case dependencies => exact fun id hid => (hfits id hid).dependencies
  case dependents => simpa only [hmodules, hmodule] using hcoherent.dependents
  case importers => simpa only [hmodules, hmodule, hexternal] using hcoherent.importers
  case entry => simpa only [h.entry, hmodules] using hcoherent.entry
  case bindings => exact fun id hid => (hfits id hid).bindings
  case imports => exact fun id hid => (hfits id hid).imports
  case unnamed => exact fun id hid => (hfits id hid).unnamed
  case placed =>
    rw [hmodules]
    exact hcoherent.placed.transfer hrecords hbindings (by rw [hexternals])
  case grounded => exact h.grounded hcoherent.grounded

end

end Session

namespace InNaming

open Session

/-- A step of a naming that leads from sessions with some property to ones with another. -/
def Turns (before : Session → Prop) (action : InNaming Unit) (after : Session → Prop) : Prop :=
  Yields (fun _ => before) action fun _ _ => after

variable {start : Session} {loose : List BindingId} {done : List RecordId}

theorem unnoted_tuned : Unnoted fun _ => start.Tuned loose done :=
  fun _ _ level text h => h.note level text

theorem turns_nameBinding (path : Path) (id : BindingId) (hid : id ∈ loose) :
    Turns (start.Tuned loose []) (nameBinding path id) (start.Tuned loose []) := by
  apply yields_nameBinding unnoted_tuned
  case hgone => exact fun _ _ h _ => h
  case hnamed => exact fun _ _ _ h _ _ => h.setBinding id hid _

theorem turns_nameValue (id : RecordId) (current : String) (record : ExportRecord)
    (hrecord : start.records[id]? = some record) (howner : record.owner = none) :
    Turns (start.Tuned loose done) (nameValue id current) (start.Tuned loose done) := by
  apply yields_nameValue unnoted_tuned
  case hknown => exact fun _ _ h _ => h
  case hnamed => exact fun _ _ h _ => h.setValue id record hrecord howner _

theorem turns_nameExport (module : ModuleId) (id : RecordId) :
    Turns (start.Tuned loose done) (nameExport module id) (start.Tuned loose (done ++ [id])) := by
  -- a record that is of no declaration at the time is of none at the start
  have hnone : ∀ session record, start.Tuned loose done session →
      session.records[id]? = some record → record.owner = none →
        ∃ found, start.records[id]? = some found ∧ found.owner = none := by
    intro session record h hrecord howner
    obtain ⟨identifier, hstart⟩ := h.respelled.symm.exists_record id record hrecord
    exact ⟨_, hstart, howner⟩
  apply yields_nameExport
  case hmissing =>
    intro naming session h hmissing
    refine h.pass id fun record hrecord => ?_
    obtain ⟨identifier, hsome⟩ := h.respelled.exists_record id record hrecord
    exact absurd (hmissing.symm.trans hsome) nofun
  case howned =>
    intro naming session record owner h hrecord howner
    obtain ⟨identifier, hstart⟩ := h.respelled.symm.exists_record id record hrecord
    exact h.catchUp id _ hstart owner howner
  case hforeign =>
    intro naming session record h hrecord howner _
    obtain ⟨found, hfound, hof⟩ := hnone session record h hrecord howner
    exact h.pass id fun other hother => Option.some.inj (hfound.symm.trans hother) ▸ hof
  case hvalue =>
    intro naming session record h hrecord howner _
    obtain ⟨found, hfound, hof⟩ := hnone session record h hrecord howner
    exact yields_weaken (yields_state (turns_nameValue id record.identifier found hfound hof) h)
      (fun _ _ h => h) fun _ _ _ h => h.pass id fun other hother =>
        Option.some.inj (hfound.symm.trans hother) ▸ hof

theorem turns_nameModule (hcoherent : start.Coherent) (id : ModuleId) :
    Turns (start.Tuned [] []) (nameModule id) (start.Tuned [] []) := by
  have hbindings : Turns (start.Tuned (start.module id).bindings [])
      ((start.module id).bindings.forM (nameBinding (start.module id).path))
      (start.Tuned (start.module id).bindings []) :=
    yields_forM (fun _ _ => start.Tuned (start.module id).bindings []) _ _
      fun _ binding rest heq => turns_nameBinding _ binding
        (heq ▸ List.mem_append_right _ List.mem_cons_self)
  have hexports := yields_forM (fun done _ => start.Tuned (start.module id).bindings done)
    (nameExport id) ((start.module id).exports.values ++ (start.module id).unnamedDefault.toList)
    fun done record _ _ => turns_nameExport id record
  have hmodule := yields_nameModule id (start.module id)
    (fun _ _ h => h.respelled.module id) hbindings hexports
  exact yields_weaken hmodule (fun _ _ h => h.loosen _) fun _ _ _ h =>
    h.fasten hcoherent id fun record hrecord => List.mem_append_left _ hrecord

theorem turns_nameExternal (id : RecordId) (hvalue : start.CanHold (.value id)) :
    Turns (start.Tuned [] []) (nameExternal id) (start.Tuned [] []) := by
  obtain ⟨record, hrecord, howner⟩ := hvalue
  apply yields_nameExternal
  case hmissing => exact fun _ _ h _ => h
  case hvalue => exact fun _ _ _ h _ => yields_state (turns_nameValue id _ record hrecord howner) h

end InNaming

theorem Session.Coherent.assignNames {session : Session} (h : session.Coherent)
    (order : List ModuleId) : ((InSession.assignNames order).run session).2.Coherent := by
  have hstart : session.Tuned [] [] session := by
    refine ⟨.refl session, rfl, fun id record owner hrecord howner hwhich => ?_⟩
    rcases hwhich with ⟨hbacks, -⟩ | hmem
    · cases hbacks with
      | declared module other binding _ hof _ _ hbinding _ hidentifier _ =>
        rw [howner] at hof
        obtain rfl := Option.some.inj hof
        simpa [identifier, nameOf, hrecord, hbinding] using hidentifier
      | external external _ hof => cases howner.symm.trans hof
      | unnamed module _ hof => cases howner.symm.trans hof
      | aggregate module _ hof => cases howner.symm.trans hof
    · exact absurd hmem List.not_mem_nil
  obtain ⟨naming, htuned⟩ := InNaming.yields_assignNames session order hstart
    (InNaming.yields_forM (fun _ _ => session.Tuned [] []) _ order fun _ id _ _ =>
      InNaming.turns_nameModule h id)
    (InNaming.yields_forM (fun _ _ => session.Tuned [] []) _ _ fun done id rest heq =>
      InNaming.turns_nameExternal id (session.canHold_outer h.grounded.externals id
        (heq ▸ List.mem_append_right _ List.mem_cons_self)))
    InNaming.unnoted_tuned
  exact htuned.coherent h

/-! ## Sessions of all phases -/

/-- A session as builds, shakes and namings leave it, in any order and however often. A build may
fail, and a naming may be of any modules. -/
inductive Session.FromPhases (options : BundleOptions) : Session → Prop
  | new : FromPhases options (.new options)
  | build {session : Session} (h : FromPhases options session) (tree : FileTree) (entry : Path) :
    FromPhases options ((Building.build tree entry).run session).2
  | shake {session : Session} (h : FromPhases options session) :
    FromPhases options (InSession.shake.run session).2
  | assignNames {session : Session} (h : FromPhases options session) (order : List ModuleId) :
    FromPhases options ((InSession.assignNames order).run session).2

theorem Session.FromPhases.coherent {options : BundleOptions} {session : Session}
    (h : session.FromPhases options) : session.Coherent := by
  induction h with
  | new => exact Session.coherent_new options
  | build h tree entry ih => exact ih.build tree entry
  | shake h ih => exact ih.shake
  | assignNames h order ih => exact ih.assignNames order

theorem Session.Coherent.offers_import {session : Session} (h : session.Coherent) (id : ModuleId)
    (hid : id < session.modules.length) (binding : ImportBinding)
    (hbinding : binding ∈ (session.module id).imports) (hlive : 0 < binding.references)
    (record : RecordId) (hresolved : binding.resolved = some record) :
    session.Offers (.module id) record := by
  have htarget := (h.imports id hid binding hbinding).1
  have hoffers := h.grounded.imports id hid binding hbinding hlive record hresolved
  cases hcase : binding.target with
  | external external =>
    rw [hcase] at hoffers
    exact hoffers.of_external id
  | module dependency =>
    rw [hcase] at hoffers htarget
    obtain ⟨found, hfound, hbacks, hsource⟩ := hoffers
    refine ⟨found, hfound, hbacks, fun source heq => ?_⟩
    exact Relation.ReflTransGen.head ((mem_moduleDependencies _ dependency).mpr htarget)
      (hsource source heq)

/-- The web of references is whole at every time, and what the tables and the live imports of a
module hold comes from an external or from a module that it reaches. -/
theorem phases_keep_coherent (options : BundleOptions) (session : Session)
    (h : session.FromPhases options) :
    session.Coherent ∧ ∀ id, id < session.modules.length →
      (∀ record ∈ (session.module id).exports.values, session.Offers (.module id) record) ∧
      ∀ binding ∈ (session.module id).imports, 0 < binding.references →
        ∀ record, binding.resolved = some record → session.Offers (.module id) record :=
  ⟨h.coherent, fun id hid => ⟨h.coherent.grounded.exports id hid, h.coherent.offers_import id hid⟩⟩

/-- Three entries that share a file. The second one also asks for a file that is not there. -/
def sharedFile : FileTree :=
  ⟨[(["i"], .file "import{b}from'./a.js';b".toUTF8),
    (["a.js"], .file "export let b=1,c=2;export default 3".toUTF8),
    (["k"], .file "import{c}from'./a.js';import'./n';c".toUTF8),
    (["m"], .file "import*as s from'./a.js';import{d}from'e';let b=s,f=d".toUTF8)], []⟩

def sharedFileSession : Session :=
  ((Building.build sharedFile "m").run
    ((InSession.assignNames [0, 1]).run
      (InSession.shake.run
        ((Building.build sharedFile "k").run
          ((Building.build sharedFile "i").run (.new .standard)).2).2).2).2).2

set_option maxRecDepth 100000 in
theorem phases_keep_coherent_sharedFile :
    sharedFileSession.FromPhases .standard ∧ sharedFileSession.modules.length = 3 ∧
      sharedFileSession.records.length = 5 ∧ sharedFileSession.Coherent :=
  have hsession := .build (.assignNames (.shake (.build (.build .new sharedFile "i") sharedFile
    "k")) [0, 1]) sharedFile "m"
  ⟨hsession, by decide +kernel, by decide +kernel,
    (phases_keep_coherent .standard sharedFileSession hsession).1⟩

end ScopeHoist
