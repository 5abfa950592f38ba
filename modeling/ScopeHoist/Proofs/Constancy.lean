import ScopeHoist.Proofs.Progress

/-!
# Answers are final

Whoever is given a record, for a name of a module, a namespace or a name of an external, is given
the same one ever after, whatever is built or asked in the meantime. The reason is that an answer is
read off a table that it stays in. The spelling that is asked for, and the specifier that a name is
found through, matter only to the one who asks first.
-/

set_option autoImplicit false

namespace ScopeHoist

open InSession Session

/-- What a session can be asked for the record of. -/
inductive Question
  | named (module : ModuleId) (name : String)
  | aggregate (module : ModuleId)
  | foreign (external : ExternalId) (name : String)

namespace Question

def target : Question → Target
  | .named module _ => .module module
  | .aggregate module => .module module
  | .foreign external _ => .external external

def ask (question : Question) (preferred : String) (exportedFrom : Option String) :
    InSession (Option RecordId) :=
  match question with
  | .named module name => moduleRecord? module name preferred
  | .aggregate module => do return some (← aggregateRecord module preferred)
  | .foreign external name => do return some (← externalRecord external name preferred exportedFrom)

def answer? (question : Question) (session : Session) : Option RecordId :=
  match question with
  | .named module name => (session.module module).exports.get? name
  | .aggregate module => (session.module module).exports.get? aggregateName
  | .foreign external name => (session.external external).exports.get? name

variable (question : Question) (preferred : String) (exportedFrom : Option String)

theorem ask_of_answer? {session : Session} {record : RecordId}
    (h : question.answer? session = some record) :
    (question.ask preferred exportedFrom).run session = (some record, session) := by
  cases question with
  | named module name =>
    have h : (session.module module).exports.get? name = some record := h
    simp only [ask, moduleRecord?, run_bind, run_get, h, run_pure]
  | aggregate module =>
    have h : (session.module module).exports.get? aggregateName = some record := h
    simp only [ask, aggregateRecord, run_bind, run_get, h, run_pure]
  | foreign external name =>
    have h : (session.external external).exports.get? name = some record := h
    simp only [ask, run_bind, externalRecord_run, h, run_pure]

theorem edits_ask :
    Edits (fun session => session.Valid question.target) (question.ask preferred exportedFrom)
      fun result session => ∀ record, result = some record →
        question.answer? session = some record := by
  cases question with
  | named module name => exact edits_moduleRecord? module name preferred
  | aggregate module =>
    apply edits_bind (lasts_valid _) (edits_aggregateRecord module preferred)
    refine fun record => edits_pure fun session _ hpre found heq => ?_
    obtain rfl := Option.some.inj heq
    exact hpre.2
  | foreign external name =>
    apply edits_bind (lasts_valid _) (edits_externalRecord external name preferred exportedFrom)
    refine fun record => edits_pure fun session _ hpre found heq => ?_
    obtain rfl := Option.some.inj heq
    exact hpre.2

theorem answer?_grows {before after : Session} (h : before.Grows after)
    (hvalid : before.Valid question.target) {record : RecordId}
    (hanswer : question.answer? before = some record) :
    question.answer? after = some record := by
  cases question with
  | named module name => exact h.module_exports module hvalid name record hanswer
  | aggregate module => exact h.module_exports module hvalid aggregateName record hanswer
  | foreign external name => exact (h.external external hvalid).kept name record hanswer

theorem record_of_answer? {session : Session} (hgrounded : session.Grounded)
    (hvalid : session.Valid question.target) {record : RecordId}
    (hanswer : question.answer? session = some record) :
    ∃ found, session.records[record]? = some found := by
  cases question with
  | named module name =>
    obtain ⟨found, hfound, -⟩ := hgrounded.exports module hvalid record
      (Table.value_mem_of_get? _ name record hanswer)
    exact ⟨found, hfound⟩
  | aggregate module =>
    obtain ⟨found, hfound, -⟩ := hgrounded.exports module hvalid record
      (Table.value_mem_of_get? _ aggregateName record hanswer)
    exact ⟨found, hfound⟩
  | foreign external name =>
    obtain ⟨found, hfound, -⟩ := (hgrounded.externals external hvalid).entries _
      (Table.mem_of_get? _ _ _ hanswer)
    exact ⟨found, hfound⟩

end Question

/-! ## Questions keep a session coherent -/

theorem Session.report_eq (session : Session) (warning : Warning) :
    ∃ warnings journal, session.report warning = { session with warnings, journal } := by
  unfold Session.report
  split
  · split
    · exact ⟨session.warnings, session.journal, rfl⟩
    · exact ⟨_, _, rfl⟩
  · exact ⟨_, _, rfl⟩

theorem InSession.reported_eq (session : Session) (id : ModuleId) (name : String)
    (chosen : StarReexport) (others : List StarReexport) :
    ∃ warnings journal,
      reported session id name chosen others = { session with warnings, journal } := by
  unfold reported
  split
  · exact ⟨session.warnings, session.journal, rfl⟩
  · exact session.report_eq _

section

variable {session : Session} {count : Nat}

theorem Session.Placed.externalRecord (h : session.Placed count) (id : ExternalId)
    (hid : id < session.externals.length) (name preferred : String)
    (exportedFrom : Option String) :
    ((InSession.externalRecord id name preferred exportedFrom).run session).2.Placed count := by
  rw [externalRecord_run]
  cases (session.external id).exports.get? name with
  | some record => exact h
  | none =>
    refine (h.addRecord ⟨name, legalName preferred, .external id, none, exportedFrom⟩
      nofun (fun external heq => ?_) nofun).of_same rfl rfl (setExternal_length _ _ _)
    obtain rfl := Target.external.inj heq
    exact hid

theorem Session.Placed.needNamespaces (h : session.Placed count) (hgrounded : session.Grounded)
    (stars : List StarReexport)
    (hstars : ∀ star ∈ stars, star.external < session.externals.length) :
    ((stars.forM needNamespace).run session).2.Placed count := by
  induction stars generalizing session with
  | nil => exact h
  | cons star rest ih =>
    have hstar := hstars star List.mem_cons_self
    obtain ⟨hedited, -⟩ := edits_needNamespace star session hgrounded hstar
    refine ih (h.externalRecord star.external hstar aggregateName star.specifier none)
      (hgrounded.edited hedited) fun other hother => ?_
    exact hedited.serves.grows.valid (.external other.external)
      (hstars other (List.mem_cons_of_mem _ hother))

theorem Session.Placed.aggregateRecord (h : session.Placed session.modules.length)
    (hgrounded : session.Grounded) (id : ModuleId) (hid : id < session.modules.length)
    (preferred : String) :
    ((InSession.aggregateRecord id preferred).run session).2.Placed session.modules.length := by
  cases hentry : (session.module id).exports.get? aggregateName with
  | some record =>
    rw [aggregateRecord_of_get? session id preferred record hentry]
    exact h
  | none =>
    rw [aggregateRecord_run session id hid preferred hentry]
    have hedit := Edit.aggregate id (legalName preferred) hid hentry
      (isLegalName_legalName preferred)
    have hadded := h.addRecord ⟨aggregateName, legalName preferred, .module id, none, none⟩
      (fun module heq => Target.module.inj heq ▸ hid) nofun nofun
    have hentered : Session.Placed ((session.addRecord _).enter id aggregateName
      session.records.length) session.modules.length := hadded.of_same rfl rfl rfl
    exact hentered.needNamespaces (hgrounded.edit hedit) (session.module id).stars
      (hgrounded.stars id hid)

theorem Session.Placed.starRecord? (h : session.Placed session.modules.length)
    (hgrounded : session.Grounded) (id : ModuleId) (hid : id < session.modules.length)
    (name preferred : String) :
    ((InSession.starRecord? id name preferred).run session).2.Placed session.modules.length := by
  cases hcandidates : starCandidates session id name with
  | nil =>
    rw [starRecord?_nil session id name preferred hcandidates]
    exact h
  | cons chosen others =>
    rw [starRecord?_run session id name preferred chosen others hcandidates]
    have hstar := hgrounded.stars id hid chosen
      (starCandidates_mem session id name chosen (by simp [hcandidates]))
    obtain ⟨warnings, journal, hreported⟩ := reported_eq session id name chosen others
    have hquiet : (reported session id name chosen others).Placed session.modules.length := by
      rw [hreported]
      exact h.of_same rfl rfl rfl
    have hvalid : chosen.external < (reported session id name chosen others).externals.length := by
      rw [hreported]
      exact hstar
    exact (hquiet.externalRecord chosen.external hvalid name preferred
      (some chosen.specifier)).of_same rfl rfl rfl

theorem Session.Placed.moduleRecord? (h : session.Placed session.modules.length)
    (hgrounded : session.Grounded) (id : ModuleId) (hid : id < session.modules.length)
    (name preferred : String) :
    ((InSession.moduleRecord? id name preferred).run session).2.Placed session.modules.length := by
  simp only [InSession.moduleRecord?, run_bind, run_get]
  split
  · exact h
  · split
    · exact h
    · exact h.starRecord? hgrounded id hid name preferred

end

/-- A session with coherent records stays coherent when its tables get longer. -/
theorem Session.Coherent.serves {before after : Session} (h : before.Coherent)
    (hserves : before.Serves after) (hgrounded : after.Grounded)
    (hplaced : after.Placed before.modules.length) : after.Coherent := by
  have hgrows := hserves.grows
  have hlength := hserves.length
  have hfits : ∀ id, id < after.modules.length → after.Fits id (after.module id) := fun id hid =>
    (h.fits id (hlength ▸ hid)).grows hgrows (hgrows.module id (hlength ▸ hid))
  constructor
  case id_eq => exact fun id hid => (hfits id hid).id_eq
  case paths =>
    exact (pathsDistinct_iff _).mp (((pathsDistinct_iff before).mpr h.paths).grows hgrows hlength)
  case specifiers =>
    exact (specifiersDistinct_iff _).mp
      (((specifiersDistinct_iff before).mpr h.specifiers).grows hgrows hserves.outside)
  case dependencies => exact fun id hid => (hfits id hid).dependencies
  case dependents =>
    intro id dependent
    rw [hserves.dependents, h.dependents, hgrows.depends_iff hlength]
  case importers =>
    intro id dependent
    rw [hserves.importers, h.importers, hgrows.depends_iff hlength]
  case entry =>
    intro id hentry
    rw [hlength]
    exact h.entry id (hserves.entry ▸ hentry)
  case bindings => exact fun id hid => (hfits id hid).bindings
  case imports => exact fun id hid => (hfits id hid).imports
  case unnamed => exact fun id hid => (hfits id hid).unnamed
  case placed => exact hlength ▸ hplaced
  case grounded => exact hgrounded

theorem Session.Coherent.ask {session : Session} (h : session.Coherent) (question : Question)
    (hvalid : session.Valid question.target) (preferred : String)
    (exportedFrom : Option String) :
    ((question.ask preferred exportedFrom).run session).2.Coherent := by
  obtain ⟨hedited, -⟩ := question.edits_ask preferred exportedFrom session h.grounded hvalid
  refine h.serves hedited.serves (h.grounded.edited hedited) ?_
  cases question with
  | named module name => exact h.placed.moduleRecord? h.grounded module hvalid name preferred
  | aggregate module => exact h.placed.aggregateRecord h.grounded module hvalid preferred
  | foreign external name => exact h.placed.externalRecord external hvalid name preferred _

/-! ## Building and asking -/

/-- How a session can be after it was built upon and asked, any number of times. -/
inductive Session.Later (before : Session) : Session → Prop
  | refl : before.Later before
  | build {session : Session} (h : before.Later session) (tree : FileTree) (entry : Path) :
      before.Later ((Building.build tree entry).run session).2
  | ask {session : Session} (h : before.Later session) (question : Question)
      (hvalid : session.Valid question.target) (preferred : String)
      (exportedFrom : Option String) :
      before.Later ((question.ask preferred exportedFrom).run session).2

theorem Session.Coherent.carries_build {session : Session} (h : session.Coherent) (tree : FileTree)
    (entry : Path) : session.Carries ((Building.build tree entry).run session).2 := by
  obtain ⟨hok, hfail⟩ := Building.meets_build tree entry h session rfl
  cases houtcome : ((Building.build tree entry).run session).1 with
  | ok id => exact (hok id houtcome).carries
  | error error => exact (hfail error houtcome).carries

theorem Session.Later.coherent {before after : Session} (h : before.Later after)
    (hcoherent : before.Coherent) : after.Coherent := by
  induction h with
  | refl => exact hcoherent
  | build _ tree entry ih => exact ih.build tree entry
  | ask _ question hvalid preferred exportedFrom ih =>
    exact ih.ask question hvalid preferred exportedFrom

theorem Session.Later.grows {before after : Session} (h : before.Later after)
    (hcoherent : before.Coherent) : before.Grows after := by
  induction h with
  | refl => exact .refl before
  | build h tree entry ih =>
    exact ih.trans ((h.coherent hcoherent).carries_build tree entry).grows
  | ask h question hvalid preferred exportedFrom ih =>
    obtain ⟨hedited, -⟩ := question.edits_ask preferred exportedFrom _
      (h.coherent hcoherent).grounded hvalid
    exact ih.trans hedited.serves.grows

/-- Once a question was answered, it is answered in the same way after any builds and questions,
however it is put. The record is the same, and asking again changes nothing at all. -/
theorem answers_last (options : BundleOptions) (session : Session)
    (h : (Session.new options).Later session) (question : Question)
    (hvalid : session.Valid question.target) (preferred : String) (exportedFrom : Option String)
    (record : RecordId)
    (hrecord : ((question.ask preferred exportedFrom).run session).1 = some record)
    (later : Session)
    (hlater : ((question.ask preferred exportedFrom).run session).2.Later later)
    (preferred' : String) (exportedFrom' : Option String) :
    (question.ask preferred' exportedFrom').run later = (some record, later) ∧
      ∃ found, ((question.ask preferred exportedFrom).run session).2.records[record]? =
          some found ∧
        later.records[record]? = some found := by
  have hcoherent := h.coherent (coherent_new options)
  have hasked := hcoherent.ask question hvalid preferred exportedFrom
  obtain ⟨hedited, hanswer⟩ :=
    question.edits_ask preferred exportedFrom session hcoherent.grounded hvalid
  have hentry := hanswer record hrecord
  have hvalid' := hedited.serves.grows.valid question.target hvalid
  have hgrows := hlater.grows hasked
  obtain ⟨found, hfound⟩ := question.record_of_answer? hasked.grounded hvalid' hentry
  exact ⟨question.ask_of_answer? preferred' exportedFrom'
    (question.answer?_grows hgrows hvalid' hentry), found, hfound,
    hgrows.record record found hfound⟩

/-- A module that exports two externals whole, and an entry that fails after another module made use
of the first one. -/
def passedOn : FileTree :=
  ⟨[(["i"], .file "export*from'p';export*from'q'".toUTF8),
    (["k"], .file "import'./m';import'./n'".toUTF8),
    (["m"], .file "import{x as y}from'./i';import*as n from'./i';f(y,n)".toUTF8)], []⟩

def passedOnSession : Session := ((Building.build passedOn "i").run (.new .standard)).2

def passedOnAsked : Option RecordId × Session :=
  ((Question.named 0 "x").ask "first" none).run passedOnSession

/-- The build that fails, and a name that is known to the second external only. -/
def passedOnLater : Session :=
  ((Question.foreign 1 "y").ask "y" none).run
    ((Building.build passedOn "k").run passedOnAsked.2).2 |>.2

set_option maxRecDepth 100000 in
theorem passedOn_checked :
    passedOnSession.modules.length = 1 ∧ passedOnAsked.1 = some 0 ∧
      ((Building.build passedOn "k").run passedOnAsked.2).1 =
        .error (.moduleNotFound "/k" "./n") ∧
      ((Building.build passedOn "k").run passedOnAsked.2).2.externals.length = 2 ∧
      passedOnLater.modules.length = 2 ∧
      passedOnLater.records.map ExportRecord.identifier = ["first", "n", "p", "q", "y"] := by
  decide +kernel

theorem answers_last_passedOn :
    (Session.new .standard).Later passedOnSession ∧
      passedOnSession.Valid (Question.named 0 "x").target ∧ passedOnAsked.1 = some 0 ∧
      passedOnAsked.2.Later passedOnLater ∧
      passedOnLater.records.map ExportRecord.identifier = ["first", "n", "p", "q", "y"] ∧
      ((Question.named 0 "x").ask "other" (some "q")).run passedOnLater =
        (some 0, passedOnLater) := by
  obtain ⟨hmodules, hasked, -, hexternals, -, hnames⟩ := passedOn_checked
  have hsession : (Session.new .standard).Later passedOnSession := .build .refl passedOn "i"
  have hvalid : passedOnSession.Valid (Question.named 0 "x").target :=
    (Nat.lt_of_lt_of_eq Nat.zero_lt_one hmodules.symm : 0 < passedOnSession.modules.length)
  have hforeign : ((Building.build passedOn "k").run passedOnAsked.2).2.Valid
      (Question.foreign 1 "y").target :=
    (Nat.lt_of_lt_of_eq Nat.one_lt_two hexternals.symm :
      1 < ((Building.build passedOn "k").run passedOnAsked.2).2.externals.length)
  have hlater : passedOnAsked.2.Later passedOnLater := by
    rw [passedOnLater]
    exact .ask (.build .refl passedOn "k") (.foreign 1 "y") hforeign "y" none
  have hlast := answers_last .standard passedOnSession hsession (.named 0 "x") hvalid "first" none 0
  rw [← passedOnAsked] at hlast
  exact ⟨hsession, hvalid, hasked, hlater, hnames,
    (hlast hasked passedOnLater hlater "other" (some "q")).1⟩

end ScopeHoist
