import ScopeHoist.Proofs.Claims
import ScopeHoist.Proofs.Interruption

/-!
# Names that no source declares

Namespaces, default exports without a name and what externals hand out are called by names that are
made up: legal ones at first, of which naming takes the stem and puts a number behind it if it has
to. What comes out is legal unless that stem is a reserved word. Naming once more takes the stem of
what came out, so that the names stay as they are if no stem has a number left to lose.
-/

set_option autoImplicit false

namespace ScopeHoist

namespace Session

/-! ## Sessions that may have been shaken -/

def shakenIf (session : Session) (shaken : Bool) : Session :=
  if shaken then ((InSession.shake).run session).2 else session

/-- A session with the names that are given out in some order of its modules. -/
def withNames (session : Session) (order : List ModuleId) : Session :=
  ((InSession.assignNames order).run session).2

@[simp] theorem shakenIf_false (session : Session) : session.shakenIf false = session :=
  if_neg Bool.false_ne_true

theorem shaken_shakenIf (session : Session) (shaken : Bool) :
    ∃ idle unused used, session.Just idle unused used ∧
      session.Shaken idle unused (session.shakenIf shaken) := by
  cases shaken with
  | true =>
    obtain ⟨used, hjust⟩ := session.just_verdict
    exact ⟨_, _, used, hjust, session.shaken_shake⟩
  | false =>
    have hshaken := session.shaken_nothing .trace ""
    exact ⟨[], [], _, session.just_nothing, hshaken.length, hshaken.externals_length,
      hshaken.module, hshaken.external, hshaken.binding, hshaken.records, hshaken.entry⟩

theorem Shaken.executionOrder_eq {before after : Session} {idle : List BindingId}
    {unused : List RecordId} (h : before.Shaken idle unused after) :
    after.executionOrder = before.executionOrder := by
  have hneighbours : after.neighbours = before.neighbours := funext fun id => by
    rw [neighbours, Module.moduleDependencies, h.dependencyTargets_eq]
    rfl
  have hlength : after.walkLength = before.walkLength := by
    rw [walkLength, hneighbours, h.length]
    rfl
  rw [executionOrder, executionOrder, h.entry, hneighbours, hlength]

theorem Sound.linkable_shakenIf {session : Session} (h : session.Sound) (shaken : Bool) :
    Linkable session (session.shakenIf shaken) (session.shakenIf shaken).executionOrder := by
  obtain ⟨idle, unused, used, hjust, hshaken⟩ := session.shaken_shakenIf shaken
  rw [hshaken.executionOrder_eq]
  exact linkable_of_shaken h hjust hshaken _ h.orderedBy

theorem Coherent.shakenIf {session : Session} (h : session.Coherent) (shaken : Bool) :
    (session.shakenIf shaken).Coherent := by
  cases shaken with
  | true => exact h.shake
  | false => exact h

theorem FromBuilds.legallyNamed {options : BundleOptions} {session : Session}
    (h : session.FromBuilds options) : session.LegallyNamed := by
  induction h with
  | new => exact fun record hrecord => absurd hrecord List.not_mem_nil
  | @build session h tree hdir entry ih =>
    obtain ⟨hok, hfail⟩ :=
      Building.meets_build tree entry h.fromPhases.coherent session rfl
    cases houtcome : ((Building.build tree entry).run session).1 with
    | ok id => exact (hok id houtcome).named ih
    | error error => exact (hfail error houtcome).named ih

theorem LegallyNamed.shakenIf {session : Session} (h : session.LegallyNamed) (shaken : Bool) :
    (session.shakenIf shaken).LegallyNamed := by
  obtain ⟨_, _, _, -, hshaken⟩ := session.shaken_shakenIf shaken
  exact h.of_same hshaken.records

theorem LegallyNamed.identifier {session : Session} (h : session.LegallyNamed) (id : RecordId)
    (hvalue : session.CanHold (.value id)) : isLegalName (session.identifier id) = true := by
  obtain ⟨record, hrecord, howner⟩ := hvalue
  rw [Session.identifier, hrecord]
  exact h record (List.mem_of_getElem? hrecord) howner

theorem Bears.canHold {session : Session} {order : List ModuleId} {holder : Holder}
    (h : session.Bears order holder) : session.CanHold holder := by
  cases holder with
  | binding id => exact h.1
  | value id =>
    obtain ⟨record, hrecord, howner, -⟩ := h
    exact ⟨record, hrecord, howner⟩

end Session

/-! ## Made-up names are legal -/

/-- A value without a declaration is called by a legal name in the bundle, or by a reserved word
that it was spelled as with a number behind. -/
theorem generated_names_legal (options : BundleOptions) (session : Session)
    (h : session.FromBuilds options) (shaken : Bool) (id : RecordId)
    (hbears : (session.shakenIf shaken).Bears (session.shakenIf shaken).executionOrder
      (.value id)) :
    let before := session.shakenIf shaken
    let after := before.withNames before.executionOrder
    isLegalName (after.identifier id) = true ∨
      (isReservedWord (after.identifier id) = true ∧
        ∃ digits ≠ [], (∀ c ∈ digits, c.isDigit = true) ∧
          (before.identifier id).toList = (after.identifier id).toList ++ '$' :: digits) := by
  intro before after
  obtain ⟨naming, htold⟩ := before.told_assignNames session _ (h.sound.linkable_shakenIf shaken)
  have hlegal := (h.legallyNamed.shakenIf shaken).identifier id hbears.canHold
  obtain ⟨hspelled, hfree⟩ := (isLegalName_iff _).mp hlegal
  rcases htold.nameOf_cases (.value id) hbears.mem_holders with hname | ⟨k, hname⟩
  · have hname : after.identifier id = stem (before.identifier id) := hname
    cases hword : isReservedWord (after.identifier id) with
    | false =>
      rw [hname] at hword ⊢
      exact .inl ((isLegalName_iff _).mpr ⟨hspelled.stem, hword⟩)
    | true =>
      refine .inr ⟨rfl, ?_⟩
      rcases stem_cases (before.identifier id) with hsame | ⟨-, hnumbered⟩
      · rw [hname, hsame] at hword
        exact absurd (hword.symm.trans hfree) nofun
      · rw [hname]
        exact hnumbered
  · have hname : after.identifier id = numbered (stem (before.identifier id)) k := hname
    rw [hname]
    exact .inl (hspelled.stem.isLegalName_numbered k)

/-- An entry that reads a name of an external, a namespace and a default export without a name. The
first two are spelled with numbers behind. -/
def madeUp : FileTree :=
  ⟨[(["i"], .file ("import{x as a$1$2}from'p';import*as if$2 from'./a.js';import d from'./no-4';" ++
      "const a$1=1;f(a$1$2,if$2,d,a$1)").toUTF8),
    (["a.js"], .file "export let b=1".toUTF8), (["no-4.js"], .file "export default 2".toUTF8)], []⟩

def madeUpSession : Session := builtFrom madeUp "i"

theorem madeUpSession_fromBuilds : madeUpSession.FromBuilds .standard := by
  rw [madeUpSession]
  exact fromBuilds_builtFrom madeUp FileTree.holds_nil "i"

def madeUpNamed : Session := madeUpSession.withNames madeUpSession.executionOrder

set_option maxRecDepth 100000 in
theorem madeUpSession_checked :
    madeUpSession.records =
        [⟨"b", "b", .module 0, some 0, none⟩, ⟨defaultName, "no4", .module 1, none, none⟩,
          ⟨"x", "a$1$2", .external 0, none, none⟩,
          ⟨aggregateName, "if$2", .module 0, none, none⟩] ∧
      madeUpSession.executionOrder = [0, 1, 2] ∧
      (madeUpSession.module 0).exports.values = [0, 3] ∧
      madeUpSession.externals.length = 1 ∧
      (madeUpSession.external 0).exports.values = [2] ∧
      madeUpNamed.records.map ExportRecord.identifier = ["b", "no4", "a$1$1", "if"] := by
  decide +kernel

theorem Session.identifier_eq_getD (session : Session) (id : RecordId) :
    session.identifier id = ((session.records.map ExportRecord.identifier)[id]?).getD "" := by
  rw [Session.identifier, List.getElem?_map]

theorem madeUpSession_bears :
    madeUpSession.Bears madeUpSession.executionOrder (.value 2) ∧
      madeUpSession.Bears madeUpSession.executionOrder (.value 3) := by
  obtain ⟨hrecords, horder, htable, hexternals, hforeign, -⟩ := madeUpSession_checked
  have hfound : madeUpSession.records[2]? = some ⟨"x", "a$1$2", .external 0, none, none⟩ ∧
      madeUpSession.records[3]? = some ⟨aggregateName, "if$2", .module 0, none, none⟩ := by
    rw [hrecords]
    exact ⟨rfl, rfl⟩
  have hvalid : 0 < madeUpSession.externals.length := by simp [hexternals]
  have hmem : 2 ∈ (madeUpSession.external 0).exports.values := by simp [hforeign]
  have hmem' : 3 ∈ (madeUpSession.module 0).exports.values := by simp [htable]
  have hfirst : 0 ∈ madeUpSession.executionOrder := by simp [horder]
  exact ⟨⟨_, hfound.1, rfl, .inr ⟨0, hvalid, hmem⟩⟩,
    ⟨_, hfound.2, rfl, .inl ⟨0, hfirst, rfl, .inl hmem'⟩⟩⟩

theorem generated_names_legal_madeUp :
    madeUpSession.FromBuilds .standard ∧
      madeUpSession.Bears madeUpSession.executionOrder (.value 2) ∧
      madeUpSession.identifier 2 = "a$1$2" ∧ madeUpNamed.identifier 2 = "a$1$1" ∧
      isLegalName (madeUpNamed.identifier 2) = true := by
  obtain ⟨hrecords, -, -, -, -, hnames⟩ := madeUpSession_checked
  have hbefore : madeUpSession.identifier 2 = "a$1$2" := by
    rw [Session.identifier, hrecords]
    rfl
  have hafter : madeUpNamed.identifier 2 = "a$1$1" := by
    rw [Session.identifier_eq_getD, hnames]
    rfl
  refine ⟨madeUpSession_fromBuilds, madeUpSession_bears.1, hbefore, hafter, ?_⟩
  have hlegal := generated_names_legal .standard madeUpSession madeUpSession_fromBuilds false 2
    (by simpa using madeUpSession_bears.1)
  simp only [Session.shakenIf_false] at hlegal
  rw [← madeUpNamed, hafter] at hlegal
  rw [hafter]
  exact hlegal.resolve_right fun hreserved => absurd hreserved.1 (by decide)

/-- Some made-up names are reserved words: a namespace that is spelled as one with a number behind
is called like the word itself. -/
theorem generated_names_may_be_reserved :
    ¬ ∀ (options : BundleOptions) (session : Session), session.FromBuilds options →
      ∀ (shaken : Bool) (id : RecordId),
        (session.shakenIf shaken).Bears (session.shakenIf shaken).executionOrder (.value id) →
        isLegalName (((session.shakenIf shaken).withNames
          (session.shakenIf shaken).executionOrder).identifier id) = true := by
  intro hall
  have hlegal := hall .standard madeUpSession madeUpSession_fromBuilds false 3
    (by simpa using madeUpSession_bears.2)
  simp only [Session.shakenIf_false] at hlegal
  rw [← madeUpNamed, Session.identifier_eq_getD, madeUpSession_checked.2.2.2.2.2] at hlegal
  exact absurd hlegal (by decide)

/-! ## Naming once more -/

namespace Session.Respelled

variable {before after : Session} (h : before.Respelled after)
include h

theorem isLeft_eq : after.isLeft = before.isLeft := funext fun id => by
  rw [Bool.eq_iff_iff, isLeft_iff, isLeft_iff]
  exact ⟨h.symm.canHold (.binding id), h.canHold (.binding id)⟩

theorem isOwn_eq (module : ModuleId) :
    after.isOwn module = before.isOwn module := funext fun id => by
  rw [Bool.eq_iff_iff, isOwn_iff, isOwn_iff]
  constructor
  · rintro ⟨record, hrecord, hrest⟩
    obtain ⟨identifier, hbefore⟩ := h.symm.exists_record id record hrecord
    exact ⟨_, hbefore, hrest⟩
  · rintro ⟨record, hrecord, hrest⟩
    obtain ⟨identifier, hafter⟩ := h.exists_record id record hrecord
    exact ⟨_, hafter, hrest⟩

/-- New names do not change who is asked for a name. -/
theorem holders_eq (order : List ModuleId) : after.holders order = before.holders order := by
  have hmodule : after.moduleHolders = before.moduleHolders := funext fun module => by
    rw [moduleHolders, moduleHolders, h.isLeft_eq, h.isOwn_eq, exportedBy, exportedBy, h.module]
  rw [holders, holders, hmodule, outerHolders, outerHolders, h.externals]

theorem wish_binding (id : BindingId) : after.wish (.binding id) = before.wish (.binding id) := by
  have hsame := congrArg (Option.map fun binding => binding.declaration.name) (h.binding id)
  rw [Option.map_map, Option.map_map] at hsame
  exact congrArg (fun name : Option String => name.getD "") hsame

theorem bindings_eq (hsame : ∀ id, after.nameOf (.binding id) = before.nameOf (.binding id)) :
    after.bindings = before.bindings := List.ext_getElem? fun id => by
  cases hbefore : before.bindings[id]? with
  | none =>
    have hnone := h.binding id
    rw [hbefore] at hnone
    exact Option.map_eq_none_iff.mp hnone
  | some binding =>
    obtain ⟨name, hafter⟩ := h.exists_binding id binding hbefore
    have hname := hsame id
    simp only [nameOf, hbefore, hafter, Option.map_some, Option.getD_some] at hname
    rw [hafter, hname]

theorem records_eq (hsame : ∀ id, after.identifier id = before.identifier id) :
    after.records = before.records := List.ext_getElem? fun id => by
  cases hbefore : before.records[id]? with
  | none =>
    have hnone := h.record id
    rw [hbefore] at hnone
    exact Option.map_eq_none_iff.mp hnone
  | some record =>
    obtain ⟨identifier, hafter⟩ := h.exists_record id record hbefore
    have hname := hsame id
    simp only [Session.identifier, hbefore, hafter, Option.map_some, Option.getD_some] at hname
    rw [hafter, hname]

end Session.Respelled

namespace Session

theorem Linkable.bears {source session : Session} {order : List ModuleId}
    (h : Linkable source session order) (holder : Holder)
    (hholder : holder ∈ session.holders order) : session.Bears order holder := by
  have hmem := ((mem_foldl_addNew _ _ _).mp hholder).resolve_left List.not_mem_nil
  rcases List.mem_append.mp hmem with hmem | hmem
  · obtain ⟨module, hmodule, hmem⟩ := List.mem_flatMap.mp hmem
    rcases List.mem_append.mp hmem with hmem | hmem
    · obtain ⟨id, hid, rfl⟩ := List.mem_map.mp hmem
      obtain ⟨hmember, hleft⟩ := List.mem_filter.mp hid
      exact ⟨(session.isLeft_iff id).mp hleft, module, hmodule, hmember⟩
    · obtain ⟨id, hid, rfl⟩ := List.mem_map.mp hmem
      obtain ⟨hentry, hown⟩ := List.mem_filter.mp hid
      obtain ⟨record, hrecord, howner, hsource⟩ := (session.isOwn_iff module id).mp hown
      exact ⟨record, hrecord, howner, .inl ⟨module, hmodule, hsource,
        (List.mem_append.mp hentry).imp_right fun hdefault => by simpa using hdefault⟩⟩
  · obtain ⟨id, hid, rfl⟩ := List.mem_map.mp hmem
    obtain ⟨external, hexternal, hid⟩ := List.mem_flatMap.mp hid
    obtain ⟨i, hi, rfl⟩ := session.external_of_mem hexternal
    obtain ⟨entry, hentry, rfl⟩ := List.mem_map.mp hid
    obtain ⟨record, hrecord, -, -, howner⟩ := (h.externals i hi).entries entry hentry
    exact ⟨record, hrecord, howner, .inr ⟨i, hi, hid⟩⟩

theorem Coherent.exists_owner {session : Session} (h : session.Coherent) (module : ModuleId)
    (hmodule : module < session.modules.length) (id : RecordId)
    (hentry : id ∈ (session.module module).exports.values) :
    ∃ record, session.records[id]? = some record ∧ ∀ owner, record.owner = some owner →
      ∃ binding, session.bindings[owner]? = some binding ∧ record.identifier = binding.name := by
  obtain ⟨record, hrecord, hbacks, -⟩ := h.grounded.exports module hmodule id hentry
  refine ⟨record, hrecord, fun owner howner => ?_⟩
  cases hbacks with
  | declared _ other binding _ hof _ _ hbinding _ hidentifier _ =>
    obtain rfl := Option.some.inj (howner.symm.trans hof)
    exact ⟨binding, hbinding, hidentifier⟩
  | external external _ hof => cases howner.symm.trans hof
  | unnamed module _ hof => cases howner.symm.trans hof
  | aggregate module _ hof => cases howner.symm.trans hof

theorem Coherent.identifier_eq {source session : Session} {order : List ModuleId}
    (h : session.Coherent) (hlinkable : Linkable source session order) (module : ModuleId)
    (hmodule : module ∈ order) (id : RecordId) (hentry : id ∈ session.exportedBy module)
    (record : ExportRecord) (hrecord : session.records[id]? = some record) (owner : BindingId)
    (howner : record.owner = some owner) :
    session.identifier id = session.nameOf (.binding owner) := by
  have hvalid := hlinkable.order.valid module hmodule
  have hentry : id ∈ (session.module module).exports.values := by
    refine (List.mem_append.mp hentry).resolve_right fun hdefault => ?_
    obtain ⟨found, hfound, -, -, hnone⟩ :=
      hlinkable.unnamed module hvalid id (by simpa using hdefault)
    obtain rfl := Option.some.inj (hrecord.symm.trans hfound)
    exact absurd (howner.symm.trans hnone) nofun
  obtain ⟨found, hfound, hcalled⟩ := h.exists_owner module hvalid id hentry
  obtain rfl := Option.some.inj (hrecord.symm.trans hfound)
  obtain ⟨binding, hbinding, hidentifier⟩ := hcalled owner howner
  simpa [identifier, nameOf, hrecord, hbinding] using hidentifier

section

variable {source start once twice : Session} {order : List ModuleId} {naming naming' : Naming}
  (h : start.Told (start.reservedNames order) (start.holders order)
    (order.flatMap start.exportedBy) naming once)
  (h' : once.Told (once.reservedNames order) (once.holders order)
    (order.flatMap once.exportedBy) naming' twice)
  (hwish : ∀ holder ∈ start.holders order, once.wish holder = start.wish holder)
include h h' hwish

/-- A second naming asks the same holders. If they wish for the same, they are called the same. -/
theorem Told.nameOf_eq (holder : Holder) (hholder : holder ∈ start.holders order) :
    twice.nameOf holder = once.nameOf holder := by
  have hreserved : once.reservedNames order = start.reservedNames order := by
    simp only [reservedNames, h.respelled.module]
  have hnames := h'.names
  rw [h.respelled.holders_eq, hreserved, List.map_congr_left hwish, ← h.names] at hnames
  exact List.map_inj_left.mp hnames holder hholder

theorem Told.bindings_eq : twice.bindings = once.bindings := by
  refine h'.respelled.bindings_eq fun id => ?_
  by_cases hholder : .binding id ∈ start.holders order
  · exact h.nameOf_eq h' hwish _ hholder
  · rw [nameOf, nameOf, h'.binding_eq id (by rwa [h.respelled.holders_eq])]

theorem Told.records_eq (hcoherent : once.Coherent) (hcoherent' : twice.Coherent)
    (hlinkable : Linkable source once order) : twice.records = once.records := by
  refine h'.respelled.records_eq fun id => ?_
  by_cases hholder : .value id ∈ start.holders order
  · exact h.nameOf_eq h' hwish _ hholder
  cases hrecord : once.records[id]? with
  | none =>
    have hnone := h'.respelled.record id
    rw [hrecord] at hnone
    rw [identifier, identifier, hrecord, Option.map_eq_none_iff.mp hnone]
  | some record =>
    by_cases hpassed : record.owner ≠ none ∧ id ∈ order.flatMap once.exportedBy
    · -- both times the record is called like its declaration, and that one is called the same
      obtain ⟨hsome, hpassed⟩ := hpassed
      obtain ⟨owner, howner⟩ := Option.ne_none_iff_exists'.mp hsome
      obtain ⟨module, hmodule, hentry⟩ := List.mem_flatMap.mp hpassed
      obtain ⟨identifier, hafter⟩ := h'.respelled.exists_record id record hrecord
      have hsame : twice.exportedBy module = once.exportedBy module := by
        rw [exportedBy, h'.respelled.module, exportedBy]
      have honce := hcoherent.identifier_eq hlinkable module hmodule id hentry record hrecord owner
        howner
      have htwice := hcoherent'.identifier_eq (h'.respelled.linkable source order hlinkable) module
        hmodule id (hsame ▸ hentry) _ hafter owner howner
      rw [honce, htwice, nameOf, h.bindings_eq h' hwish, nameOf]
    · have hkept := h'.record_eq id record hrecord (by rwa [h.respelled.holders_eq])
        fun hsome hmem => hpassed ⟨hsome, hmem⟩
      rw [identifier, identifier, hkept, hrecord]

end

/-- A holder wishes again for what it wished for, if its name has one number at most. -/
theorem Told.wish_eq {start once : Session} {reserved : List String} {asked : List Holder}
    {passed : List RecordId} {naming : Naming}
    (h : start.Told reserved asked passed naming once) (id : RecordId)
    (hasked : .value id ∈ asked) (hlegal : isLegalName (start.identifier id) = true)
    (hsingle : once.identifier id = stem (start.identifier id) →
      stem (once.identifier id) = once.identifier id) :
    once.wish (.value id) = start.wish (.value id) := by
  have hspelled := ((isLegalName_iff _).mp hlegal).1.stem
  change stem (once.identifier id) = stem (start.identifier id)
  rcases h.nameOf_cases (.value id) hasked with hname | ⟨k, hname⟩
  · exact (hsingle hname).trans hname
  · have hname : once.identifier id = numbered (stem (start.identifier id)) k := hname
    rw [hname, stem_numbered _ k hspelled.ne_empty]

end Session

/-- Naming a session once more changes no name, unless a made-up name with two numbers behind lost
one of them and got no other for it. -/
theorem names_settle (options : BundleOptions) (session : Session) (h : session.FromBuilds options)
    (shaken : Bool) :
    let before := session.shakenIf shaken
    let order := before.executionOrder
    let once := before.withNames order
    let twice := once.withNames order
    (∀ id, before.Bears order (.value id) → once.identifier id = stem (before.identifier id) →
      stem (once.identifier id) = once.identifier id) →
    twice.bindings = once.bindings ∧ twice.records = once.records := by
  intro before order once twice hsingle
  have hlinkable : Session.Linkable session before order := h.sound.linkable_shakenIf shaken
  have hlinkable' : Session.Linkable session once order :=
    (before.linked_assignNames session order hlinkable).1
  obtain ⟨naming, htold⟩ := before.told_assignNames session order hlinkable
  obtain ⟨naming', htold'⟩ := once.told_assignNames session order hlinkable'
  have hcoherent : once.Coherent := (h.fromPhases.coherent.shakenIf shaken).assignNames order
  have hwish : ∀ holder ∈ before.holders order, once.wish holder = before.wish holder := by
    intro holder hholder
    cases holder with
    | binding id => exact htold.respelled.wish_binding id
    | value id =>
      have hbears := hlinkable.bears _ hholder
      exact htold.wish_eq id hholder
        ((h.legallyNamed.shakenIf shaken).identifier id hbears.canHold) (hsingle id hbears)
  exact ⟨htold.bindings_eq htold' hwish,
    htold.records_eq htold' hwish hcoherent (hcoherent.assignNames order) hlinkable'⟩

theorem names_settle_madeUp :
    madeUpSession.FromBuilds .standard ∧
      (∀ id, madeUpSession.Bears madeUpSession.executionOrder (.value id) →
        madeUpNamed.identifier id = stem (madeUpSession.identifier id) →
          stem (madeUpNamed.identifier id) = madeUpNamed.identifier id) ∧
      madeUpNamed.records.map ExportRecord.identifier = ["b", "no4", "a$1$1", "if"] ∧
      (madeUpNamed.withNames madeUpSession.executionOrder).records = madeUpNamed.records := by
  obtain ⟨hrecords, -, -, -, -, hnames⟩ := madeUpSession_checked
  have hsingle : ∀ id, madeUpSession.Bears madeUpSession.executionOrder (.value id) →
      madeUpNamed.identifier id = stem (madeUpSession.identifier id) →
        stem (madeUpNamed.identifier id) = madeUpNamed.identifier id := fun id hbears => by
    obtain ⟨record, hrecord, -⟩ := hbears
    have hid : id < madeUpSession.records.length := (List.getElem?_eq_some_iff.mp hrecord).1
    have hbefore : madeUpSession.records.map ExportRecord.identifier =
        ["b", "no4", "a$1$2", "if$2"] := by simp [hrecords]
    simp only [Session.identifier_eq_getD, hnames, hbefore]
    have hall : ∀ id < 4, ((["b", "no4", "a$1$1", "if"] : List String)[id]?).getD "" =
        stem (((["b", "no4", "a$1$2", "if$2"] : List String)[id]?).getD "") →
          stem (((["b", "no4", "a$1$1", "if"] : List String)[id]?).getD "") =
            ((["b", "no4", "a$1$1", "if"] : List String)[id]?).getD "" := by decide
    exact hall id (by simpa [hrecords] using hid)
  refine ⟨madeUpSession_fromBuilds, hsingle, hnames, ?_⟩
  rw [madeUpNamed] at hsingle ⊢
  have hsettled := names_settle .standard madeUpSession madeUpSession_fromBuilds false
  rw [Session.shakenIf_false] at hsettled
  exact (hsettled hsingle).2

/-- A name of an external that is spelled with two numbers behind. -/
def twiceNumbered : FileTree := ⟨[(["i"], .file "import{x as a$1$2}from'p';f(a$1$2)".toUTF8)], []⟩

def twiceNumberedSession : Session := builtFrom twiceNumbered "i"

set_option maxRecDepth 100000 in
/-- Some names change when they are given once more: two numbers go one by one. -/
theorem names_may_not_settle :
    ¬ ∀ (options : BundleOptions) (session : Session), session.FromBuilds options →
      ∀ shaken : Bool,
        let before := session.shakenIf shaken
        let order := before.executionOrder
        let once := before.withNames order
        let twice := once.withNames order
        twice.bindings = once.bindings ∧ twice.records = once.records := by
  intro hall
  have hbuilt : twiceNumberedSession.FromBuilds .standard := by
    rw [twiceNumberedSession]
    exact fromBuilds_builtFrom twiceNumbered FileTree.holds_nil "i"
  have hsame := (hall .standard twiceNumberedSession hbuilt false).2
  rw [Session.shakenIf_false] at hsame
  have hchanged : ((twiceNumberedSession.withNames twiceNumberedSession.executionOrder).withNames
        twiceNumberedSession.executionOrder).records.map ExportRecord.identifier = ["a"] ∧
      (twiceNumberedSession.withNames
        twiceNumberedSession.executionOrder).records.map ExportRecord.identifier = ["a$1"] := by
    decide +kernel
  obtain ⟨htwice, honce⟩ := hchanged
  have hmapped := congrArg (List.map ExportRecord.identifier) hsame
  exact absurd (htwice.symm.trans (hmapped.trans honce)) (by decide)

end ScopeHoist
