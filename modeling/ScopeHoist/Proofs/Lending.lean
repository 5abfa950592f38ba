import ScopeHoist.Proofs.Interruption
import ScopeHoist.Proofs.Stars
import ScopeHoist.Proofs.Underway

/-!
# Names lent by externals

A module has the names that it does not export itself from the externals that it exports whole. Who
asks first for such a name is given it by the first external that is known to have it, else by the
first of all. The table of the module then has an entry for it, so that it is told only once that
the name is ambiguous, and what was told stays right.
-/

set_option autoImplicit false

namespace ScopeHoist

open InSession

/-! ## What a module exports whole -/

namespace Session

/-- What an `export *` adds to the externals that a module exports whole: an external itself, and
of another module what that one exports whole. -/
def broughtIn (session : Session) (module : Module) (specifier : String) : List StarReexport :=
  match module.target? specifier with
  | some (.external id) => [⟨specifier, id⟩]
  | some (.module id) => (session.module id).stars
  | none => []

/-- The externals come in the order of the source, each where it comes first. -/
theorem starsOf_eq_eraseDups (session : Session) (module : Module) :
    session.starsOf module =
      (module.starSpecifiers.flatMap (session.broughtIn module)).eraseDups := by
  rw [← foldl_addNew_nil, List.foldl_flatMap]
  unfold starsOf
  refine List.foldl_ext _ _ _ fun stars specifier _ => ?_
  unfold broughtIn
  cases module.target? specifier with
  | none => rfl
  | some target => cases target <;> rfl

end Session

/-! ## What was told -/

/-- What a warning says of a name that a module may have from several externals. -/
structure Ambiguity where
  path : Path
  name : String
  sources : List String
  chosen : String

def Warning.ambiguity? : Warning → Option Ambiguity
  | .ambiguousStar path name sources chosen => some ⟨path, name, sources, chosen⟩
  | .missingExport _ _ _ => none

namespace Session

/-- All that was told of ambiguous names, in the order of the warnings. -/
def ambiguities (session : Session) : List Ambiguity :=
  session.warnings.filterMap Warning.ambiguity?

/-- Whether what was told is so: the sources are some of those that the module exports whole, in
their order, and the module has the name from the first of these. -/
def BearsOut (session : Session) (told : Ambiguity) : Prop :=
  ∃ id, id < session.modules.length ∧ (session.module id).path = told.path ∧
    ∃ star second others record, (star :: second :: others).Sublist (session.module id).stars ∧
      told.sources = (star :: second :: others).map StarReexport.specifier ∧
        told.chosen = star.specifier ∧
          (session.external star.external).exports.get? told.name = some record ∧
            (session.module id).exports.get? told.name = some record

/-- Sessions in which all ambiguities that were told are so, each told once. -/
structure Candid (session : Session) : Prop where
  grounded : session.Grounded
  distinct : session.PathsDistinct
  once : (session.ambiguities.map fun told => (told.path, told.name)).Nodup
  right : ∀ told ∈ session.ambiguities, session.BearsOut told

theorem knowsAmbiguity_iff (session : Session) (path : Path) (name : String) :
    session.knowsAmbiguity path name = true ↔
      (path, name) ∈ session.ambiguities.map fun told => (told.path, told.name) := by
  simp only [knowsAmbiguity, List.any_eq_true, ambiguities, List.mem_map, List.mem_filterMap]
  constructor
  · rintro ⟨warning, hwarning, hmatch⟩
    cases warning with
    | missingExport importer specifier missing => exact absurd hmatch nofun
    | ambiguousStar path' name' sources chosen =>
      simp only [Bool.and_eq_true, beq_iff_eq] at hmatch
      exact ⟨_, ⟨_, hwarning, rfl⟩, by rw [hmatch.1, hmatch.2]⟩
  · rintro ⟨told, ⟨warning, hwarning, htold⟩, heq⟩
    cases warning with
    | missingExport importer specifier missing => exact absurd htold nofun
    | ambiguousStar path' name' sources chosen =>
      obtain rfl := Option.some.inj htold
      obtain ⟨rfl, rfl⟩ := Prod.mk.inj heq
      exact ⟨_, hwarning, by simp⟩

theorem candid_new (options : BundleOptions) : (Session.new options).Candid where
  grounded := (coherent_new options).grounded
  distinct := (pathsDistinct_iff _).mpr (coherent_new options).paths
  once := List.nodup_nil
  right := nofun

section

variable {before after : Session}

theorem BearsOut.grows {told : Ambiguity} (h : before.BearsOut told)
    (hgrounded : before.Grounded) (hgrows : before.Grows after) : after.BearsOut told := by
  obtain ⟨id, hid, hpath, star, second, others, record, hsublist, hsources, hchosen, hlender,
    hentry⟩ := h
  have hmodule := hgrows.module id hid
  have hstar := hgrounded.stars id hid star (hsublist.subset List.mem_cons_self)
  refine ⟨id, Nat.lt_of_lt_of_le hid hgrows.modules_length, hmodule.path_eq.trans hpath, star,
    second, others, record, ?_, hsources, hchosen, (hgrows.external _ hstar).kept _ _ hlender,
    hmodule.kept _ _ hentry⟩
  rw [hmodule.stars_eq]
  exact hsublist

theorem Candid.discreet (h : before.Candid) (hstep : before.Step after)
    (hsame : after.ambiguities = before.ambiguities) : after.Candid where
  grounded := hstep.grounded h.grounded
  distinct := hstep.distinct h.grounded h.distinct
  once := by
    rw [hsame]
    exact h.once
  right := fun told htold =>
    (h.right told (hsame ▸ htold)).grows h.grounded (hstep.grows h.grounded)

theorem Candid.unknown {session : Session} (h : session.Candid) (id : ModuleId)
    (hid : id < session.modules.length) (name : String)
    (habsent : (session.module id).exports.get? name = none) :
    session.knowsAmbiguity (session.module id).path name = false := by
  rw [Bool.eq_false_iff]
  intro hknown
  obtain ⟨told, htold, heq⟩ :=
    List.mem_map.mp ((session.knowsAmbiguity_iff _ name).mp hknown)
  obtain ⟨hpath, rfl⟩ := Prod.mk.inj heq
  obtain ⟨other, hother, hsame, -, -, -, record, -, -, -, -, hentry⟩ := h.right told htold
  obtain rfl := h.distinct other hother id hid (hsame.trans hpath)
  rw [habsent] at hentry
  exact absurd hentry nofun

end

end Session

/-! ## Asking for a name that is not in the table -/

namespace InSession

open Session

theorem needNamespaces_warnings (stars : List StarReexport) (session : Session) :
    ((stars.forM needNamespace).run session).2.warnings = session.warnings := by
  induction stars generalizing session with
  | nil => rfl
  | cons star rest ih =>
    exact (ih _).trans (externalRecord_warnings session star.external aggregateName star.specifier
      none)

theorem aggregateRecord_warnings (session : Session) (id : ModuleId)
    (hid : id < session.modules.length) (preferred : String) :
    ((aggregateRecord id preferred).run session).2.warnings = session.warnings := by
  cases hentry : (session.module id).exports.get? aggregateName with
  | some record => rw [aggregateRecord_of_get? session id preferred record hentry]
  | none =>
    rw [aggregateRecord_run session id hid preferred hentry]
    exact needNamespaces_warnings _ _

def toldOf (path : Path) (name : String) : List StarReexport → List Warning
  | star :: second :: others =>
    [.ambiguousStar path name ((star :: second :: others).map StarReexport.specifier)
      star.specifier]
  | _ => []

theorem reported_warnings (session : Session) (id : ModuleId) (name : String)
    (star : StarReexport) (others : List StarReexport)
    (hunknown : session.knowsAmbiguity (session.module id).path name = false) :
    (reported session id name star others).warnings =
      session.warnings ++ toldOf (session.module id).path name (star :: others) := by
  cases others with
  | nil => exact (List.append_nil _).symm
  | cons second rest =>
    simp only [reported, List.isEmpty_cons, Bool.false_eq_true, if_false, Session.report, hunknown]
    rfl

theorem starRecord?_lends {session : Session} (h : session.Candid) (id : ModuleId)
    (hid : id < session.modules.length) (name preferred : String)
    (habsent : (session.module id).exports.get? name = none) (star : StarReexport)
    (others : List StarReexport) (hcandidates : starCandidates session id name = star :: others) :
    let asked := (starRecord? id name preferred).run session
    ∃ record, asked.1 = some record ∧
      (asked.2.external star.external).exports.get? name = some record ∧
        (asked.2.module id).exports.get? name = some record ∧
          asked.2.warnings =
            session.warnings ++ toldOf (session.module id).path name (star :: others) := by
  intro asked
  obtain ⟨-, hlisted⟩ := edits_starRecord? id name preferred session h.grounded ⟨hid, habsent⟩
  have hrun := starRecord?_run session id name preferred star others hcandidates
  have hreported := edited_reported session id name star others
  have hstar : star.external < session.externals.length := h.grounded.stars id hid star
    (starCandidates_mem session id name star (by simp [hcandidates]))
  obtain ⟨-, hentry⟩ := edits_externalRecord star.external name preferred (some star.specifier) _
    (h.grounded.edited hreported) (hreported.serves.grows.valid (.external star.external) hstar)
  have hwarnings := externalRecord_warnings (reported session id name star others) star.external
    name preferred (some star.specifier)
  rw [reported_warnings session id name star others (h.unknown id hid name habsent)] at hwarnings
  generalize (externalRecord star.external name preferred (some star.specifier)).run
    (reported session id name star others) = lent at *
  refine ⟨lent.1, congrArg Prod.fst hrun, ?_, hlisted lent.1 (congrArg Prod.fst hrun), ?_⟩
  · have hexternals : asked.2.externals = lent.2.externals :=
      congrArg (fun outcome => outcome.2.externals) hrun
    rw [Session.external, hexternals]
    exact hentry
  · exact (congrArg (fun outcome => outcome.2.warnings) hrun).trans hwarnings

theorem moduleRecord?_of_absent (session : Session) (id : ModuleId) (name preferred : String)
    (hdefault : name ≠ defaultName) (habsent : (session.module id).exports.get? name = none) :
    (moduleRecord? id name preferred).run session =
      (starRecord? id name preferred).run session := by
  simp only [moduleRecord?, run_bind, run_get, habsent, beq_iff_eq, hdefault, if_false]

end InSession

namespace Session

/-! ## Candid sessions -/

variable {before after : Session}

theorem Candid.tells (h : before.Candid) (hstep : before.Step after) (told : Ambiguity)
    (hmore : after.ambiguities = before.ambiguities ++ [told])
    (hunknown : before.knowsAmbiguity told.path told.name = false) (hright : after.BearsOut told) :
    after.Candid where
  grounded := hstep.grounded h.grounded
  distinct := hstep.distinct h.grounded h.distinct
  once := by
    rw [hmore, List.map_append, List.nodup_append]
    refine ⟨h.once, by simp, fun pair hpair other hother heq => ?_⟩
    obtain rfl := List.mem_singleton.mp hother
    rw [heq, ← knowsAmbiguity_iff, hunknown] at hpair
    exact absurd hpair nofun
  right := fun found hfound => by
    rw [hmore, List.mem_append, List.mem_singleton] at hfound
    rcases hfound with hold | rfl
    · exact (h.right found hold).grows h.grounded (hstep.grows h.grounded)
    · exact hright

theorem Candid.starred {session : Session} (h : session.Candid) (id : ModuleId)
    (hid : id < session.modules.length) (name preferred : String)
    (habsent : (session.module id).exports.get? name = none)
    (hstep : session.Step ((starRecord? id name preferred).run session).2) :
    ((starRecord? id name preferred).run session).2.Candid := by
  cases hcandidates : starCandidates session id name with
  | nil =>
    rw [starRecord?_nil session id name preferred hcandidates]
    exact h
  | cons star others =>
    obtain ⟨record, -, hlender, hlent, hwarnings⟩ :=
      starRecord?_lends h id hid name preferred habsent star others hcandidates
    have hmore := congrArg (List.filterMap Warning.ambiguity?) hwarnings
    rw [List.filterMap_append] at hmore
    cases others with
    | nil => exact h.discreet hstep (hmore.trans (List.append_nil _))
    | cons second rest =>
      have hgrows := hstep.grows h.grounded
      have hmodule := hgrows.module id hid
      refine h.tells hstep _ hmore (h.unknown id hid name habsent) ⟨id, ?_, hmodule.path_eq, star,
        second, rest, record, ?_, rfl, rfl, hlender, hlent⟩
      · exact Nat.lt_of_lt_of_le hid hgrows.modules_length
      · rw [hmodule.stars_eq, ← hcandidates]
        exact starCandidates_sublist session id name

theorem Candid.asked {session : Session} (h : session.Candid) (id : ModuleId)
    (hid : id < session.modules.length) (name preferred : String) :
    ((moduleRecord? id name preferred).run session).2.Candid := by
  have hstep : session.Step ((moduleRecord? id name preferred).run session).2 :=
    .ask (.named id name) hid preferred none
  cases hentry : (session.module id).exports.get? name with
  | some record =>
    simp only [moduleRecord?, run_bind, run_get, hentry, run_pure]
    exact h
  | none =>
    by_cases hdefault : name = defaultName
    · subst hdefault
      simp only [moduleRecord?, run_bind, run_get, hentry, beq_self_eq_true, if_true, run_pure]
      exact h
    · rw [moduleRecord?_of_absent session id name preferred hdefault hentry] at hstep ⊢
      exact h.starred id hid name preferred hentry hstep

/-- Whatever is done to a session, what is told is told once and stays right. -/
theorem Candid.step (h : before.Candid) (hstep : before.Step after) : after.Candid := by
  have hsame : after.warnings = before.warnings → after.Candid := fun heq =>
    h.discreet hstep (congrArg (List.filterMap Warning.ambiguity?) heq)
  cases hstep with
  | aside after hmodules hexternals hwarnings => exact hsame hwarnings
  | intern specifier =>
    apply hsame
    rw [InSession.run_intern]
    split <;> rfl
  | link id target hvalid => exact hsame (before.announces_addDependent id target hvalid).warnings
  | ask question hvalid preferred exportedFrom =>
    cases question with
    | named id name => exact h.asked id hvalid name preferred
    | aggregate id => exact hsame (aggregateRecord_warnings before id hvalid preferred)
    | foreign id name => exact hsame (externalRecord_warnings before id name preferred exportedFrom)
  | miss importer specifier name =>
    refine h.discreet (.miss importer specifier name) ?_
    exact (List.filterMap_append).trans (List.append_nil _)
  | store module => exact hsame rfl

theorem Underway.candid {options : BundleOptions} {session : Session}
    (h : session.Underway options) : session.Candid := by
  induction h with
  | refl => exact candid_new options
  | tail _ hlast ih => exact ih.step hlast

/-! ## Who lends -/

/-- The external that a name comes from: the first one that is known to have it, else the first one
of all. -/
def lender? (session : Session) (id : ModuleId) (name : String) : Option StarReexport :=
  let stars := (session.module id).stars
  (stars.find? fun star => (session.external star.external).exports.has name).or stars.head?

theorem head?_starCandidates (session : Session) (id : ModuleId) (name : String) :
    (starCandidates session id name).head? = session.lender? id name := by
  unfold starCandidates lender?
  dsimp only
  rw [← List.head?_filter]
  generalize (session.module id).stars.filter (fun star =>
    (session.external star.external).exports.has name) = known
  cases known <;> rfl

theorem starCandidates_eq_nil (session : Session) (id : ModuleId) (name : String) :
    starCandidates session id name = [] ↔ (session.module id).stars = [] := by
  constructor
  · intro hnil
    have hlender := session.head?_starCandidates id name
    rw [hnil] at hlender
    exact List.head?_eq_none_iff.mp (Option.or_eq_none_iff.mp hlender.symm).2
  · intro hnil
    exact List.sublist_nil.mp (hnil ▸ starCandidates_sublist session id name)

/-- What comes of asking a module for a name that is not in its table. -/
structure Lends (session : Session) (id : ModuleId) (name : String) (result : Option RecordId)
    (after : Session) : Prop where
  unresolved : result = none ↔ (session.module id).stars = []
  /-- The record is that of the lender, and the module has it from then on. -/
  lent : ∀ star, session.lender? id name = some star → ∃ record found, result = some record ∧
    after.records[record]? = some found ∧ found.source = .external star.external ∧
      found.localName = name ∧
        (after.external star.external).exports.get? name = some record ∧
          (after.module id).exports.get? name = some record
  told : after.warnings =
    session.warnings ++ toldOf (session.module id).path name (starCandidates session id name)

theorem Candid.lends {session : Session} (h : session.Candid) (id : ModuleId)
    (hid : id < session.modules.length) (name preferred : String) (hdefault : name ≠ defaultName)
    (haggregate : name ≠ aggregateName)
    (habsent : (session.module id).exports.get? name = none) :
    session.Lends id name ((targetRecord? (.module id) name preferred).run session).1
      ((targetRecord? (.module id) name preferred).run session).2 := by
  have hrun := moduleRecord?_of_absent session id name preferred hdefault habsent
  have hstep : session.Step ((moduleRecord? id name preferred).run session).2 :=
    .ask (.named id name) hid preferred none
  have htarget : targetRecord? (.module id) name preferred = moduleRecord? id name preferred := by
    simp only [targetRecord?, beq_iff_eq, haggregate, if_false]
  rw [htarget, hrun]
  rw [hrun] at hstep
  have hlender := session.head?_starCandidates id name
  have hnil := session.starCandidates_eq_nil id name
  cases hcandidates : starCandidates session id name with
  | nil =>
    rw [starRecord?_nil session id name preferred hcandidates]
    rw [hcandidates] at hlender hnil
    constructor
    case unresolved => exact ⟨fun _ => hnil.mp rfl, fun _ => rfl⟩
    case lent =>
      exact fun star hstar => absurd (hlender.trans hstar) (Option.some_ne_none star).symm
    case told =>
      rw [hcandidates]
      exact (List.append_nil _).symm
  | cons star others =>
    obtain ⟨record, hresult, hentry, hlent, hwarnings⟩ :=
      starRecord?_lends h id hid name preferred habsent star others hcandidates
    rw [hcandidates] at hlender hnil
    constructor
    case unresolved =>
      rw [hresult]
      exact ⟨fun hnone => absurd hnone (Option.some_ne_none record),
        fun hstars => absurd (hnil.mpr hstars) (List.cons_ne_nil star others)⟩
    case lent =>
      intro other hother
      obtain rfl : star = other := Option.some.inj (hlender.trans hother)
      have hvalid := (hstep.grows h.grounded).valid (.external star.external)
        (h.grounded.stars id hid star
          (starCandidates_mem session id name star (by simp [hcandidates])))
      obtain ⟨found, hfound, hname, hsource, -⟩ := ((hstep.grounded h.grounded).externals
        star.external hvalid).entries _ (Table.mem_of_get? _ _ _ hentry)
      exact ⟨record, found, hresult, hfound, hsource, hname, hentry, hlent⟩
    case told =>
      rw [hcandidates]
      exact hwarnings

theorem FromBuilds.stars_eq {options : BundleOptions} {session : Session}
    (h : session.FromBuilds options) (id : ModuleId) (hid : id < session.modules.length) :
    (∀ specifier ∈ (session.module id).starSpecifiers,
        ∃ target, (session.module id).target? specifier = some target) ∧
      (session.module id).stars = ((session.module id).starSpecifiers.flatMap
        (session.broughtIn (session.module id))).eraseDups := by
  obtain ⟨first, hwired⟩ := h.wired
  have hcompleted := hwired.completed id hid
  refine ⟨fun specifier hspecifier => hcompleted.covered specifier
    ((session.module id).mem_specifiers_of_star specifier hspecifier), ?_⟩
  rw [← starsOf_eq_eraseDups]
  exact hcompleted.stars

end Session

/-- Building and asking is done in steps, and a module gets the externals that it exports whole in
the order of its statements. At any time, who asks a module for a name that it does not have yet is
given it by the first external that is known to have it, else by the first of all, and it is told if
there was a choice. What was told was told once, and it stays right. -/
theorem stars_lend_in_order (options : BundleOptions) :
    (∀ session, (Session.new options).Later session → session.Underway options) ∧
      (∀ session, session.FromBuilds options → (Session.new options).Later session ∧
        ∀ id, id < session.modules.length →
          (∀ specifier ∈ (session.module id).starSpecifiers,
              ∃ target, (session.module id).target? specifier = some target) ∧
            (session.module id).stars = ((session.module id).starSpecifiers.flatMap
              (session.broughtIn (session.module id))).eraseDups) ∧
        ∀ session : Session, session.Underway options →
          (∀ id, id < session.modules.length → ∀ name preferred, name ≠ defaultName →
            name ≠ aggregateName → (session.module id).exports.get? name = none →
              session.Lends id name ((targetRecord? (.module id) name preferred).run session).1
                ((targetRecord? (.module id) name preferred).run session).2) ∧
            (session.ambiguities.map fun told => (told.path, told.name)).Nodup ∧
              ∀ told ∈ session.ambiguities, session.BearsOut told :=
  ⟨fun _ h => h.steps (Session.coherent_new options), fun _ h => ⟨h.later, h.stars_eq⟩, fun _ h =>
    ⟨fun id hid name preferred hdefault haggregate habsent =>
      h.candid.lends id hid name preferred hdefault haggregate habsent,
      h.candid.once, h.candid.right⟩⟩

/-- A module that exports two externals whole, one that exports this one whole between others, and
two that ask for names. -/
def handedDown : FileTree :=
  ⟨[(["i"], .file "import{x}from'./m';import'./n';f(x)".toUTF8),
    (["l"], .file "export*from'p';export*from'q'".toUTF8),
    (["m"], .file "export*from'r';export*from'./l';export*from'q'".toUTF8),
    (["n"], .file "import{x}from'./l';import{x as z}from'./m';import{y}from'q';f(x,y,z)".toUTF8)],
    []⟩

def handedDownSession : Session := builtFrom handedDown "i"

def handedDownAsked : Option RecordId × Session :=
  (InSession.targetRecord? (.module 1) "w" "w").run handedDownSession

set_option maxRecDepth 100000 in
theorem handedDown_checked :
    handedDownSession.modules.length = 4 ∧ (handedDownSession.module 1).path = "/m" ∧
      (handedDownSession.module 1).stars = [⟨"r", 0⟩, ⟨"p", 1⟩, ⟨"q", 2⟩] ∧
      handedDownSession.warnings = [.ambiguousStar "/l" "x" ["p", "q"] "p"] ∧
      (handedDownSession.module 1).exports.get? "w" = none ∧
      handedDownSession.lender? 1 "w" = some ⟨"r", 0⟩ ∧
      InSession.starCandidates handedDownSession 1 "w" =
        (handedDownSession.module 1).stars := by
  decide +kernel

theorem stars_lend_in_order_handedDown :
    handedDownSession.FromBuilds .standard ∧ handedDownSession.Underway .standard ∧
      1 < handedDownSession.modules.length ∧
      (handedDownSession.module 1).stars = [⟨"r", 0⟩, ⟨"p", 1⟩, ⟨"q", 2⟩] ∧
      (handedDownSession.module 1).stars = ((handedDownSession.module 1).starSpecifiers.flatMap
        (handedDownSession.broughtIn (handedDownSession.module 1))).eraseDups ∧
      "w" ≠ defaultName ∧ "w" ≠ aggregateName ∧
      (handedDownSession.module 1).exports.get? "w" = none ∧
      (∃ record found, handedDownAsked.1 = some record ∧
        handedDownAsked.2.records[record]? = some found ∧ found.source = .external 0) ∧
      handedDownAsked.2.warnings = [.ambiguousStar "/l" "x" ["p", "q"] "p",
        .ambiguousStar "/m" "w" ["r", "p", "q"] "r"] ∧
      ∀ told ∈ handedDownSession.ambiguities, handedDownSession.BearsOut told := by
  obtain ⟨hlength, hpath, hstars, hwarnings, habsent, hlender, hcandidates⟩ := handedDown_checked
  have hbuilds : handedDownSession.FromBuilds .standard := by
    rw [handedDownSession]
    exact fromBuilds_builtFrom handedDown FileTree.holds_nil "i"
  have hvalid : 1 < handedDownSession.modules.length := hlength ▸ (by decide : 1 < 4)
  obtain ⟨hunderway, hflat, hlends⟩ := stars_lend_in_order .standard
  obtain ⟨hlater, hkept⟩ := hflat handedDownSession hbuilds
  obtain ⟨hask, -, hright⟩ := hlends handedDownSession (hunderway handedDownSession hlater)
  have hnames : "w" ≠ defaultName ∧ "w" ≠ aggregateName := by decide
  have hasked := hask 1 hvalid "w" "w" hnames.1 hnames.2 habsent
  rw [← handedDownAsked] at hasked
  obtain ⟨record, found, hresult, hfound, hsource, -⟩ := hasked.lent ⟨"r", 0⟩ hlender
  have htold := hasked.told
  rw [hcandidates, hstars, hwarnings, hpath] at htold
  exact ⟨hbuilds, hunderway _ hlater, hvalid, hstars, (hkept 1 hvalid).2, hnames.1, hnames.2,
    habsent, ⟨record, found, hresult, hfound, hsource⟩, htold, hright⟩

end ScopeHoist
