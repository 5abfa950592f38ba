import Mathlib.Data.List.Forall2
import ScopeHoist.Proofs.Leaner
import ScopeHoist.Proofs.Sequence
import ScopeHoist.Proofs.Surface

/-!
# Imports of externals

The import statements of an external bring in each entry of its table once, in the way that the name
of the entry asks for, and nothing else. Grouped as they are, they are statements of the language.
An external with an empty table is imported for its effects if something depends on it, so that no
package that a module names gets lost.
-/

set_option autoImplicit false

namespace ScopeHoist

open Printing

/-! ## Import statements -/

def Item.specifiers : Item → List ImportSpecifier
  | .importFrom specifiers _ _ => specifiers
  | _ => []

namespace ImportSpecifier

def IsDefault : ImportSpecifier → Prop
  | .default _ _ => True
  | _ => False

def IsAggregate : ImportSpecifier → Prop
  | .aggregate _ _ => True
  | _ => False

def IsNamed : ImportSpecifier → Prop
  | .named _ _ _ => True
  | _ => False

/-- Whether a specifier imports a name in the way that the name asks for, under a local name. -/
structure Brings (specifier : ImportSpecifier) (name target : String) : Prop where
  default : specifier.IsDefault ↔ name = defaultName
  aggregate : specifier.IsAggregate ↔ name = aggregateName
  imported : specifier.importedName = name
  target : specifier.target.name = target

end ImportSpecifier

/-- Specifiers that can share a statement: perhaps a default in front, and then either a namespace
or single names. -/
def Grammatical (specifiers : List ImportSpecifier) : Prop :=
  ∃ front rest, specifiers = front ++ rest ∧ front.length ≤ 1 ∧
    (∀ specifier ∈ front, specifier.IsDefault) ∧
    ((rest.length = 1 ∧ ∀ specifier ∈ rest, specifier.IsAggregate) ∨
      ∀ specifier ∈ rest, specifier.IsNamed)

def entryImport (entry : String × String) : ImportSpecifier :=
  if entry.1 = defaultName then .generatedDefault entry.2
  else if entry.1 = aggregateName then .generatedAggregate entry.2
  else .generatedNamed entry.1 entry.2

theorem generatedNamed_importedName (name target : String) :
    (ImportSpecifier.generatedNamed name target).importedName = name := by
  unfold ImportSpecifier.generatedNamed
  by_cases h : name = target
  · rw [if_pos (beq_iff_eq.mpr h), h]
    rfl
  · rw [if_neg (mt beq_iff_eq.mp h)]
    exact OuterName.value_generated name

theorem entryImport_brings (entry : String × String) :
    (entryImport entry).Brings entry.1 entry.2 := by
  unfold entryImport
  split
  · rename_i hdefault
    rw [hdefault]
    exact ⟨iff_of_true trivial rfl, iff_of_false id (by decide), rfl, rfl⟩
  · rename_i hdefault
    split
    · rename_i haggregate
      rw [haggregate]
      exact ⟨iff_of_false id (by decide), iff_of_true trivial rfl, rfl, rfl⟩
    · rename_i haggregate
      exact ⟨iff_of_false id hdefault, iff_of_false id haggregate,
        generatedNamed_importedName _ _, rfl⟩

theorem grammatical_named (whole : Option String) (named : List (String × String)) :
    Grammatical (importSpecifiers whole none named) := by
  refine ⟨whole.toList.map .generatedDefault, _, List.append_assoc _ _ _, ?_, ?_, .inr ?_⟩
  · cases whole <;> simp
  · intro specifier hspecifier
    obtain ⟨target, -, rfl⟩ := List.mem_map.mp hspecifier
    trivial
  · intro specifier hspecifier
    obtain ⟨entry, -, rfl⟩ := List.mem_map.mp hspecifier
    trivial

theorem grammatical_aggregate (whole : Option String) (target : String) :
    Grammatical (importSpecifiers whole (some target) []) := by
  refine ⟨whole.toList.map .generatedDefault, _, List.append_assoc _ _ _, ?_, ?_, .inl ⟨rfl, ?_⟩⟩
  · cases whole <;> simp
  · intro specifier hspecifier
    obtain ⟨target, -, rfl⟩ := List.mem_map.mp hspecifier
    trivial
  · intro specifier hspecifier
    obtain rfl := List.mem_singleton.mp hspecifier
    trivial

section

variable (source : String) (whole aggregate : Option String) (named : List (String × String))

theorem importStatements_perm :
    ((importStatements source whole aggregate named).flatMap Item.specifiers).Perm
      (importSpecifiers whole aggregate named) := by
  unfold importStatements
  split
  · rw [List.flatMap_singleton]
    exact .refl _
  · simp only [List.flatMap_cons, List.flatMap_nil, List.append_nil, Item.specifiers, importItem,
      importSpecifiers, Option.toList_none, List.map_nil, List.nil_append]
    rw [List.append_assoc, List.append_assoc]
    exact List.perm_append_comm.append_left _

/-- A namespace gets a statement of its own if there are single names. -/
theorem importStatements_grammatical :
    ∀ item ∈ importStatements source whole aggregate named, ∃ specifiers,
      item = importItem source specifiers ∧ Grammatical specifiers := by
  intro item hitem
  cases aggregate with
  | none =>
    rw [importStatements_none] at hitem
    exact ⟨_, List.mem_singleton.mp hitem, grammatical_named whole named⟩
  | some target =>
    by_cases hnamed : named = []
    · subst hnamed
      rw [importStatements_nil] at hitem
      exact ⟨_, List.mem_singleton.mp hitem, grammatical_aggregate whole target⟩
    · rw [importStatements_both source whole target hnamed] at hitem
      rcases List.mem_pair.mp hitem with rfl | rfl
      · exact ⟨_, rfl, grammatical_named whole named⟩
      · exact ⟨_, rfl, grammatical_aggregate none target⟩

end

/-! ## Entries of a table -/

theorem Table.filter_eq {α : Type} (table : Table α) (h : table.Proper) (name : String) :
    table.filter (fun entry => entry.1 == name) = (table.get? name).toList.map (name, ·) := by
  induction table with
  | nil => rfl
  | cons first rest ih =>
    obtain ⟨key, value⟩ := first
    obtain ⟨hnew, hrest⟩ := List.nodup_cons.mp h
    rw [Table.get?_cons]
    by_cases hkey : key = name
    · subst hkey
      have hnone : Table.get? rest key = none := (Table.get?_eq_none rest key).mpr hnew
      rw [List.filter_cons_of_pos (by simp), ih hrest, hnone, if_pos rfl]
      rfl
    · rw [List.filter_cons_of_neg (by simpa using hkey), ih hrest, if_neg (Ne.symm hkey)]

theorem entries_perm (table : Table String) :
    (table.filter (fun entry => entry.1 == defaultName) ++
      (table.filter (fun entry => entry.1 == aggregateName) ++
        table.filter fun entry => Session.isMemberName entry.1)).Perm table := by
  -- what is not the default is split once more
  have hothers := List.filter_append_perm (fun entry : String × String => entry.1 == aggregateName)
    (table.filter fun entry => !(entry.1 == defaultName))
  rw [List.filter_filter, List.filter_filter] at hothers
  refine .trans (.append_left _ (.trans (.of_eq ?_) hothers)) (List.filter_append_perm _ table)
  congr 1
  · refine List.filter_congr fun entry _ => ?_
    by_cases h : entry.1 = aggregateName
    · rw [h]
      rfl
    · simp [h]
  · refine List.filter_congr fun entry _ => ?_
    rw [Session.isMemberName, Bool.and_comm]
    rfl

theorem importSpecifiers_perm (table : Table String) (h : table.Proper) :
    (importSpecifiers (table.get? defaultName) (table.get? aggregateName)
      (table.filter fun entry => Session.isMemberName entry.1)).Perm (table.map entryImport) := by
  have hwhole : (table.get? defaultName).toList.map ImportSpecifier.generatedDefault =
      (table.filter fun entry => entry.1 == defaultName).map entryImport := by
    rw [table.filter_eq h, List.map_map]
    rfl
  have haggregate : (table.get? aggregateName).toList.map ImportSpecifier.generatedAggregate =
      (table.filter fun entry => entry.1 == aggregateName).map entryImport := by
    rw [table.filter_eq h, List.map_map]
    rfl
  have hnamed : (table.filter fun entry => Session.isMemberName entry.1).map
      (fun entry => ImportSpecifier.generatedNamed entry.1 entry.2) =
        (table.filter fun entry => Session.isMemberName entry.1).map entryImport := by
    refine List.map_congr_left fun entry hentry => ?_
    have hmember := (List.mem_filter.mp hentry).2
    simp only [Session.isMemberName, Bool.and_eq_true, bne_iff_ne] at hmember
    rw [entryImport, if_neg hmember.1, if_neg hmember.2]
  rw [importSpecifiers, hwhole, haggregate, hnamed, List.append_assoc, ← List.map_append,
    ← List.map_append]
  exact (entries_perm table).map entryImport

/-! ## Statements of an external -/

namespace Session

def spelled (session : Session) (table : Table RecordId) : Table String :=
  table.map fun entry => (entry.1, session.identifier entry.2)

theorem get?_spelled (session : Session) (table : Table RecordId) (name : String) :
    (session.spelled table).get? name = (table.get? name).map session.identifier := by
  induction table with
  | nil => rfl
  | cons entry rest ih =>
    change Table.get? ((entry.1, session.identifier entry.2) :: session.spelled rest) name = _
    rw [Table.get?_cons, Table.get?_cons, ih]
    split <;> rfl

theorem proper_spelled (session : Session) (table : Table RecordId) (h : table.Proper) :
    (session.spelled table).Proper := by
  rw [Table.Proper, Table.names, spelled, List.map_map]
  exact h

theorem importsOf_perm (session : Session) (external : External) (h : external.exports.Proper) :
    ((session.importsOf external).flatMap Item.specifiers).Perm
      ((session.spelled external.exports).map entryImport) := by
  rw [importsOf_eq]
  split
  · rename_i hempty
    rw [Bool.and_eq_true, List.isEmpty_iff] at hempty
    rw [hempty.1]
    exact .refl _
  · refine (importStatements_perm _ _ _ _).trans ?_
    have hmembers : (external.exports.filter fun entry => isMemberName entry.1).map
        (fun entry => (entry.1, session.identifier entry.2)) =
          (session.spelled external.exports).filter fun entry => isMemberName entry.1 := by
      rw [spelled, List.filter_map]
      rfl
    rw [hmembers, ← session.get?_spelled, ← session.get?_spelled]
    exact importSpecifiers_perm _ (session.proper_spelled _ h)

theorem importsOf_grammatical (session : Session) (external : External) :
    ∀ item ∈ session.importsOf external, ∃ specifiers,
      item = importItem external.specifier specifiers ∧ Grammatical specifiers := by
  rw [importsOf_eq]
  split
  · exact fun item hitem => absurd hitem List.not_mem_nil
  · exact importStatements_grammatical _ _ _ _

/-- An external with an empty table is imported for its effects if something depends on it. -/
theorem Coherent.importsOf_empty {session : Session} (h : session.Coherent) (id : ExternalId)
    (hempty : (session.external id).exports = []) :
    ((∃ asker < session.modules.length, session.DependsOn asker id) →
      session.importsOf (session.external id) = [importItem (session.external id).specifier []]) ∧
    ((¬ ∃ asker < session.modules.length, session.DependsOn asker id) →
      session.importsOf (session.external id) = []) := by
  rw [importsOf, hempty, if_pos List.isEmpty_nil]
  constructor
  · rintro ⟨asker, hasker⟩
    have hdependents : (session.external id).dependents ≠ [] :=
      List.ne_nil_of_mem ((h.importers id asker).mpr hasker)
    rw [if_neg (by simpa using hdependents)]
  · intro hnone
    have hdependents : (session.external id).dependents = [] :=
      List.eq_nil_iff_forall_not_mem.mpr fun asker hasker =>
        hnone ⟨asker, (h.importers id asker).mp hasker⟩
    rw [if_pos (by simpa using hdependents)]

theorem Rooted.exists_external {session : Session} {tree : FileTree} {path : Path} {root : ModuleId}
    (h : session.Rooted tree path root) (id : ModuleId) (hid : id < session.modules.length)
    (specifier : String) (hspecifier : specifier ∈ (session.module id).program.specifiers)
    (hbare : specifierKind specifier = .bare) :
    ∃ external < session.externals.length, (session.external external).specifier = specifier ∧
      session.DependsOn id external := by
  obtain ⟨program, -, hsame, hnames⟩ := h.sourced id hid
  rw [hsame, ← hnames] at hspecifier
  obtain ⟨⟨name, target⟩, hentry, rfl⟩ := List.mem_map.mp hspecifier
  obtain ⟨-, hleads⟩ := h.led id hid _ hentry
  cases target with
  | module other => exact absurd (hbare.symm.trans hleads.1) nofun
  | external external =>
    exact ⟨external, hleads.2.1, hleads.2.2, List.mem_map.mpr ⟨_, hentry, rfl⟩⟩

theorem Linked.import_mem {built linked : Session} {order : List ModuleId}
    (h : built.Linked linked order) (hcoherent : built.Coherent) (id : ExternalId)
    (hid : id < built.externals.length)
    (hasked : ∃ asker < built.modules.length, built.DependsOn asker id) :
    ∃ specifiers, importItem (built.external id).specifier specifiers ∈
      (linked.linkedProgram order).items := by
  obtain ⟨hsome, himports⟩ := h.importsOf_met hcoherent id hid hasked
  obtain ⟨item, hitem⟩ := List.exists_mem_of_ne_nil _ hsome
  obtain ⟨specifiers, rfl⟩ := himports item hitem
  refine ⟨specifiers, List.mem_append_left _ (List.mem_append_left _ ?_)⟩
  exact List.mem_flatMap.mpr
    ⟨_, linked.external_mem id (h.externals_length.symm ▸ hid), hitem⟩

end Session

/-- Each external is imported as its table says. Every entry has one specifier, of the kind that its
name asks for and under the identifier of its record, and there are no others. The statements keep
to the grammar, and one without specifiers stands for an external with an empty table exactly if
some module depends on it. So a bundle imports each package that one of its files names. -/
theorem externals_imported (options : BundleOptions) :
    (∀ session : Session, session.FromPhases options → ∀ id < session.externals.length,
      (session.external id).exports.Proper ∧
      (∃ listed, listed.Perm
          ((session.importsOf (session.external id)).flatMap Item.specifiers) ∧
        List.Forall₂ (fun entry specifier =>
          ImportSpecifier.Brings specifier entry.1 (session.identifier entry.2))
            (session.external id).exports listed) ∧
      (∀ item ∈ session.importsOf (session.external id), ∃ specifiers,
        item = importItem (session.external id).specifier specifiers ∧
          Grammatical specifiers) ∧
      ((session.external id).exports = [] →
        ((∃ asker < session.modules.length, session.DependsOn asker id) →
          session.importsOf (session.external id) =
            [importItem (session.external id).specifier []]) ∧
        ((¬ ∃ asker < session.modules.length, session.DependsOn asker id) →
          session.importsOf (session.external id) = []))) ∧
    ∀ tree entry output bundled, (bundle tree entry output options).outcome = .ok bundled →
      bundled.code = (bundledProgram tree entry options).text
          (linkedSession tree entry options).comments
            (linkedSession tree entry options).options.minify ∧
      ∀ id < (builtSession tree entry options).modules.length,
        ∀ specifier ∈ ((builtSession tree entry options).module id).program.specifiers,
          specifierKind specifier = .bare → ∃ specifiers,
            importItem specifier specifiers ∈ (bundledProgram tree entry options).items := by
  refine ⟨fun session hsession id hid => ?_, fun tree entry output bundled hbundle => ?_⟩
  · have hcoherent := hsession.coherent
    have hproper := (hcoherent.grounded.externals id hid).proper
    refine ⟨hproper, ⟨_, (session.importsOf_perm _ hproper).symm, ?_⟩,
      session.importsOf_grammatical _, hcoherent.importsOf_empty id⟩
    rw [Session.spelled, List.map_map, List.forall₂_map_right_iff]
    exact List.forall₂_same.mpr fun entry _ =>
      entryImport_brings (entry.1, session.identifier entry.2)
  · refine ⟨bundle_code tree entry output options bundled hbundle, ?_⟩
    intro id hid specifier hspecifier hbare
    obtain ⟨root, hrooted, -⟩ :=
      rooted_builtSession tree entry options (builds_of_bundle tree entry output options bundled
        hbundle)
    obtain ⟨external, hvalid, rfl, hdepends⟩ :=
      hrooted.exists_external id hid specifier hspecifier hbare
    exact (linked_linkedSession tree entry options).import_mem
      (coherent_builtSession tree entry options) external hvalid ⟨id, hid, hdepends⟩

/-- A file that imports one package in all ways, and from another one a name that it does not
use. -/
def wholesale : FileTree :=
  ⟨[(["i"], .file
      "import d,\x7bx as y\x7dfrom'p';import*as n from'p';import\x7bz\x7dfrom'q';f(d,y,n)".toUTF8)],
    []⟩

def wholesaleShaken : Session := (InSession.shake.run (builtFrom wholesale "/i")).2

set_option maxRecDepth 100000 in
theorem wholesale_checked :
    (bundle wholesale "/i" none .standard).outcome.toOption.isSome = true ∧
      (bundledProgram wholesale "/i" .standard).text .none true =
        "import d,\x7bx as y\x7dfrom\"p\";import*as n from\"p\";import\"q\";f(d,y,n);" ∧
      wholesaleShaken.externals.length = 2 ∧ wholesaleShaken.modules.length = 1 ∧
      (wholesaleShaken.external 0).exports.names = ["default", "x", "*"] ∧
      (wholesaleShaken.external 1).exports.names = [] ∧
      .external 1 ∈ (wholesaleShaken.module 0).dependencyTargets ∧
      0 < (builtSession wholesale "/i" .standard).modules.length ∧
      "q" ∈ ((builtSession wholesale "/i" .standard).module 0).program.specifiers := by
  decide +kernel

theorem externals_imported_wholesale :
    wholesaleShaken.FromPhases .standard ∧
      (∃ listed, listed.Perm
          ((wholesaleShaken.importsOf (wholesaleShaken.external 0)).flatMap Item.specifiers) ∧
        List.Forall₂ (fun entry specifier => ImportSpecifier.Brings specifier entry.1
            (wholesaleShaken.identifier entry.2)) (wholesaleShaken.external 0).exports listed) ∧
      wholesaleShaken.importsOf (wholesaleShaken.external 1) =
        [importItem (wholesaleShaken.external 1).specifier []] ∧
      ∃ bundled, (bundle wholesale "/i" none .standard).outcome = .ok bundled ∧ ∃ specifiers,
        importItem "q" specifiers ∈ (bundledProgram wholesale "/i" .standard).items := by
  obtain ⟨houtcome, -, hexternals, hmodules, -, hnames, hdepends, hvalid, hspecifier⟩ :=
    wholesale_checked
  have hphases : wholesaleShaken.FromPhases .standard := .shake (.build .new wholesale "/i")
  obtain ⟨hsessions, hbundles⟩ := externals_imported .standard
  obtain ⟨-, hlisted, -, -⟩ := hsessions wholesaleShaken hphases 0 (by rw [hexternals]; decide)
  obtain ⟨-, -, -, hempty⟩ := hsessions wholesaleShaken hphases 1 (by rw [hexternals]; decide)
  obtain ⟨hbare, -⟩ := hempty (List.map_eq_nil_iff.mp hnames)
  generalize houtcome' : (bundle wholesale "/i" none .standard).outcome = outcome at houtcome
  cases outcome with
  | error error => exact absurd houtcome nofun
  | ok bundled =>
    obtain ⟨-, hpackages⟩ := hbundles wholesale "/i" none bundled houtcome'
    exact ⟨hphases, hlisted, hbare ⟨0, by rw [hmodules]; decide, hdepends⟩, bundled, rfl,
      hpackages 0 hvalid "q" hspecifier (by decide)⟩

end ScopeHoist
