import ScopeHoist.Proofs.Exposure
import ScopeHoist.Proofs.Leftovers
import ScopeHoist.Proofs.ObjectTexts

/-!
# Programs of lean sessions

A session is leaner than another one of the same graph if idle declarations and unused records were
taken out of it. Its one program takes no more text, if none of its names is longer and none of its
clauses and properties has to be written out that is not written out in the program of the other.
-/

set_option autoImplicit false

namespace ScopeHoist

open Printing

theorem shrinks_append {items items' rest rest' : List Item}
    (h : Shrinks (items.forM printItem) (items'.forM printItem))
    (hrest : Shrinks (rest.forM printItem) (rest'.forM printItem)) :
    Shrinks ((items ++ rest).forM printItem) ((items' ++ rest').forM printItem) := by
  have happend : ∀ first second : List Item, (first ++ second).forM printItem = (do
      first.forM printItem
      second.forM printItem) := fun first second => List.forM_append
  rw [happend, happend]
  exact shrinks_seq h hrest

theorem shrinks_flatMap {α β : Type} {values : List α} {values' : List β} {items : α → List Item}
    {items' : β → List Item}
    (h : List.Forall₂ (fun value value' =>
      Shrinks ((items value).forM printItem) ((items' value').forM printItem)) values values') :
    Shrinks ((values.flatMap items).forM printItem) ((values'.flatMap items').forM printItem) := by
  induction h with
  | nil => exact within_skip.shrinks
  | cons hfirst _ ih => exact shrinks_append hfirst ih

namespace Session

/-! ## Names of two sessions -/

def namedRecords (session : Session) (order : List ModuleId) : List RecordId :=
  (order.flatMap fun id => (session.module id).exports.values ++
      (session.module id).unnamedDefault.toList)
    ++ session.externals.flatMap fun external => external.exports.values

/-- The names that clauses of the program have for what comes in and goes out, with the records. -/
def clauseEntries (session : Session) (order : List ModuleId) : List (String × RecordId) :=
  ((order.map session.module).filter Module.isEntry).flatMap Module.exports
    ++ session.externals.flatMap External.exports

/-- Whether names of a session are no longer than those of another one, and have no more clauses
and shorthand properties written out. -/
structure Terser (session other : Session) (order : List ModuleId) : Prop where
  programs : ∀ id ∈ order, (session.module id).program.Terser
    (session.renamesOf (session.module id)) (other.renamesOf (other.module id))
  records : ∀ record ∈ session.namedRecords order,
    (session.identifier record).utf8ByteSize ≤ (other.identifier record).utf8ByteSize
  clauses : ∀ entry ∈ session.clauseEntries order, other.identifier entry.2 = entry.1 →
    session.identifier entry.2 = entry.1

instance (session other : Session) (order : List ModuleId) :
    Decidable (session.Terser other order) :=
  decidable_of_iff (_ ∧ _ ∧ _) ⟨fun h => ⟨h.1, h.2.1, h.2.2⟩, fun h =>
    ⟨h.programs, h.records, h.clauses⟩⟩

/-- A session and a leaner one of the same graph. -/
structure Leaner (lean whole : Session) : Prop where
  isEntry : ∀ id, (lean.module id).isEntry = (whole.module id).isEntry
  unnamed : ∀ id, (lean.module id).unnamedDefault = (whole.module id).unnamedDefault
  program : ∀ id, ∃ unused,
    (lean.module id).program = (whole.module id).program.relieved unused
  entry : ∀ id, (whole.module id).isEntry = true →
    (lean.module id).exports = (whole.module id).exports ∧
      (lean.module id).stars = (whole.module id).stars
  aggregate : ∀ id record, (lean.module id).exports.get? aggregateName = some record →
    (whole.module id).exports.get? aggregateName = some record
  members : ∀ id, (lean.module id).exports.Sublist (whole.module id).exports
  merged : ∀ id,
    (lean.mergedRecords (lean.module id)).Sublist (whole.mergedRecords (whole.module id))
  externals : ∃ unused, lean.externals = whole.externals.map (External.withoutRecords unused)
  proper : ∀ external ∈ whole.externals, external.exports.Proper

section

variable {lean whole : Session} {order : List ModuleId}

/-! ## Imports -/

theorem importsOf_eq (session : Session) (external : External) :
    session.importsOf external =
      if external.exports.isEmpty && external.dependents.isEmpty then []
      else importStatements external.specifier
        ((external.exports.get? defaultName).map session.identifier)
        ((external.exports.get? aggregateName).map session.identifier)
        ((external.exports.filter fun entry => isMemberName entry.1).map fun entry =>
          (entry.1, session.identifier entry.2)) := by
  have hnamed : session.namedImports external =
      ((external.exports.filter fun entry => isMemberName entry.1).map fun entry =>
        (entry.1, session.identifier entry.2)).map
          fun entry => .generatedNamed entry.1 entry.2 := by
    rw [List.map_map]
    rfl
  have hwhole : ∀ name specifier, session.wholeImports external name specifier =
      ((external.exports.get? name).map session.identifier).toList.map specifier := by
    intro name specifier
    rw [wholeImports, Option.toList_map, List.map_map]
    rfl
  unfold importsOf
  rw [hwhole, hwhole, hnamed]
  by_cases hempty : external.exports = []
  · simp only [hempty, List.isEmpty_nil, if_true, Bool.true_and]
    rfl
  · have hempty' : external.exports.isEmpty = false := by simpa using hempty
    simp only [hempty', Bool.false_and, Bool.false_eq_true, if_false, importStatements,
      importSpecifiers]
    cases external.exports.get? aggregateName <;>
      cases external.exports.filter fun entry => isMemberName entry.1 <;> simp

/-- Whether the records of a table have names in one session that are no longer than in another one,
and the names of their entries where they have these in the other one. -/
structure ShorterIn (lean whole : Session) (table : Table RecordId) : Prop where
  size : ∀ record ∈ table.values,
    (lean.identifier record).utf8ByteSize ≤ (whole.identifier record).utf8ByteSize
  plain : ∀ entry ∈ table, whole.identifier entry.2 = entry.1 → lean.identifier entry.2 = entry.1

theorem ShorterIn.renamed {table : Table RecordId} (h : lean.ShorterIn whole table)
    (entry : String × RecordId) (hentry : entry ∈ table) :
    Renamed entry.1 (lean.identifier entry.2) (whole.identifier entry.2) :=
  ⟨h.size entry.2 (List.mem_map_of_mem hentry), h.plain entry hentry⟩

theorem shrinks_importsOf (unused : List RecordId) (external : External)
    (hproper : external.exports.Proper)
    (h : lean.ShorterIn whole (external.withoutRecords unused).exports) :
    Shrinks ((lean.importsOf (external.withoutRecords unused)).forM printItem)
      ((whole.importsOf external).forM printItem) := by
  have hleft : ∀ entry ∈ (external.withoutRecords unused).exports, entry ∈ external.exports :=
    fun entry hentry => (List.mem_filter.mp hentry).1
  have hself : ∀ items : List Item, Shrinks skip (items.forM printItem) := fun items =>
    shrinks_skip (within_forM_self items within_printItem)
  have hwhole : ∀ name, NoMore
      (((external.withoutRecords unused).exports.get? name).map lean.identifier)
      ((external.exports.get? name).map whole.identifier) := by
    intro name target htarget
    obtain ⟨record, hrecord, rfl⟩ := Option.map_eq_some_iff.mp htarget
    have hentry := Table.mem_of_get? _ _ _ hrecord
    refine ⟨_, Option.map_eq_some_iff.mpr ⟨record, ?_, rfl⟩, h.size record
      (List.mem_map_of_mem hentry)⟩
    exact Table.get?_of_mem _ hproper _ _ (hleft _ hentry)
  have hnamed : FewerEntries
      (((external.withoutRecords unused).exports.filter fun entry => isMemberName entry.1).map
        fun entry => (entry.1, lean.identifier entry.2))
      ((external.exports.filter fun entry => isMemberName entry.1).map
        fun entry => (entry.1, whole.identifier entry.2)) := by
    rw [FewerEntries, List.sublistForall₂_map_left_iff, List.sublistForall₂_map_right_iff]
    refine List.sublistForall₂_iff.mpr ⟨_, List.forall₂_same.mpr fun entry hentry => ?_,
      List.filter_sublist.filter _⟩
    exact ⟨rfl, h.renamed entry (List.mem_filter.mp hentry).1⟩
  rw [importsOf_eq, importsOf_eq]
  split
  · exact hself _
  · rename_i hsome
    rw [if_neg]
    · exact shrinks_importStatements external.specifier (hwhole defaultName)
        (hwhole aggregateName) hnamed
    · intro hnone
      rw [Bool.and_eq_true, List.isEmpty_iff] at hnone
      refine hsome (Bool.and_eq_true_iff.mpr ⟨List.isEmpty_iff.mpr ?_, hnone.2⟩)
      exact List.eq_nil_iff_forall_not_mem.mpr fun entry hentry =>
        absurd (hnone.1 ▸ hleft entry hentry) List.not_mem_nil

theorem aggregateValue_eq (session : Session) (module : Module) :
    session.aggregateValue module = namespaceValue
      ((module.exports.filter fun entry => isMemberName entry.1).map fun entry =>
        (entry.1, session.identifier entry.2))
      ((session.mergedRecords module).map session.identifier) := by
  unfold aggregateValue aggregateMembers namespaceValue
  simp only [List.map_map, List.isEmpty_map]
  rfl

theorem mem_externals_of_mergedRecords (session : Session) (module : Module) (record : RecordId)
    (h : record ∈ session.mergedRecords module) :
    record ∈ session.externals.flatMap fun external => external.exports.values := by
  obtain ⟨star, -, hrecord⟩ := List.mem_filterMap.mp h
  by_cases hvalid : star.external < session.externals.length
  · exact List.mem_flatMap.mpr ⟨_, session.external_mem _ hvalid,
      Table.value_mem_of_get? _ _ _ hrecord⟩
  · have hblank : session.external star.external = .blank := by
      simp [Session.external, List.getElem?_eq_none (Nat.le_of_not_lt hvalid)]
    rw [hblank] at hrecord
    cases hrecord

section

variable (h : lean.Leaner whole) (hnames : lean.Terser whole order)
include h hnames

theorem shrinks_externalImports :
    Shrinks (lean.externalImports.forM printItem) (whole.externalImports.forM printItem) := by
  obtain ⟨unused, hexternals⟩ := h.externals
  unfold externalImports
  rw [hexternals, List.flatMap_map]
  refine shrinks_flatMap (List.forall₂_same.mpr fun external hexternal => ?_)
  have hmem : external.withoutRecords unused ∈ lean.externals :=
    hexternals ▸ List.mem_map_of_mem hexternal
  refine shrinks_importsOf unused external (h.proper external hexternal) ⟨fun record hrecord => ?_,
    fun entry hentry => ?_⟩
  · exact hnames.records record (List.mem_append_right _
      (List.mem_flatMap.mpr ⟨_, hmem, hrecord⟩))
  · exact hnames.clauses entry (List.mem_append_right _
      (List.mem_flatMap.mpr ⟨_, hmem, hentry⟩))

/-! ## Namespace objects -/

theorem shrinks_aggregateValue (id : ModuleId) (hid : id ∈ order) :
    Shrinks (printTree (lean.aggregateValue (lean.module id)) .full)
      (printTree (whole.aggregateValue (whole.module id)) .full) := by
  rw [aggregateValue_eq, aggregateValue_eq]
  refine shrinks_namespaceValue ?_ ?_
  · rw [List.sublistForall₂_map_left_iff, List.sublistForall₂_map_right_iff]
    refine List.sublistForall₂_iff.mpr ⟨_, List.forall₂_same.mpr fun entry hentry => ?_,
      (h.members id).filter _⟩
    exact ⟨rfl, hnames.records _ (List.mem_append_left _ (List.mem_flatMap.mpr ⟨id, hid,
      List.mem_append_left _ (List.mem_map_of_mem (List.mem_filter.mp hentry).1)⟩))⟩
  · rw [List.sublistForall₂_map_left_iff, List.sublistForall₂_map_right_iff]
    refine List.sublistForall₂_iff.mpr ⟨_, List.forall₂_same.mpr fun record hrecord => ?_,
      h.merged id⟩
    exact hnames.records _ (List.mem_append_right _
      (mem_externals_of_mergedRecords lean _ record hrecord))

theorem shrinks_aggregateDeclaration (id : ModuleId) (hid : id ∈ order) :
    Shrinks
      (((lean.aggregateDeclaration? (lean.module id)).toList.map Item.statement).forM printItem)
      (((whole.aggregateDeclaration? (whole.module id)).toList.map Item.statement).forM
        printItem) := by
  cases haggregate : (lean.module id).exports.get? aggregateName with
  | none =>
    have hnone : lean.aggregateDeclaration? (lean.module id) = none := by
      rw [aggregateDeclaration?, haggregate]
      rfl
    rw [hnone]
    exact shrinks_skip (within_forM_self _ within_printItem)
  | some record =>
    have hmem : record ∈ lean.namedRecords order := List.mem_append_left _
      (List.mem_flatMap.mpr ⟨id, hid, List.mem_append_left _
        (Table.value_mem_of_get? _ _ _ haggregate)⟩)
    have hpresent : ∀ (session : Session) (module : Module),
        (session.aggregateValue module).isAbsent = false := fun session module =>
      aggregateValue_eq session module ▸ namespaceValue_present _ _
    rw [aggregateDeclaration?, haggregate, aggregateDeclaration?, h.aggregate id record haggregate]
    exact shrinks_seq (shrinks_constDeclaration (hnames.records record hmem) (hpresent _ _)
      (hpresent _ _) (shrinks_aggregateValue h hnames id hid)) within_skip.shrinks

/-! ## Modules -/

theorem shrinks_hoistedStatements (id : ModuleId) (hid : id ∈ order) :
    Shrinks ((lean.hoistedStatements (lean.module id)).forM printItem)
      ((whole.hoistedStatements (whole.module id)).forM printItem) := by
  obtain ⟨unused, hprogram⟩ := h.program id
  have hterser := hnames.programs id hid
  unfold hoistedStatements
  rw [hprogram] at hterser ⊢
  refine shrinks_statements unused _ (fun name hname => ?_) hterser
  obtain ⟨record, hrecord, rfl⟩ := Option.map_eq_some_iff.mp hname
  refine ⟨whole.identifier record, ?_, hnames.records record (List.mem_append_left _
    (List.mem_flatMap.mpr ⟨id, hid, List.mem_append_right _ (Option.mem_toList.mpr hrecord)⟩))⟩
  rw [← h.unnamed, hrecord]
  rfl

theorem shrinks_entryExports (id : ModuleId) (hid : id ∈ order)
    (hentry : (whole.module id).isEntry = true) :
    Shrinks ((lean.entryExports (lean.module id)).forM printItem)
      ((whole.entryExports (whole.module id)).forM printItem) := by
  obtain ⟨hexports, hstars⟩ := h.entry id hentry
  have hmem : ∀ entry ∈ (lean.module id).exports, entry ∈ lean.clauseEntries order :=
    fun entry hmem => List.mem_append_left _ (List.mem_flatMap.mpr ⟨lean.module id,
      List.mem_filter.mpr ⟨List.mem_map_of_mem hid, (h.isEntry id).trans hentry⟩, hmem⟩)
  unfold entryExports
  rw [← hexports, ← hstars]
  refine shrinks_append ?_ (within_forM_self _ within_printItem).shrinks
  split
  · exact within_skip.shrinks
  · refine shrinks_seq (shrinks_exportItem ?_) within_skip.shrinks
    rw [ShorterOrigins, List.forall₂_map_left_iff, List.forall₂_map_right_iff]
    refine List.forall₂_same.mpr fun entry hentry => ⟨rfl, ?_, ?_⟩
    · exact hnames.records _ (List.mem_append_left _ (List.mem_flatMap.mpr ⟨id, hid,
        List.mem_append_left _ (List.mem_map_of_mem (List.mem_filter.mp hentry).1)⟩))
    · exact hnames.clauses entry (hmem entry (List.mem_filter.mp hentry).1)

theorem shrinks_hoistedItems (id : ModuleId) (hid : id ∈ order) :
    Shrinks ((lean.hoistedItems (lean.module id)).forM printItem)
      ((whole.hoistedItems (whole.module id)).forM printItem) := by
  unfold hoistedItems
  rw [h.isEntry]
  refine shrinks_append (shrinks_append (shrinks_hoistedStatements h hnames id hid)
    (shrinks_aggregateDeclaration h hnames id hid)) ?_
  split
  · exact shrinks_entryExports h hnames id hid ‹_›
  · exact within_skip.shrinks

/-! ## Programs -/

omit hnames in
theorem shrinks_helperItems :
    Shrinks ((lean.helperItems order).forM printItem)
      ((whole.helperItems order).forM printItem) := by
  unfold helperItems
  split
  · rename_i hneeded
    have hneeded' : whole.needsMergeHelper order = true := by
      obtain ⟨id, hid, haggregate⟩ := List.any_eq_true.mp hneeded
      obtain ⟨hhas, hmerged⟩ := Bool.and_eq_true_iff.mp haggregate
      obtain ⟨record, hrecord⟩ := Option.isSome_iff_exists.mp hhas
      refine List.any_eq_true.mpr ⟨id, hid, Bool.and_eq_true_iff.mpr ⟨?_, ?_⟩⟩
      · exact Option.isSome_iff_exists.mpr ⟨record, h.aggregate id record hrecord⟩
      · rw [Bool.not_eq_true', List.isEmpty_eq_false_iff] at hmerged ⊢
        exact fun hnone => hmerged (List.sublist_nil.mp (hnone ▸ h.merged id))
    rw [if_pos hneeded']
    exact (within_forM_self _ within_printItem).shrinks
  · exact shrinks_skip (within_forM_self _ within_printItem)

omit hnames in
theorem shebangOf_eq : InSession.shebangOf lean order = InSession.shebangOf whole order := by
  have hshebang : ∀ id, (lean.module id).program.shebang = (whole.module id).program.shebang := by
    intro id
    obtain ⟨unused, hprogram⟩ := h.program id
    rw [hprogram, Program.relieved]
    split <;> rfl
  simp only [InSession.shebangOf, List.filter_map, List.getLast?_map, Option.bind_map,
    Function.comp_def, h.isEntry, hshebang]

/-- The one program of a leaner session with names that are no longer takes no more text. -/
theorem shrinks_linkedProgram :
    Shrinks (printProgram (lean.linkedProgram order))
      (printProgram (whole.linkedProgram order)) := by
  have hitems : Shrinks ((lean.linkedProgram order).items.forM printItem)
      ((whole.linkedProgram order).items.forM printItem) :=
    shrinks_append (shrinks_append (shrinks_externalImports h hnames) (shrinks_helperItems h))
      (shrinks_flatMap (List.forall₂_same.mpr fun id hid => shrinks_hoistedItems h hnames id hid))
  have hend := shrinks_seq hitems (within_trailing Span.generated.hi Span.generated.hi).shrinks
  have hshebang : (lean.linkedProgram order).shebang = (whole.linkedProgram order).shebang :=
    shebangOf_eq h
  unfold printProgram
  rw [hshebang]
  refine shrinks_seq (within_leading _ _).shrinks ?_
  cases (whole.linkedProgram order).shebang with
  | none => exact hend
  | some text =>
    exact shrinks_seq (within_same _).shrinks (shrinks_seq within_breakLine.shrinks hend)

end

end

end Session

end ScopeHoist
