import ScopeHoist.Link.Program
import ScopeHoist.Proofs.Renaming
import ScopeHoist.Proofs.Shrinking

/-!
# Clauses with fewer names

An import or export clause takes no more text for fewer names, names that are no longer, and names
of which fewer have to be written out. The statements for one external take no more either, although
a namespace stands in a statement of its own only where there are single names besides.
-/

set_option autoImplicit false

namespace ScopeHoist

open Printing

/-! ## Names -/

namespace Printing

theorem within_putQuotation (quotation : Quotation) :
    Within (putQuotation quotation) (putQuotation quotation) :=
  within_seq (within_leading _ _) (within_putString _ _)

theorem within_putOuterName (name : OuterName) :
    Within (putOuterName name) (putOuterName name) := by
  cases name with
  | ident id => exact within_printIdent .bare (Nat.le_refl _)
  | text quotation => exact within_putQuotation quotation

theorem within_putNamedImport (target : Ident) (imported : Option OuterName) (span : Span) :
    Within (putNamedImport target imported span) (putNamedImport target imported span) := by
  have htarget : Within (printIdent target .bare) (printIdent target .bare) :=
    within_printIdent .bare (Nat.le_refl _)
  cases imported with
  | none => exact within_seq (within_leading _ _) htarget
  | some name =>
    exact within_seq (within_leading _ _) (within_seq (within_putOuterName name)
      (within_seq (within_same _) htarget))

theorem within_putNamedExport (origin : OuterName) (exported : Option OuterName) (span : Span) :
    Within (putNamedExport origin exported span) (putNamedExport origin exported span) := by
  cases exported with
  | none =>
    exact within_seq (within_leading _ _) (within_seq (within_putOuterName origin) within_skip)
  | some name =>
    exact within_seq (within_leading _ _) (within_seq (within_putOuterName origin)
      (within_seq (within_same _) (within_putOuterName name)))

def importEntry (entry : String × String) : Span × Printing Unit :=
  (.generated, putNamedImport (.generated entry.2)
    (if entry.1 == entry.2 then none else some (.generated entry.1)) .generated)

theorem within_importEntries (named : List (String × String)) :
    ∀ name ∈ named.map importEntry, Within name.2 name.2 := by
  intro name hname
  obtain ⟨entry, -, rfl⟩ := List.mem_map.mp hname
  exact within_putNamedImport _ _ _

theorem shrinks_importEntry {imported target target' : String}
    (h : Renamed imported target target') :
    Shrinks (importEntry (imported, target)).2 (importEntry (imported, target')).2 := by
  have htarget : Within (printIdent (.generated target) .bare)
      (printIdent (.generated target') .bare) := within_printIdent .bare h.size
  unfold importEntry
  by_cases hplain' : imported = target'
  · have hplain := h.plain hplain'.symm
    simp only [hplain, ← hplain', beq_self_eq_true, if_true]
    exact (within_putNamedImport _ _ _).shrinks
  · have hright : (imported == target') = false := by simpa using hplain'
    simp only [hright, Bool.false_eq_true, if_false]
    split
    · exact shrinks_seq (within_leading _ _).shrinks
        ((htarget.shrinks.behind (within_same _)).behind (within_putOuterName _))
    · exact (within_seq (within_leading _ _) (within_seq (within_putOuterName _)
        (within_seq (within_same _) htarget))).shrinks

/-! ## Import statements -/

def importSpecifiers (whole aggregate : Option String) (named : List (String × String)) :
    List ImportSpecifier :=
  whole.toList.map .generatedDefault ++ aggregate.toList.map .generatedAggregate
    ++ named.map fun entry => .generatedNamed entry.1 entry.2

def putDefault : Option String → Printing Unit
  | none => skip
  | some target => printIdent (.generated target) .bare

def commaIf (begun : Bool) : Printing Unit := if begun then comma else skip

def putNamespace (begun : Bool) : Option String → Printing Unit
  | none => skip
  | some target => do
    commaIf begun
    put "*"
    optionalSpace
    put "as "
    printIdent (.generated target) .bare

def putNames (begun : Bool) (parentEnd : Nat) (names : List (Span × Printing Unit)) :
    Printing Unit :=
  if names.isEmpty then
    if begun then do put " from"; optionalSpace
    else skip
  else do
    commaIf begun
    inBraces parentEnd names
    optionalSpace
    put "from"
    optionalSpace

theorem putWholeImports_named (begun : Bool) (named : List (String × String)) :
    putWholeImports begun (named.map fun entry => .generatedNamed entry.1 entry.2) =
      pure begun := by
  induction named with
  | nil => rfl
  | cons first rest ih => exact ih

theorem namedImports_importSpecifiers (whole aggregate : Option String)
    (named : List (String × String)) :
    namedImports (importSpecifiers whole aggregate named) = named.map importEntry := by
  have hnamed : namedImports (named.map fun entry => .generatedNamed entry.1 entry.2) =
      named.map importEntry := by
    rw [namedImports, List.filterMap_map, ← List.filterMap_eq_map]
    rfl
  unfold importSpecifiers
  cases whole <;> cases aggregate <;> exact hnamed

theorem putImport_eq (whole aggregate : Option String) (named : List (String × String))
    (source : Quotation) (span : Span) :
    putImport (importSpecifiers whole aggregate named) source span = (do
      put "import"
      spaceIf whole.isSome
      putDefault whole
      putNamespace whole.isSome aggregate
      putNames (whole.isSome || aggregate.isSome) span.hi (named.map importEntry)
      putQuotation source
      put ";") := by
  have hbegins : startsWithDefault (importSpecifiers whole aggregate named) = whole.isSome := by
    cases whole with
    | some target => rfl
    | none => cases aggregate <;> cases named <;> rfl
  have hwhole : putWholeImports false (importSpecifiers whole aggregate named) = (do
      putDefault whole
      putNamespace whole.isSome aggregate
      return whole.isSome || aggregate.isSome) := by
    have hnamed := fun begun => putWholeImports_named begun named
    unfold importSpecifiers
    cases whole <;> cases aggregate <;>
      simp [putWholeImports, hnamed, putDefault, putNamespace, commaIf, skip,
        ImportSpecifier.generatedDefault, ImportSpecifier.generatedAggregate]
  rw [putImport, hbegins, hwhole, namedImports_importSpecifiers]
  simp only [putNames, commaIf, bind_assoc, pure_bind]
  cases (named.map importEntry).isEmpty <;> cases whole.isSome || aggregate.isSome <;> simp [skip]

/-- Of two names that may be left out, the first one is no longer, and left out where the other is.
-/
def NoMore (name other : Option String) : Prop :=
  ∀ target ∈ name, ∃ target' ∈ other, target.utf8ByteSize ≤ target'.utf8ByteSize

theorem NoMore.isSome {name other : Option String} (h : NoMore name other)
    (hsome : name.isSome = true) : other.isSome = true := by
  obtain ⟨target, htarget⟩ := Option.isSome_iff_exists.mp hsome
  obtain ⟨target', htarget', -⟩ := h target htarget
  exact Option.isSome_iff_exists.mpr ⟨target', htarget'⟩

/-- Entries of an import clause that were left out or renamed. -/
abbrev FewerEntries (named named' : List (String × String)) : Prop :=
  List.SublistForall₂ (fun entry entry' => entry.1 = entry'.1 ∧ Renamed entry.1 entry.2 entry'.2)
    named named'

theorem shrinks_when {condition condition' : Bool} {action : Printing Unit}
    (h : condition = true → condition' = true) (haction : Within action action) :
    Shrinks (if condition then action else skip) (if condition' then action else skip) := by
  cases condition with
  | true =>
    rw [h rfl]
    exact haction.shrinks
  | false => exact shrinks_skip (within_ite _ haction within_skip)

theorem within_commaIf (begun : Bool) : Within (commaIf begun) (commaIf begun) :=
  within_ite _ within_comma within_skip

theorem shrinks_commaIf {begun begun' : Bool} (h : begun = true → begun' = true) :
    Shrinks (commaIf begun) (commaIf begun') := shrinks_when h within_comma

theorem within_putNamespace (begun : Bool) (target : Option String) :
    Within (putNamespace begun target) (putNamespace begun target) := by
  cases target with
  | none => exact within_skip
  | some target =>
    exact within_seq (within_commaIf begun) (within_seq (within_same _)
      (within_seq within_optionalSpace (within_seq (within_same _)
        (within_printIdent .bare (Nat.le_refl _)))))

theorem shrinks_putDefault {whole whole' : Option String} (h : NoMore whole whole') :
    Shrinks (putDefault whole) (putDefault whole') := by
  cases whole with
  | none =>
    cases whole' with
    | none => exact within_skip.shrinks
    | some target' => exact shrinks_skip (within_printIdent .bare (Nat.le_refl _))
  | some target =>
    obtain ⟨target', rfl, hsize⟩ := h target rfl
    exact (within_printIdent .bare hsize).shrinks

theorem shrinks_putNamespace {begun begun' : Bool} {aggregate aggregate' : Option String}
    (hbegun : begun = true → begun' = true) (h : NoMore aggregate aggregate') :
    Shrinks (putNamespace begun aggregate) (putNamespace begun' aggregate') := by
  cases aggregate with
  | none => exact shrinks_skip (within_putNamespace begun' aggregate')
  | some target =>
    obtain ⟨target', rfl, hsize⟩ := h target rfl
    have htarget : Within (printIdent (.generated target) .bare)
        (printIdent (.generated target') .bare) := within_printIdent .bare hsize
    exact shrinks_seq (shrinks_commaIf hbegun) (within_seq (within_same _)
      (within_seq within_optionalSpace (within_seq (within_same _) htarget))).shrinks

section

variable {names names' : List (Span × Printing Unit)} (parentEnd parentEnd' : Nat)

theorem within_inBraces_self (hself : ∀ name ∈ names, Within name.2 name.2) :
    Within (inBraces parentEnd names) (inBraces parentEnd names) := by
  simp only [inBraces, ite_seq]
  exact within_seq (within_same _) (within_seq within_optionalSpace
    (within_seq (within_commaList_self parentEnd hself)
      (within_seq (within_ite _ within_optionalSpace within_skip) (within_same _))))

theorem within_putNames_self (begun : Bool) (hself : ∀ name ∈ names, Within name.2 name.2) :
    Within (putNames begun parentEnd names) (putNames begun parentEnd names) :=
  within_ite _ (within_ite _ (within_seq (within_same _) within_optionalSpace) within_skip)
    (within_seq (within_commaIf begun) (within_seq (within_inBraces_self parentEnd hself)
      (within_seq within_optionalSpace (within_seq (within_same _) within_optionalSpace))))

variable (hself : ∀ name ∈ names', Within name.2 name.2)
  (h : List.SublistForall₂ (fun name name' => Shrinks name.2 name'.2) names names')
include hself h

theorem shrinks_inBraces : Shrinks (inBraces parentEnd names) (inBraces parentEnd' names') := by
  have hempty : (!names.isEmpty) = true → (!names'.isEmpty) = true := by
    simpa using ne_nil_of_sublistForall₂ h
  simp only [inBraces, ite_seq]
  exact shrinks_seq (within_same _).shrinks (shrinks_seq within_optionalSpace.shrinks
    (shrinks_seq (shrinks_commaList parentEnd parentEnd' hself h)
      (shrinks_seq (shrinks_when hempty within_optionalSpace) (within_same _).shrinks)))

theorem shrinks_putNames {begun begun' : Bool} (hbegun : begun = true → begun' = true) :
    Shrinks (putNames begun parentEnd names) (putNames begun' parentEnd' names') := by
  have hlead : Within (do put " from"; optionalSpace) (do put " from"; optionalSpace) :=
    within_seq (within_same _) within_optionalSpace
  have hfrom : Within (do optionalSpace; put "from"; optionalSpace)
      (do optionalSpace; put "from"; optionalSpace) :=
    within_seq within_optionalSpace (within_seq (within_same _) within_optionalSpace)
  have hbraces := within_inBraces_self parentEnd' hself
  unfold putNames
  cases names with
  | nil =>
    cases names' with
    | nil => exact shrinks_when hbegun hlead
    | cons first' rest' =>
      cases begun with
      | false =>
        exact shrinks_skip (within_seq (within_commaIf begun') (within_seq hbraces hfrom))
      | true =>
        have hblank := (shrinks_spaceIf_comma true).ahead (within_seq hbraces within_optionalSpace)
        have hrest := shrinks_seq hblank
          (within_seq (within_same "from") within_optionalSpace).shrinks
        have hput : put " from" = (do put " "; put "from") := put_append " " "from"
        rw [hbegun rfl]
        simp only [List.isEmpty_nil, if_true, hput, bind_assoc] at hrest ⊢
        exact hrest
  | cons first rest =>
    cases names' with
    | nil => exact absurd rfl (ne_nil_of_sublistForall₂ h (List.cons_ne_nil first rest))
    | cons first' rest' =>
      exact shrinks_seq (shrinks_commaIf hbegun)
        (shrinks_seq (shrinks_inBraces parentEnd parentEnd' hself h) hfrom.shrinks)

end

theorem shrinks_putImport {whole whole' aggregate aggregate' : Option String}
    {named named' : List (String × String)} (source : Quotation) (span span' : Span)
    (hwhole : NoMore whole whole') (haggregate : NoMore aggregate aggregate')
    (hnamed : FewerEntries named named') :
    Shrinks (putImport (importSpecifiers whole aggregate named) source span)
      (putImport (importSpecifiers whole' aggregate' named') source span') := by
  have hnames : List.SublistForall₂ (fun name name' => Shrinks name.2 name'.2)
      (named.map importEntry) (named'.map importEntry) := by
    rw [List.sublistForall₂_map_left_iff, List.sublistForall₂_map_right_iff]
    refine sublistForall₂_imp (fun entry entry' hentry => ?_) hnamed
    obtain ⟨imported, target⟩ := entry
    obtain ⟨imported', target'⟩ := entry'
    obtain ⟨rfl, hrenamed⟩ := hentry
    exact shrinks_importEntry hrenamed
  have hbegun : (whole.isSome || aggregate.isSome) = true →
      (whole'.isSome || aggregate'.isSome) = true := by
    rw [Bool.or_eq_true, Bool.or_eq_true]
    exact Or.imp hwhole.isSome haggregate.isSome
  rw [putImport_eq, putImport_eq]
  exact shrinks_seq (within_same _).shrinks (shrinks_seq (shrinks_spaceIf hwhole.isSome)
    (shrinks_seq (shrinks_putDefault hwhole)
      (shrinks_seq (shrinks_putNamespace hwhole.isSome haggregate)
        (shrinks_seq (shrinks_putNames span.hi span'.hi (within_importEntries named') hnames hbegun)
          (within_seq (within_putQuotation source) (within_same _)).shrinks))))

end Printing

/-! ## Items -/

namespace Printing

theorem within_putWholeImports (begun : Bool) (specifiers : List ImportSpecifier) :
    Within (putWholeImports begun specifiers) (putWholeImports begun specifiers) := by
  induction specifiers generalizing begun with
  | nil => exact within_pure begun
  | cons first rest ih =>
    cases first with
    | default target span => exact within_seq (within_printIdent .bare (Nat.le_refl _)) (ih true)
    | aggregate target span =>
      simp only [putWholeImports, ite_seq]
      exact within_seq (within_ite _ within_comma within_skip) (within_seq (within_same _)
        (within_seq within_optionalSpace (within_seq (within_same _)
          (within_seq (within_printIdent .bare (Nat.le_refl _)) (ih true)))))
    | named target imported span => exact ih begun

theorem within_putAggregateExports (begun : Bool) (specifiers : List ExportSpecifier) :
    Within (putAggregateExports begun specifiers) (putAggregateExports begun specifiers) := by
  induction specifiers generalizing begun with
  | nil => exact within_pure begun
  | cons first rest ih =>
    cases first with
    | aggregate exported span =>
      exact within_seq (within_leading _ _) (within_seq (within_same _)
        (within_seq within_optionalSpace (within_seq (within_same _)
          (within_seq (within_putOuterName exported) (ih true)))))
    | named origin exported span => exact ih begun

theorem within_namedImports (specifiers : List ImportSpecifier) :
    ∀ name ∈ namedImports specifiers, Within name.2 name.2 := by
  intro name hname
  obtain ⟨specifier, -, hname⟩ := List.mem_filterMap.mp hname
  cases specifier with
  | named target imported span => exact Option.some.inj hname ▸ within_putNamedImport _ _ _
  | _ => exact absurd hname nofun

theorem within_namedExports (specifiers : List ExportSpecifier) :
    ∀ name ∈ namedExports specifiers, Within name.2 name.2 := by
  intro name hname
  obtain ⟨specifier, -, hname⟩ := List.mem_filterMap.mp hname
  cases specifier with
  | named origin exported span => exact Option.some.inj hname ▸ within_putNamedExport _ _ _
  | _ => exact absurd hname nofun

theorem within_putImport (specifiers : List ImportSpecifier) (source : Quotation) (span : Span) :
    Within (putImport specifiers source span) (putImport specifiers source span) := by
  have hsource := within_seq (within_putQuotation source) (within_same ";")
  have hbraces := within_seq (within_inBraces_self span.hi (within_namedImports specifiers))
    (within_seq within_optionalSpace (within_seq (within_same "from")
      (within_seq within_optionalSpace hsource)))
  refine within_seq (within_same _) (within_seq (within_spaceIf _)
    (within_bind (within_putWholeImports _ _) fun begun => ?_))
  exact within_ite _
    (within_ite _ (within_seq (within_same _) (within_seq within_optionalSpace hsource)) hsource)
    (within_ite _ (within_seq within_comma hbraces) hbraces)

theorem within_putExportClause (specifiers : List ExportSpecifier) (span : Span) :
    Within (putExportClause specifiers span) (putExportClause specifiers span) := by
  have hbraces := within_inBraces_self span.hi (within_namedExports specifiers)
  refine within_seq (within_same _) (within_seq within_optionalSpace
    (within_bind (within_putAggregateExports _ _) fun begun => ?_))
  have hend := within_seq hbraces (within_pure ((namedExports specifiers).isEmpty && begun))
  exact within_ite _ (within_ite _ (within_seq within_comma hend) hend) (within_pure _)

theorem within_putDeclaration (item : Item) :
    Within (putDeclaration item) (putDeclaration item) := by
  cases item with
  | statement tree => exact within_skip
  | importFrom specifiers source span => exact within_putImport specifiers source span
  | exportDecl decl span => exact within_seq (within_same _) (within_printTree_self decl .full)
  | exportList specifiers span =>
    exact within_bind (within_putExportClause specifiers span) fun _ => within_same _
  | exportFrom specifiers source span =>
    exact within_bind (within_putExportClause specifiers span) fun _ =>
      within_seq (within_spaceIf _) (within_seq (within_same _) (within_seq within_optionalSpace
        (within_seq (within_putQuotation source) (within_same _))))
  | exportStar source span =>
    exact within_seq (within_same _) (within_seq within_optionalSpace (within_seq (within_same _)
      (within_seq within_optionalSpace (within_seq (within_same _) (within_seq within_optionalSpace
        (within_seq (within_putQuotation source) (within_same _)))))))
  | exportDefaultDecl decl span =>
    exact within_seq (within_same _) (within_printTree_self decl .full)
  | exportDefault value span =>
    exact within_seq (within_same _) (within_seq (within_spaceIf _)
      (within_seq (within_printTree_self value .full) (within_same _)))

end Printing

theorem within_printItem (item : Item) : Within (printItem item) (printItem item) := by
  have hitem : Within
      (do leading item.span.lo; putDeclaration item; trailing item.span.hi; optionalBreak)
      (do leading item.span.lo; putDeclaration item; trailing item.span.hi; optionalBreak) :=
    within_seq (within_leading _ _) (within_seq (within_putDeclaration item)
      (within_seq (within_trailing _ _) within_optionalBreak))
  cases item with
  | statement tree =>
    exact within_seq (within_leading _ _) (within_seq (within_printTree_self tree .full)
      (within_trailing _ _))
  | _ => exact hitem

/-- The statements that import some names of an external. A namespace cannot share a statement with
single names. -/
def importStatements (source : String) (whole aggregate : Option String)
    (named : List (String × String)) : List Item :=
  if aggregate.isNone || named.isEmpty then
    [importItem source (importSpecifiers whole aggregate named)]
  else
    [importItem source (importSpecifiers whole none named),
      importItem source (importSpecifiers none aggregate [])]

section

variable (source : String) (whole : Option String)

theorem importStatements_none (named : List (String × String)) :
    importStatements source whole none named =
      [importItem source (importSpecifiers whole none named)] := rfl

theorem importStatements_nil (aggregate : Option String) :
    importStatements source whole aggregate [] =
      [importItem source (importSpecifiers whole aggregate [])] := by
  rw [importStatements, if_pos (by simp)]

theorem importStatements_both (target : String) {named : List (String × String)}
    (h : named ≠ []) : importStatements source whole (some target) named =
      [importItem source (importSpecifiers whole none named),
        importItem source (importSpecifiers none (some target) [])] := by
  rw [importStatements, if_neg (by simpa using h)]

end

theorem noMore_none (other : Option String) : NoMore none other := nofun

section

variable (source : String) {whole whole' aggregate aggregate' : Option String}
  {named named' : List (String × String)} (hwhole : NoMore whole whole')
  (haggregate : NoMore aggregate aggregate') (hnamed : FewerEntries named named')

include hwhole haggregate hnamed in
theorem shrinks_importItem :
    Shrinks (printItem (importItem source (importSpecifiers whole aggregate named)))
      (printItem (importItem source (importSpecifiers whole' aggregate' named'))) :=
  shrinks_seq (within_leading _ _).shrinks
    (shrinks_seq (shrinks_putImport _ _ _ hwhole haggregate hnamed)
      (within_seq (within_trailing _ _) within_optionalBreak).shrinks)

/-- What stands between the names of a statement and the namespace of the next one takes no less
than a comma. -/
theorem shrinks_commaIf_statement (begun : Bool) :
    Shrinks (commaIf begun) (do
      put ";"
      trailing Span.generated.hi
      optionalBreak
      leading Span.generated.lo
      put "import"
      spaceIf false) := by
  cases begun with
  | false =>
    exact shrinks_skip (within_seq (within_same _) (within_seq (within_trailing _ _)
      (within_seq within_optionalBreak (within_seq (within_leading _ _)
        (within_seq (within_same _) (within_spaceIf _))))))
  | true =>
    have hcomma : Within (put ",") (put ";") := within_put (Nat.le_refl 1)
    exact shrinks_seq hcomma.shrinks ((((within_optionalSpace.shrinks.behind
      (within_same "import")).behind (within_leading _ _)).behind within_optionalBreak).behind
        (within_trailing _ _))

include hwhole in
theorem shrinks_joined {target target' : String}
    (hsize : target.utf8ByteSize ≤ target'.utf8ByteSize) (named : List (String × String)) :
    Shrinks (printItem (importItem source (importSpecifiers whole (some target) [])))
      (do
        printItem (importItem source (importSpecifiers whole' none named))
        printItem (importItem source (importSpecifiers none (some target') []))) := by
  have htarget : Within (printIdent (.generated target) .bare)
      (printIdent (.generated target') .bare) := within_printIdent .bare hsize
  have hprint : ∀ specifiers, printItem (importItem source specifiers) = (do
      leading Span.generated.lo
      putImport specifiers (.generated source) .generated
      trailing Span.generated.hi
      optionalBreak) := fun _ => rfl
  rw [hprint, hprint, hprint, putImport_eq, putImport_eq, putImport_eq]
  simp only [bind_assoc]
  refine shrinks_seq (within_leading _ _).shrinks (shrinks_seq (within_same _).shrinks
    (shrinks_seq (shrinks_spaceIf hwhole.isSome) (shrinks_seq (shrinks_putDefault hwhole) ?_)))
  have hcomma := (((shrinks_commaIf_statement whole.isSome).behind
    (within_putQuotation (.generated source))).behind (within_putNames_self Span.generated.hi
      (whole'.isSome || false) (within_importEntries named))).behind
        (within_putNamespace whole'.isSome none)
  have hend := within_seq (within_same "*") (within_seq within_optionalSpace
    (within_seq (within_same "as ") (within_seq htarget
      (within_seq (within_putNames_self Span.generated.hi true (within_importEntries []))
        (within_seq (within_putQuotation (.generated source)) (within_seq (within_same ";")
          (within_seq (within_trailing Span.generated.hi Span.generated.hi)
            within_optionalBreak)))))))
  have hrest := shrinks_seq hcomma hend.shrinks
  simp only [bind_assoc] at hrest
  rw [Option.isSome_some, Bool.or_true]
  exact hrest

include hwhole haggregate hnamed in
/-- Fewer names take no more text, also where the namespace moves to the statement of a default. -/
theorem shrinks_importStatements :
    Shrinks ((importStatements source whole aggregate named).forM printItem)
      ((importStatements source whole' aggregate' named').forM printItem) := by
  have hone := shrinks_importItem source hwhole haggregate hnamed
  cases aggregate with
  | none =>
    rw [importStatements_none]
    cases aggregate' with
    | none => exact shrinks_seq hone within_skip.shrinks
    | some target' =>
      by_cases hnone' : named' = []
      · subst hnone'
        rw [importStatements_nil]
        exact shrinks_seq hone within_skip.shrinks
      · rw [importStatements_both source whole' target' hnone']
        have hfirst := shrinks_importItem source hwhole (noMore_none none) hnamed
        exact shrinks_seq hfirst (shrinks_skip (within_seq (within_printItem _) within_skip))
  | some target =>
    obtain ⟨target', rfl, hsize⟩ := haggregate target rfl
    by_cases hnone : named = []
    · subst hnone
      rw [importStatements_nil]
      by_cases hnone' : named' = []
      · subst hnone'
        rw [importStatements_nil]
        exact shrinks_seq hone within_skip.shrinks
      · rw [importStatements_both source whole' target' hnone']
        have hjoined := shrinks_seq (shrinks_joined source hwhole hsize named') within_skip.shrinks
        simp only [bind_assoc] at hjoined
        exact hjoined
    · rw [importStatements_both source whole target hnone,
        importStatements_both source whole' target' (ne_nil_of_sublistForall₂ hnamed hnone)]
      have hfirst := shrinks_importItem source hwhole (noMore_none none) hnamed
      have hsecond := shrinks_importItem source (noMore_none none) haggregate
        (List.SublistForall₂.nil : FewerEntries [] [])
      exact shrinks_seq hfirst (shrinks_seq hsecond within_skip.shrinks)

end

/-! ## Export lists -/

namespace Printing

def exportEntry (entry : String × String) : Span × Printing Unit :=
  (.generated, putNamedExport (.ident (.generated entry.1))
    (if entry.1 == entry.2 then none else some (.generated entry.2)) .generated)

theorem shrinks_exportEntry {exported origin origin' : String}
    (h : Renamed exported origin origin') :
    Shrinks (exportEntry (origin, exported)).2 (exportEntry (origin', exported)).2 := by
  have horigin : Within (printIdent (.generated origin) .bare)
      (printIdent (.generated origin') .bare) := within_printIdent .bare h.size
  unfold exportEntry
  by_cases hplain' : origin' = exported
  · have hplain := h.plain hplain'
    simp only [hplain, hplain', beq_self_eq_true, if_true]
    exact (within_putNamedExport _ _ _).shrinks
  · have hright : (origin' == exported) = false := by simpa using hplain'
    simp only [hright, Bool.false_eq_true, if_false]
    split
    · exact shrinks_seq (within_leading _ _).shrinks (shrinks_seq horigin.shrinks
        (shrinks_skip (within_seq (within_same _) (within_putOuterName _))))
    · exact (within_seq (within_leading _ _) (within_seq horigin
        (within_seq (within_same _) (within_putOuterName _)))).shrinks

def exportSpecifiers (entries : List (String × String)) : List ExportSpecifier :=
  entries.map fun entry =>
    .named (.ident (.generated entry.1))
      (if entry.1 == entry.2 then none else some (.generated entry.2)) .generated

theorem putExportClause_eq (entries : List (String × String)) (span : Span) :
    putExportClause (exportSpecifiers entries) span = (do
      put "export"
      optionalSpace
      inBraces span.hi (entries.map exportEntry)
      return false) := by
  have haggregate : putAggregateExports false (exportSpecifiers entries) = pure false := by
    induction entries with
    | nil => rfl
    | cons first rest ih => exact ih
  have hnamed : namedExports (exportSpecifiers entries) = entries.map exportEntry := by
    rw [namedExports, exportSpecifiers, List.filterMap_map, ← List.filterMap_eq_map]
    rfl
  rw [putExportClause, haggregate, hnamed]
  simp

end Printing

/-- Exported names that stand for something with a name that is no longer. -/
abbrev ShorterOrigins (entries entries' : List (String × String)) : Prop :=
  List.Forall₂ (fun entry entry' => entry.2 = entry'.2 ∧ Renamed entry.2 entry.1 entry'.1)
    entries entries'

theorem shrinks_exportItem {entries entries' : List (String × String)}
    (h : ShorterOrigins entries entries') :
    Shrinks (printItem (exportItem entries)) (printItem (exportItem entries')) := by
  have hself : ∀ name ∈ entries'.map exportEntry, Within name.2 name.2 := by
    intro name hname
    obtain ⟨entry, -, rfl⟩ := List.mem_map.mp hname
    exact within_putNamedExport _ _ _
  have hnames : List.SublistForall₂ (fun name name' => Shrinks name.2 name'.2)
      (entries.map exportEntry) (entries'.map exportEntry) := by
    refine List.sublistForall₂_iff.mpr ⟨_, ?_, List.Sublist.refl _⟩
    rw [List.forall₂_map_left_iff, List.forall₂_map_right_iff]
    refine h.imp fun entry entry' hentry => ?_
    obtain ⟨origin, exported⟩ := entry
    obtain ⟨origin', exported'⟩ := entry'
    obtain ⟨rfl, hrenamed⟩ := hentry
    exact shrinks_exportEntry hrenamed
  have hclause : ∀ entries, printItem (exportItem entries) = (do
      leading Span.generated.lo
      put "export"
      optionalSpace
      inBraces Span.generated.hi (entries.map exportEntry)
      put ";"
      trailing Span.generated.hi
      optionalBreak) := by
    intro entries
    have hprint : printItem (exportItem entries) = (do
        leading Span.generated.lo
        let _ ← putExportClause (exportSpecifiers entries) .generated
        put ";"
        trailing Span.generated.hi
        optionalBreak) := rfl
    rw [hprint, putExportClause_eq]
    simp only [bind_assoc, pure_bind]
  rw [hclause, hclause]
  exact shrinks_seq (within_leading _ _).shrinks (shrinks_seq (within_same _).shrinks
    (shrinks_seq within_optionalSpace.shrinks (shrinks_seq (shrinks_inBraces _ _ hself hnames)
      (within_seq (within_same _)
        (within_seq (within_trailing _ _) within_optionalBreak)).shrinks)))

end ScopeHoist
