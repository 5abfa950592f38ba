import Mathlib.Data.List.Pairwise
import ScopeHoist.Proofs.Fusion

/-!
# What remains of a module

A module of a linked session has the program that it was built with, less the declarations of some
names. In a lawful program, where no name stands for two things, whatever is still read has kept its
declaration, and a default without a name is still declared.
-/

set_option autoImplicit false

namespace ScopeHoist

/-- A program in which no name stands for two things, and whose scopes tell what is declared at the
top level. -/
structure Program.Lawful (program : Program) : Prop where
  imports_once : program.importedNames.Nodup
  imports_apart : ∀ declaration ∈ program.declarations, declaration.name ∉ program.importedNames
  default_once : program.DefaultsOnce
  outermost : ∀ occurrence ∈ program.occurrences, occurrence.declaration?.isSome = true →
    occurrence.ident.identity ∈ program.topLevel.map Ident.identity
  default_declared : ∀ item ∈ program.items, item.isDefault = true →
    ∀ id ∈ item.topLevel, id.scope = .module

instance (program : Program) : Decidable program.DefaultsOnce :=
  inferInstanceAs (Decidable (List.Pairwise _ _))

instance (program : Program) : Decidable program.Lawful :=
  decidable_of_iff
    (program.importedNames.Nodup ∧
      (∀ declaration ∈ program.declarations, declaration.name ∉ program.importedNames) ∧
      program.DefaultsOnce ∧
      (∀ occurrence ∈ program.occurrences, occurrence.declaration?.isSome = true →
        occurrence.ident.identity ∈ program.topLevel.map Ident.identity) ∧
      ∀ item ∈ program.items, item.isDefault = true → ∀ id ∈ item.topLevel, id.scope = .module)
    ⟨fun ⟨once, apart, default, outer, declared⟩ => ⟨once, apart, default, outer, declared⟩,
      fun h => ⟨h.imports_once, h.imports_apart, h.default_once, h.outermost, h.default_declared⟩⟩

/-! ## Items that remain -/

theorem Program.relieved_exportDefault (unused : List Identity) (program : Program) (value : Tree)
    (span : Span) :
    .exportDefault value span ∈ (program.relieved unused).items ↔
      .exportDefault value span ∈ program.items := by
  unfold Program.relieved
  split
  · rfl
  · refine ⟨fun h => ?_, fun h => List.mem_filterMap.mpr ⟨_, h, rfl⟩⟩
    obtain ⟨item, hitem, hrest⟩ := List.mem_filterMap.mp h
    cases item with
    | exportDefault value' span' => exact Option.some.inj hrest ▸ hitem
    | _ => simp [Item.withoutIdle] at hrest

theorem Program.relieved_exportDefaultDecl (unused : List Identity) (program : Program)
    (decl : Tree) (span : Span) (h : .exportDefaultDecl decl span ∈ program.items)
    (hkept : decl.isIdleSole unused = false) :
    .exportDefaultDecl decl span ∈ (program.relieved unused).items := by
  unfold Program.relieved
  split
  · exact h
  · exact List.mem_filterMap.mpr ⟨_, h, by simp [Item.withoutIdle, hkept]⟩

theorem Program.DefaultsOnce.eq {program : Program} (h : program.DefaultsOnce) (first second : Item)
    (hfirst : first ∈ program.items) (hsecond : second ∈ program.items)
    (hdefault : first.isDefault = true) (hdefault' : second.isDefault = true) : first = second := by
  by_contra hne
  have : Std.Symm fun first second : Item => ¬ (first.isDefault = true ∧ second.isDefault = true) :=
    ⟨fun _ _ hnot hboth => hnot hboth.symm⟩
  exact List.Pairwise.forall h hfirst hsecond hne ⟨hdefault, hdefault'⟩

theorem mem_of_firstDeclarations (declarations : List Declaration) (declaration : Declaration)
    (h : declaration ∈ firstDeclarations declarations) : declaration ∈ declarations := by
  induction declarations with
  | nil => exact h
  | cons first rest ih =>
    rcases List.mem_cons.mp h with rfl | h
    · exact List.mem_cons_self
    · exact List.mem_cons_of_mem _ (ih (List.mem_filter.mp h).1)

theorem Program.Lawful.topLevel_of_declaration {program : Program} (h : program.Lawful)
    (declaration : Declaration) (hdeclaration : declaration ∈ program.declarations) :
    ∃ ident ∈ program.topLevel, ident.identity = ⟨declaration.name, .module⟩ := by
  obtain ⟨occurrence, hoccurrence, heq⟩ :=
    List.mem_filterMap.mp (mem_of_firstDeclarations _ _ hdeclaration)
  obtain ⟨ident, hident, hsame⟩ := List.mem_map.mp
    (h.outermost occurrence hoccurrence (heq ▸ rfl))
  refine ⟨ident, hident, hsame.trans ?_⟩
  unfold Occurrence.declaration? at heq
  split at heq
  · split at heq
    · rename_i hscope
      obtain rfl := Option.some.inj heq
      rw [Ident.identity, beq_iff_eq.mp hscope]
    · exact absurd heq nofun
  · exact absurd heq nofun

theorem Program.relieved_importedNames (unused : List Identity) (program : Program) (rest : Item)
    (h : rest ∈ (program.relieved unused).items) :
    ∀ name ∈ rest.importedNames, name ∈ program.importedNames := by
  intro name hname
  obtain ⟨item, hitem, -, heq⟩ := program.relieved_item unused rest h
  refine List.mem_flatMap.mpr ⟨item, hitem, ?_⟩
  rcases heq with rfl | hrest
  · exact hname
  · cases item with
    | statement tree | exportDecl decl span =>
      obtain ⟨_, -, rfl⟩ := Option.map_eq_some_iff.mp hrest
      exact hname
    | exportDefaultDecl decl span =>
      obtain ⟨-, hkept⟩ := Option.ite_none_left_eq_some.mp hrest
      exact Option.some.inj hkept ▸ hname
    | _ => exact Option.some.inj hrest ▸ hname

theorem declaredIdents_of_sole (decl : Tree) (identity : Identity)
    (h : soleIdentity? decl = some identity) :
    ∃ id, (declaredIdents decl).head? = some id ∧ id.identity = identity := by
  unfold soleIdentity? at h
  split at h
  all_goals first
    | exact ⟨_, rfl, Option.some.inj h⟩
    | exact absurd h nofun

namespace Session

/-- What a module of a linked session is of the same module as it was built. -/
structure LeftOf (built linked : Session) (module : ModuleId) (unused : List Identity) : Prop where
  valid : module < built.modules.length
  program : (linked.module module).program = (built.module module).program.relieved unused
  bindings : (linked.module module).bindings = (built.module module).bindings
  imports : (linked.module module).imports = (built.module module).imports
  unnamedDefault : (linked.module module).unnamedDefault = (built.module module).unnamedDefault
  identity : ∀ id : BindingId, (linked.bindings[id]?).map Binding.identity =
    (built.bindings[id]?).map Binding.identity
  removed : ∀ id ∈ (built.module module).bindings, ∀ found, linked.bindings[id]? = some found →
    (found.removed = true ↔
      found.identity ∈ (built.module module).program.idleIdentities unused)
  idle : ∀ id ∈ (built.module module).bindings, ∀ found, built.bindings[id]? = some found →
    found.identity ∈ (built.module module).program.idleIdentities unused →
      found.usage.localReferences = 0
  unused : ∀ identity ∈ unused, ∃ id ∈ (built.module module).bindings,
    (built.bindings[id]?).map Binding.identity = some identity

theorem Linked.leftOf {built linked : Session} {order : List ModuleId}
    (h : built.Linked linked order) (module : ModuleId) (hmodule : module < linked.modules.length) :
    ∃ unused, built.LeftOf linked module unused := by
  obtain ⟨gone, dropped, used, shaken, hjust, hshaken, hrespelled⟩ := h.shaken
  have hvalid : module < built.modules.length := by
    rw [← hshaken.length, ← hrespelled.modules]
    exact hmodule
  have hidentity : ∀ id : BindingId, (linked.bindings[id]?).map Binding.identity =
      (built.bindings[id]?).map Binding.identity := fun id => by
    rw [hrespelled.identity, hshaken.identity]
  refine ⟨built.idleIdentities gone (built.module module), hvalid, ?_, ?_, ?_, ?_, hidentity,
    fun id hid found hfound => ?_, fun id hid found hfound hlost => ?_, fun identity hunused => ?_⟩
  · rw [hrespelled.module, hshaken.program_eq module hvalid]
  · rw [hrespelled.module, hshaken.bindings_eq module hvalid]
  · rw [hrespelled.module, hshaken.imports_eq module hvalid]
  · rw [hrespelled.module, hshaken.unnamedDefault_eq module hvalid]
  · obtain ⟨declaration, -, hbuilt⟩ := (h.sound.modules module hvalid).bindings_valid id hid
    have hshaken_eq := hshaken.binding_eq h.sound module hvalid id hid _ hbuilt
    obtain ⟨name, hlinked⟩ := hrespelled.exists_binding id _ hshaken_eq
    rw [hfound] at hlinked
    obtain rfl := Option.some.inj hlinked
    simp only [decide_eq_true_eq]
    rfl
  · exact removed_localReferences hjust h.sound module hvalid id hid found hfound hlost
  · obtain ⟨id, hid, hsome⟩ := List.mem_filterMap.mp hunused
    exact ⟨id, (List.mem_filter.mp hid).1, hsome⟩

/-! ## What is read -/

/-- Whether an occurrence stands in a statement that the program takes over from a module. -/
def Occurs (session : Session) (module : Module) (occurrence : Occurrence) : Prop :=
  ∃ kept ∈ session.keptItems module, occurrence ∈ kept.occurrences

section

variable {built linked : Session} {order : List ModuleId} {module : ModuleId}
  {unused : List Identity}

/-- A top-level name that the program reads is used in the module, or it is its default. -/
theorem LeftOf.used (h : built.LeftOf linked module unused) (occurrence : Occurrence)
    (hoccurs : linked.Occurs (linked.module module) occurrence)
    (hscope : occurrence.ident.scope = .module)
    (hrole : ∀ kind, occurrence.role ≠ .declares kind) :
    0 < (usageOf (built.module module).program.uses occurrence.ident.name).localReferences ∨
      ((built.module module).unnamedDefault ≠ none ∧
        ∃ span, .exportDefault (.ident occurrence.ident) span ∈
          (built.module module).program.items) := by
  obtain ⟨kept, hkept, hmem⟩ := hoccurs
  obtain ⟨item, hitem, hhoisted⟩ := List.mem_filterMap.mp hkept
  rw [h.program] at hitem
  rcases item.hoisted_occurrences _ kept hhoisted occurrence hmem with
    (hmem | ⟨id, span, rfl, rfl⟩) | ⟨name, rfl⟩
  · obtain ⟨source, hsource, hsub, -⟩ := Program.relieved_item _ _ item hitem
    exact .inl
      (localReferences_pos_of_occurrence _ source hsource occurrence (hsub hmem) hscope hrole)
  · refine .inr ⟨fun hnone => ?_, span, (Program.relieved_exportDefault _ _ _ _).mp hitem⟩
    rw [← h.unnamedDefault] at hnone
    rw [hnone] at hhoisted
    exact absurd hhoisted nofun
  · exact absurd hscope nofun

theorem LeftOf.leavesUnnamed (h : built.LeftOf linked module unused) (hsound : built.Sound)
    (hlawful : (built.module module).program.Lawful)
    (hdefault : (built.module module).unnamedDefault ≠ none) (item : Item)
    (hitem : item ∈ (built.module module).program.items) (hkind : item.isDefault = true) :
    built.LeavesUnnamed (built.module module) item := by
  obtain ⟨other, hother, hleaves⟩ := (hsound.modules module h.valid).leaves hdefault
  have hother_kind : other.isDefault = true := by
    cases other with
    | exportDefaultDecl decl span | exportDefault value span => rfl
    | _ => exact absurd hleaves id
  exact hlawful.default_once.eq other item hother hitem hother_kind hkind ▸ hleaves

theorem LeftOf.built_binding (h : built.LeftOf linked module unused) (hsound : built.Sound)
    (id : BindingId) (hid : id ∈ (built.module module).bindings) (found : Binding)
    (hfound : linked.bindings[id]? = some found) :
    ∃ earlier, built.bindings[id]? = some earlier ∧ earlier.identity = found.identity ∧
      earlier.usage = usageOf (built.module module).program.uses found.declaration.name ∧
      ∃ declaration ∈ (built.module module).program.declarations,
        declaration.name = found.declaration.name := by
  have hidentity := h.identity id
  rw [hfound] at hidentity
  obtain ⟨earlier, hearlier, hsame⟩ := Option.map_eq_some_iff.mp hidentity.symm
  obtain ⟨declaration, hdeclaration, rfl⟩ :=
    (hsound.modules module h.valid).isBinding id hid earlier hearlier
  have hname : declaration.name = found.declaration.name := congrArg Identity.name hsame
  exact ⟨_, hearlier, hsame, by rw [← hname], declaration, hdeclaration, hname⟩

theorem LeftOf.kept_of_used (h : built.LeftOf linked module unused) (hsound : built.Sound)
    (id : BindingId) (hid : id ∈ (built.module module).bindings) (found : Binding)
    (hfound : linked.bindings[id]? = some found)
    (hused : 0 < (usageOf (built.module module).program.uses
      found.declaration.name).localReferences) : found.removed = false := by
  obtain ⟨earlier, hearlier, hsame, husage, -⟩ := h.built_binding hsound id hid found hfound
  cases hremoved : found.removed with
  | false => rfl
  | true =>
    have hlost := (h.removed id hid found hfound).mp hremoved
    have hidle := h.idle id hid earlier hearlier (hsame ▸ hlost)
    rw [husage] at hidle
    exact absurd hidle (Nat.pos_iff_ne_zero.mp hused)

theorem bindingOf?_isSome (session : Session) (module : Module) (ident : Ident) (id : BindingId)
    (hid : id ∈ module.bindings) (found : Binding) (hfound : session.bindings[id]? = some found)
    (hsame : found.identity = ident.identity) :
    ∃ other, module.bindingOf? session ident = some other := by
  refine Option.isSome_iff_exists.mp (List.find?_isSome.mpr ⟨id, hid, ?_⟩)
  simp [hfound, hsame]

theorem LeftOf.kept_of_read (h : built.LeftOf linked module unused) (hsound : built.Sound)
    (hlawful : (built.module module).program.Lawful) (occurrence : Occurrence)
    (hoccurs : linked.Occurs (linked.module module) occurrence)
    (hrole : ∀ kind, occurrence.role ≠ .declares kind) (id : BindingId)
    (hid : id ∈ (built.module module).bindings) (found : Binding)
    (hfound : linked.bindings[id]? = some found)
    (hsame : found.identity = occurrence.ident.identity) : found.removed = false := by
  have hscope : occurrence.ident.scope = .module := (congrArg Identity.scope hsame).symm
  have hname : found.declaration.name = occurrence.ident.name := congrArg Identity.name hsame
  refine h.kept_of_used hsound id hid found hfound (hname ▸ ?_)
  rcases h.used occurrence hoccurs hscope hrole with hused | ⟨hdefault, span, hitem⟩
  · exact hused
  · have hleaves := h.leavesUnnamed hsound hlawful hdefault _ hitem rfl
    obtain ⟨earlier, hearlier, hsame', -⟩ := h.built_binding hsound id hid found hfound
    obtain ⟨other, hother⟩ := built.bindingOf?_isSome _ occurrence.ident id hid earlier hearlier
      (hsame'.trans hsame)
    obtain ⟨found', hfound', hassigned⟩ := hleaves.1 other hother
    obtain ⟨hmember, found'', hfound'', hidentity⟩ := bindingOf?_spec _ _ _ _ hother
    rw [hfound'] at hfound''
    obtain rfl := Option.some.inj hfound''
    obtain ⟨declaration, -, rfl⟩ :=
      (hsound.modules module h.valid).isBinding other hmember found' hfound'
    have hdeclared : declaration.name = occurrence.ident.name := congrArg Identity.name hidentity
    rw [← hdeclared]
    exact localReferences_pos_of_reassigned _ _ hassigned

theorem LeftOf.import_apart (hsound : built.Sound) (h : built.LeftOf linked module unused)
    (binding : ImportBinding) (hbinding : binding ∈ (built.module module).imports) :
    binding.name ∈ (built.module module).program.importedNames :=
  (hsound.modules module h.valid).imported.subset (List.mem_map_of_mem hbinding)

theorem LeftOf.not_declared (h : built.LeftOf linked module unused) (hsound : built.Sound)
    (hlawful : (built.module module).program.Lawful) (binding : ImportBinding)
    (hbinding : binding ∈ (built.module module).imports) (id : BindingId)
    (hid : id ∈ (built.module module).bindings) (found : Binding)
    (hfound : built.bindings[id]? = some found) : found.identity ≠ binding.identity := by
  intro hsame
  obtain ⟨declaration, hdeclaration, rfl⟩ :=
    (hsound.modules module h.valid).isBinding id hid found hfound
  refine hlawful.imports_apart declaration hdeclaration ?_
  rw [show declaration.name = binding.name from congrArg Identity.name hsame]
  exact h.import_apart hsound binding hbinding

theorem LeftOf.import_unique (h : built.LeftOf linked module unused) (hsound : built.Sound)
    (hlawful : (built.module module).program.Lawful) (first second : ImportBinding)
    (hfirst : first ∈ (built.module module).imports)
    (hsecond : second ∈ (built.module module).imports) (hsame : first.name = second.name) :
    first = second :=
  List.inj_on_of_nodup_map ((hsound.modules module h.valid).imported.nodup hlawful.imports_once)
    hfirst hsecond hsame

theorem LeftOf.declaration_of_occurs (h : built.LeftOf linked module unused)
    (occurrence : Occurrence) (hoccurs : linked.Occurs (linked.module module) occurrence)
    (hscope : occurrence.ident.scope = .module) (kind : BindingKind)
    (hrole : occurrence.role = .declares kind) :
    ∃ declaration ∈ (built.module module).program.declarations,
      declaration.name = occurrence.ident.name := by
  obtain ⟨kept, hkept, hmem⟩ := hoccurs
  obtain ⟨item, hitem, hhoisted⟩ := List.mem_filterMap.mp hkept
  rw [h.program] at hitem
  rcases item.hoisted_occurrences _ kept hhoisted occurrence hmem with
    (hmem | ⟨id, span, rfl, rfl⟩) | ⟨name, rfl⟩
  · obtain ⟨source, hsource, hsub, -⟩ := Program.relieved_item _ _ item hitem
    exact Program.exists_declaration _ occurrence
      (List.mem_flatMap.mpr ⟨source, hsource, hsub hmem⟩) kind hrole hscope
  · exact absurd hrole nofun
  · exact absurd hscope nofun

theorem LeftOf.live_of_read (h : built.LeftOf linked module unused) (hsound : built.Sound)
    (hlawful : (built.module module).program.Lawful) (occurrence : Occurrence)
    (hoccurs : linked.Occurs (linked.module module) occurrence) (binding : ImportBinding)
    (hbinding : binding ∈ (built.module module).imports) (record : RecordId)
    (hresolved : binding.resolved = some record)
    (hsame : binding.identity = occurrence.ident.identity) : 0 < binding.references := by
  have hscope : occurrence.ident.scope = .module := (congrArg Identity.scope hsame).symm
  have hname : binding.name = occurrence.ident.name := congrArg Identity.name hsame
  have hmodule := hsound.modules module h.valid
  rw [(hmodule.imports binding hbinding).references, hmodule.uses_eq, hname]
  have hrole : ∀ kind, occurrence.role ≠ .declares kind := by
    intro kind hkind
    obtain ⟨declaration, hdeclaration, heq⟩ :=
      h.declaration_of_occurs occurrence hoccurs hscope kind hkind
    refine hlawful.imports_apart declaration hdeclaration ?_
    rw [heq, ← hname]
    exact h.import_apart hsound binding hbinding
  rcases h.used occurrence hoccurs hscope hrole with hused | ⟨hdefault, span, hitem⟩
  · exact hused
  · have hleaves := h.leavesUnnamed hsound hlawful hdefault _ hitem rfl
    have hnone : (built.module module).bindingOf? built occurrence.ident = none := by
      cases hother : (built.module module).bindingOf? built occurrence.ident with
      | none => rfl
      | some other =>
        obtain ⟨hmember, found, hfound, hidentity⟩ := bindingOf?_spec _ _ _ _ hother
        exact absurd (hidentity.trans hsame.symm)
          (h.not_declared hsound hlawful binding hbinding other hmember found hfound)
    have hmissing := hleaves.2 hnone
    rw [Module.import?] at hmissing
    cases hother : (built.module module).imports.find? fun binding =>
        binding.identity == occurrence.ident.identity with
    | none =>
      have hall := List.find?_eq_none.mp hother binding hbinding
      exact absurd (beq_iff_eq.mpr hsame) hall
    | some other =>
      have hidentity := List.find?_some hother
      have heq := h.import_unique hsound hlawful other binding (List.mem_of_find?_eq_some hother)
        hbinding (congrArg Identity.name ((beq_iff_eq.mp hidentity).trans hsame.symm))
      rw [hother, heq, Option.bind_some, hresolved] at hmissing
      exact absurd hmissing nofun

/-! ## What is declared -/

theorem mem_itemOrigins (session : Session) (id : ModuleId) (item : Item) (ident : Ident)
    (hident : ident ∈ item.topLevel) (hlocal : ident.name ∉ item.importedNames) :
    (Origin.declaration id ident.identity,
      session.spelling (session.module id) ident.identity) ∈ session.itemOrigins id item := by
  have hmem := List.mem_map_of_mem (f := fun ident : Ident =>
    (Origin.declaration id ident.identity,
      session.spelling (session.module id) ident.identity)) hident
  cases item with
  | statement tree | exportDecl decl span => exact hmem
  | importFrom specifiers source span =>
    obtain ⟨specifier, hspecifier, rfl⟩ := List.mem_map.mp hident
    exact absurd (List.mem_map_of_mem hspecifier) hlocal
  | exportDefaultDecl decl span =>
    have hnamed : (namedDeclaration? decl).isSome = true := by
      cases hnone : namedDeclaration? decl with
      | none => simp [Item.topLevel, hnone] at hident
      | some named => rfl
    unfold itemOrigins
    dsimp only
    rw [if_pos hnamed]
    exact hmem
  | _ => exact absurd hident List.not_mem_nil

/-- What is kept of the declarations of a lawful module stands in the program. -/
theorem LeftOf.declared_of_kept (h : built.LeftOf linked module unused) (hsound : built.Sound)
    (hlinkable : Linkable built linked order) (hvalid : module < linked.modules.length)
    (hlawful : (built.module module).program.Lawful) (id : BindingId)
    (hid : id ∈ (built.module module).bindings) (found : Binding)
    (hfound : linked.bindings[id]? = some found) (hkept : found.removed = false) :
    (.declaration module found.identity, found.name) ∈ linked.moduleOrigins module := by
  obtain ⟨earlier, hearlier, hsame, -, declaration, hdeclaration, hname⟩ :=
    h.built_binding hsound id hid found hfound
  obtain ⟨ident, hident, hidentity⟩ := hlawful.topLevel_of_declaration declaration hdeclaration
  replace hidentity : ident.identity = found.identity := by rw [hidentity, hname, Binding.identity]
  have himported : found.identity ∉ importIdentities (linked.module module) := by
    intro hmem
    obtain ⟨binding, hbinding, heq⟩ := List.mem_map.mp hmem
    rw [h.imports] at hbinding
    exact h.not_declared hsound hlawful binding hbinding id hid earlier hearlier
      (hsame.trans heq.symm)
  rcases (built.module module).program.topLevel_relieved unused ident hident with hidle | hleft
  · rw [hidentity] at hidle
    rw [(h.removed id hid found hfound).mpr hidle] at hkept
    exact absurd hkept nofun
  · obtain ⟨item, hitem, hmem⟩ := List.mem_flatMap.mp hleft
    have hlocal : ident.name ∉ item.importedNames := fun hname' => by
      refine hlawful.imports_apart declaration hdeclaration ?_
      rw [hname, show found.declaration.name = ident.name from
        (congrArg Identity.name hidentity).symm]
      exact Program.relieved_importedNames unused _ item hitem _ hname'
    have horigin := mem_itemOrigins linked module item ident hmem hlocal
    rw [hidentity, hlinkable.spelling_binding module hvalid id (h.bindings ▸ hid) found hfound hkept
      himported] at horigin
    exact List.mem_append_left _ (List.mem_flatMap.mpr ⟨item, h.program ▸ hitem, horigin⟩)

theorem LeftOf.default_declared (h : built.LeftOf linked module unused) (hsound : built.Sound)
    (hlawful : (built.module module).program.Lawful) (decl : Tree) (span : Span)
    (hitem : .exportDefaultDecl decl span ∈ (built.module module).program.items)
    (hnameless : ∀ id, (declaredIdents decl).head? = some id →
      (built.module module).bindingOf? built id = none) :
    namedDeclaration? decl = none ∧
      .exportDefaultDecl decl span ∈ (linked.module module).program.items := by
  have hnone : ∀ id ident, id ∈ (built.module module).bindings →
      (declaredIdents decl).head? = some ident →
        (built.bindings[id]?).map Binding.identity ≠ some ident.identity := by
    intro id ident hid hhead heq
    obtain ⟨found, hfound, hsame⟩ := Option.map_eq_some_iff.mp heq
    obtain ⟨other, hother⟩ := built.bindingOf?_isSome _ ident id hid found hfound hsame
    rw [hnameless ident hhead] at hother
    exact absurd hother nofun
  constructor
  · cases hnamed : namedDeclaration? decl with
    | none => rfl
    | some named =>
      obtain ⟨ident, -, hnames, hdeclares, -⟩ := namedDeclaration?_cases decl named hnamed
      have hmem : ident ∈ (Item.exportDefaultDecl decl span).topLevel := by
        simp [Item.topLevel, hnamed, hnames]
      obtain ⟨kind, hoccurs⟩ := (Item.topLevel_occur _ ident hmem).resolve_left List.not_mem_nil
      have hscope := hlawful.default_declared _ hitem rfl ident hmem
      obtain ⟨declaration, hdeclaration, hname⟩ := Program.exists_declaration _ _
        (List.mem_flatMap.mpr ⟨_, hitem, hoccurs⟩) kind rfl hscope
      obtain ⟨id, hid, hbinding⟩ :=
        (hsound.modules module h.valid).exists_binding declaration hdeclaration
      refine absurd ?_ (hnone id ident hid (by rw [hdeclares]; rfl))
      rw [hbinding, Option.map_some, Option.some.injEq]
      exact Identity.mk.injEq .. |>.mpr ⟨hname, hscope.symm⟩
  · rw [h.program]
    refine Program.relieved_exportDefaultDecl unused _ decl span hitem ?_
    cases hsole : soleIdentity? decl with
    | none => simp [Tree.isIdleSole, hsole]
    | some identity =>
      rw [Tree.isIdleSole, hsole, Option.any_some]
      by_contra hgone
      obtain ⟨ident, hhead, hsame⟩ := declaredIdents_of_sole decl identity hsole
      obtain ⟨id, hid, hbinding⟩ := h.unused identity (by simpa using hgone)
      exact hnone id ident hid hhead (hsame ▸ hbinding)

theorem LeftOf.declared_of_unnamed (h : built.LeftOf linked module unused) (hsound : built.Sound)
    (hlawful : (built.module module).program.Lawful) (record : RecordId)
    (hdefault : (linked.module module).unnamedDefault = some record) :
    (.unnamedDefault module, linked.identifier record) ∈ linked.moduleOrigins module := by
  have hsome : (built.module module).unnamedDefault ≠ none := by
    rw [← h.unnamedDefault, hdefault]
    nofun
  obtain ⟨item, hitem, hleaves⟩ := (hsound.modules module h.valid).leaves hsome
  refine List.mem_append_left _ (List.mem_flatMap.mpr ⟨item, ?_⟩)
  cases item with
  | exportDefaultDecl decl span =>
    obtain ⟨hnamed, hleft⟩ := h.default_declared hsound hlawful decl span hitem hleaves
    exact ⟨hleft, by simp [itemOrigins, hnamed, hdefault]⟩
  | exportDefault value span =>
    refine ⟨?_, by simp [itemOrigins, hdefault]⟩
    rw [h.program]
    exact (Program.relieved_exportDefault unused _ value span).mpr hitem
  | _ => exact absurd hleaves id

end

end Session

end ScopeHoist
