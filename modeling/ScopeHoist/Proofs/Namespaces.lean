import ScopeHoist.Proofs.PlainNames

/-!
# Namespaces are asked for

Whoever asks for the namespace of a module gets the one record of its namespace object, and a table
has such a record only if somebody asked. This is so for every module and external whose tables
are not asked by name for what a namespace is kept under.
-/

set_option autoImplicit false

namespace ScopeHoist

namespace Session

variable (session : Session)

/-- Whether a stored module asks for the namespace of a target. -/
def AsksNamespace (target : Target) : Prop :=
  ∃ asker < session.modules.length, ∃ specifier ∈ (session.module asker).program.namespaceSources,
    (session.module asker).target? specifier = some target

/-- Whether a stored module asks a target by name for what its namespace is kept under. -/
def NamesNamespace (target : Target) : Prop :=
  ∃ asker < session.modules.length, ∃ request ∈ (session.module asker).program.namedRequests,
    request.2 = aggregateName ∧ (session.module asker).target? request.1 = some target

def ExportsWhole (module : ModuleId) (id : ExternalId) : Prop :=
  ∃ star ∈ (session.module module).stars, star.external = id

/-- Nothing but its namespace is called like the namespace of a module. -/
def Reserved (id : ModuleId) : Prop :=
  ¬ (session.module id).program.ExportsAggregateName ∧ ¬ session.NamesNamespace (.module id)

/-- Nothing but its namespace is called like the namespace of an external. -/
def ReservedOutside (id : ExternalId) : Prop :=
  ¬ session.NamesNamespace (.external id) ∧
    ∀ module < session.modules.length, session.ExportsWhole module id →
      ¬ session.NamesNamespace (.module module)

instance (target : Target) : Decidable (session.NamesNamespace target) := by
  unfold NamesNamespace
  infer_instance

instance (module : ModuleId) (id : ExternalId) : Decidable (session.ExportsWhole module id) := by
  unfold ExportsWhole
  infer_instance

instance (id : ModuleId) : Decidable (session.Reserved id) := by
  unfold Reserved
  infer_instance

instance (id : ExternalId) : Decidable (session.ReservedOutside id) := by
  unfold ReservedOutside
  infer_instance

/-- The record of the namespace object of a module, entered in the module's table. -/
def HoldsNamespace (id : ModuleId) (record : RecordId) : Prop :=
  (session.module id).exports.get? aggregateName = some record ∧ session.IsAggregate id record

/-- What is known of the namespace of a module: all who ask for it get the one record of its object,
and that is there only if it is asked for. -/
structure NamespaceKept (id : ModuleId) : Prop where
  imported : ∀ asker < session.modules.length, ∀ binding ∈ (session.module asker).imports,
    binding.imported = aggregateName → binding.target = .module id →
      ∃ record, binding.resolved = some record ∧ session.HoldsNamespace id record
  exported : ∀ asker < session.modules.length, ∀ before after name specifier,
    (session.module asker).program.clauses =
        before ++ ⟨name, .outer specifier aggregateName⟩ :: after →
      (∀ clause ∈ after, clause.name ≠ name) →
        (session.module asker).target? specifier = some (.module id) →
          ∃ record, (session.module asker).exports.get? name = some record ∧
            session.HoldsNamespace id record
  asked : (session.module id).exports.get? aggregateName ≠ none →
    session.AsksNamespace (.module id)

variable {session}

theorem asksNamespace_of_asks (asker : ModuleId) (hasker : asker < session.modules.length)
    (target : Target) (hasks : (session.module asker).Asks target aggregateName)
    (hnamed : ¬ session.NamesNamespace target) : session.AsksNamespace target := by
  obtain ⟨specifier, htarget, hrequest⟩ := hasks
  rcases ((session.module asker).program.mem_requests _ _).mp hrequest with ⟨-, hsource⟩ | hnames
  · exact ⟨asker, hasker, specifier, hsource, htarget⟩
  · exact absurd ⟨asker, hasker, _, hnames, rfl, htarget⟩ hnamed

theorem holdsNamespace_of_granted (hsound : session.Sound) (id : ModuleId)
    (hplain : ¬ (session.module id).program.ExportsAggregateName) (result : Option RecordId)
    (h : session.Granted aggregateName result (.module id)) :
    ∃ record, result = some record ∧ session.HoldsNamespace id record := by
  obtain ⟨hid, hentry, hnone⟩ := h
  cases result with
  | none => exact absurd rfl (hnone rfl).1
  | some record =>
    have haggregate := (hsound.modules id hid).exports.aggregate record hentry
    rw [hsound.id_eq id hid] at haggregate
    exact ⟨record, rfl, hentry, haggregate.resolve_right hplain⟩

/-! ## What is asked for is answered -/

theorem Publishes.exists_yields {module : Module} {clauses : List Clause}
    {published : List Published} (h : session.Publishes module clauses published) (clause : Clause)
    (hclause : clause ∈ clauses) : ∃ result, session.Yields module clause.referent result := by
  induction h with
  | nil => exact absurd hclause List.not_mem_nil
  | made head rest record isUnnamed published hyields _ ih =>
    rcases List.mem_cons.mp hclause with rfl | hclause
    · exact ⟨_, hyields⟩
    · exact ih hclause
  | skipped head rest published hyields _ ih =>
    rcases List.mem_cons.mp hclause with rfl | hclause
    · exact ⟨_, hyields⟩
    · exact ih hclause

theorem Completed.exists_granted {first : ModuleId → Table RecordId} {module : Module}
    (h : session.Completed first module) (specifier name : String)
    (hrequest : (specifier, name) ∈ module.program.requests) (target : Target)
    (htarget : module.target? specifier = some target) :
    ∃ result, session.Granted name result target := by
  obtain ⟨item, hitem, hrequest⟩ := List.mem_flatMap.mp hrequest
  cases item with
  | importFrom specifiers source span =>
    obtain ⟨asked, hasked, heq⟩ := List.mem_map.mp hrequest
    obtain ⟨rfl, rfl⟩ := Prod.mk.inj heq
    obtain ⟨binding, -, hanswers⟩ := forall₂_mem_left h.imported
      ⟨asked.target.name, source.value, asked.importedName⟩
      (List.mem_flatMap.mpr ⟨_, hitem, List.mem_map.mpr ⟨asked, hasked, rfl⟩⟩)
    obtain rfl := Option.some.inj (hanswers.target.symm.trans htarget)
    exact ⟨_, hanswers.resolved⟩
  | exportFrom specifiers source span =>
    obtain ⟨asked, hasked, heq⟩ := List.mem_map.mp hrequest
    obtain ⟨rfl, rfl⟩ := Prod.mk.inj heq
    obtain ⟨held, published, hpublishes, -⟩ := h.exports
    obtain ⟨result, hyields⟩ := hpublishes.exists_yields
      ⟨asked.namePair.2, .outer source.value asked.namePair.1⟩
      (List.mem_flatMap.mpr ⟨_, hitem, List.mem_map.mpr ⟨asked, hasked, rfl⟩⟩)
    cases hyields with
    | outer specifier name target' result htarget' hgranted =>
      obtain rfl := Option.some.inj (htarget'.symm.trans htarget)
      exact ⟨_, hgranted⟩
  | _ => exact absurd hrequest List.not_mem_nil

theorem Completed.aggregate_of_asks {first : ModuleId → Table RecordId} {module : Module}
    (h : session.Completed first module) (id : ModuleId)
    (hasks : module.Asks (.module id) aggregateName) :
    (session.module id).exports.get? aggregateName ≠ none := by
  obtain ⟨specifier, htarget, hrequest⟩ := hasks
  obtain ⟨result, -, hentry, hnone⟩ := h.exists_granted specifier _ hrequest _ htarget
  rw [hentry]
  exact fun heq => (hnone heq).1 rfl

theorem lastPublished_of_clause {module : Module} {clauses : List Clause}
    {published : List Published} (h : session.Publishes module clauses published)
    (before after : List Clause) (clause : Clause) (hclauses : clauses = before ++ clause :: after)
    (hlast : ∀ later ∈ after, later.name ≠ clause.name) :
    ∃ result, session.Yields module clause.referent result ∧
      ∀ record, result = some record →
        lastPublished published clause.name = some record := by
  have hnone : ∀ {clauses published}, session.Publishes module clauses published →
      (∀ later ∈ clauses, later.name ≠ clause.name) →
        lastPublished published clause.name = none := by
    intro clauses published h
    induction h with
    | nil => exact fun _ => rfl
    | made head rest record isUnnamed published _ _ ih =>
      intro hlast
      rw [lastPublished_cons, ih fun later hlater => hlast later (List.mem_cons_of_mem _ hlater),
        Option.none_or, if_neg (hlast head List.mem_cons_self)]
    | skipped head rest published _ _ ih =>
      exact fun hlast => ih fun later hlater => hlast later (List.mem_cons_of_mem _ hlater)
  induction h generalizing before with
  | nil => exact absurd hclauses (by simp)
  | made head rest record isUnnamed published hyields hrest ih =>
    cases before with
    | nil =>
      obtain ⟨rfl, rfl⟩ := List.cons.inj hclauses
      refine ⟨some record, hyields, fun found heq => ?_⟩
      rw [lastPublished_cons, hnone hrest hlast, Option.none_or, if_pos rfl, heq]
    | cons first before =>
      obtain ⟨-, hrest'⟩ := List.cons.inj hclauses
      obtain ⟨result, hresult, hsome⟩ := ih before hrest'
      refine ⟨result, hresult, fun found heq => ?_⟩
      rw [lastPublished_cons, hsome found heq, Option.some_or]
  | skipped head rest published hyields hrest ih =>
    cases before with
    | nil =>
      obtain ⟨rfl, rfl⟩ := List.cons.inj hclauses
      exact ⟨none, hyields, fun _ heq => absurd heq nofun⟩
    | cons first before =>
      obtain ⟨-, hrest'⟩ := List.cons.inj hclauses
      exact ih before hrest'

section

variable {first : ModuleId → Table RecordId} (hwired : session.Wired first)
include hwired

theorem Wired.first_aggregate (hsound : session.Sound) (id : ModuleId)
    (hid : id < session.modules.length)
    (hplain : ¬ (session.module id).program.ExportsAggregateName) :
    (first id).get? aggregateName = none :=
  hwired.first_aggregate_of_none hsound id hid
    (resolution_aggregate hsound _ (local_lendingAnswer session) id hplain)

/-- A module holds what the last clause of a name comes to, if that is anything. -/
theorem Wired.exports_of_clause (asker : ModuleId) (hasker : asker < session.modules.length)
    (before after : List Clause) (clause : Clause)
    (hclauses : (session.module asker).program.clauses = before ++ clause :: after)
    (hlast : ∀ later ∈ after, later.name ≠ clause.name) :
    ∃ result, session.Yields (session.module asker) clause.referent result ∧
      ∀ record, result = some record →
        (session.module asker).exports.get? clause.name = some record := by
  have hcompleted := hwired.completed asker hasker
  obtain ⟨held, published, hpublishes, -, hentries⟩ := hcompleted.exports
  obtain ⟨result, hyields, hsome⟩ :=
    lastPublished_of_clause hpublishes before after clause hclauses hlast
  refine ⟨result, hyields, fun record heq => hcompleted.kept clause.name record ?_⟩
  rw [hentries, firstEntry, hsome record heq, Option.some_or]

theorem Wired.namespaceKept (hsound : session.Sound) (id : ModuleId)
    (hid : id < session.modules.length) (hreserved : session.Reserved id) :
    session.NamespaceKept id where
  imported := by
    intro asker hasker binding hbinding himported htarget
    have himports := (hwired.completed asker hasker).imported
    obtain ⟨clause, -, hanswers⟩ := forall₂_mem_right himports binding hbinding
    have hgranted := hanswers.resolved
    rw [← hanswers.imported, himported, htarget] at hgranted
    exact holdsNamespace_of_granted hsound id hreserved.1 _ hgranted
  exported := by
    intro asker hasker before after name specifier hclauses hlast htarget
    obtain ⟨result, hyields, hsome⟩ :=
      hwired.exports_of_clause asker hasker before after _ hclauses hlast
    cases hyields with
    | outer specifier request target result htarget' hgranted =>
      obtain rfl := Option.some.inj (htarget'.symm.trans htarget)
      obtain ⟨record, rfl, hholds⟩ :=
        holdsNamespace_of_granted hsound id hreserved.1 result hgranted
      exact ⟨record, hsome record rfl, hholds⟩
  asked := by
    intro hentry
    rcases hwired.aggregate id hid hentry with hfirst | ⟨asker, hasker, hasks⟩
    · exact absurd (hwired.first_aggregate hsound id hid hreserved.1) hfirst
    · exact asksNamespace_of_asks asker hasker _ hasks hreserved.2

/-- The namespace of an external is asked for as such or with that of a module. -/
theorem Wired.external_asked (id : ExternalId) (hreserved : session.ReservedOutside id)
    (hentry : (session.external id).exports.get? aggregateName ≠ none) :
    session.AsksNamespace (.external id) ∨
      ∃ module < session.modules.length,
        session.AsksNamespace (.module module) ∧ session.ExportsWhole module id := by
  obtain ⟨asker, hasker, hasks⟩ := hwired.external id hentry
  rcases hasks with hasks | ⟨module, hmodule, hasks, hwhole⟩
  · exact .inl (asksNamespace_of_asks asker hasker _ hasks hreserved.1)
  · exact .inr ⟨module, hmodule,
      asksNamespace_of_asks asker hasker _ hasks (hreserved.2 module hmodule hwhole), hwhole⟩

end

theorem Linked.held_of_declared {built linked : Session} {order : List ModuleId}
    (h : built.Linked linked order) (id : ModuleId) (hid : id < built.modules.length)
    (hdeclared : (linked.aggregateDeclaration? (linked.module id)).isSome = true) :
    (built.module id).exports.get? aggregateName ≠ none := by
  obtain ⟨gone, dropped, used, shaken, -, hshaken, hrespelled⟩ := h.shaken
  rw [aggregateDeclaration?, Option.isSome_map, hrespelled.module] at hdeclared
  obtain ⟨record, hrecord⟩ := Option.isSome_iff_exists.mp hdeclared
  have hmem := ((hshaken.mem_exports id hid _).mp (Table.mem_of_get? _ _ _ hrecord)).1
  rw [Table.get?_of_mem _ (h.sound.proper id hid) _ _ hmem]
  exact Option.some_ne_none record

end Session

/-- In every graph, whoever asks for the namespace of a module gets the record of its object; tables
hold namespaces that were asked for, and the bundle has objects for no others. It is enough that
nothing else is called like the namespace in question. -/
theorem namespaces_asked_for (tree : FileTree) (entry : Path) (options : BundleOptions) :
    (∀ id < (builtSession tree entry options).modules.length,
      (builtSession tree entry options).Reserved id →
        (builtSession tree entry options).NamespaceKept id ∧
          (((linkedSession tree entry options).aggregateDeclaration?
              ((linkedSession tree entry options).module id)).isSome = true →
            (builtSession tree entry options).AsksNamespace (.module id))) ∧
      ∀ id, (builtSession tree entry options).ReservedOutside id →
        ((builtSession tree entry options).external id).exports.get? aggregateName ≠ none →
          (builtSession tree entry options).AsksNamespace (.external id) ∨
            ∃ module < (builtSession tree entry options).modules.length,
              (builtSession tree entry options).AsksNamespace (.module module) ∧
                (builtSession tree entry options).ExportsWhole module id := by
  obtain ⟨first, hwired⟩ := wired_builtSession tree entry options
  have hsound := sound_builtSession tree entry options
  have hlinked := linked_linkedSession tree entry options
  constructor
  · intro id hid hreserved
    have hkept := hwired.namespaceKept hsound id hid hreserved
    exact ⟨hkept, fun hdeclared => hkept.asked (hlinked.held_of_declared id hid hdeclared)⟩
  · exact fun id => hwired.external_asked id

/-- The namespace of a module that exports an external whole, imported and exported again. -/
def wholeExported : FileTree :=
  ⟨[(["i"], .file "import*as n from'./m';export*as k from'./m';f(n)".toUTF8),
    (["m"], .file "export*from'p';export const a=1".toUTF8)], []⟩

set_option maxRecDepth 100000 in
theorem namespaces_asked_for_whole :
    (builtSession wholeExported "/i" .standard).Reserved 0 ∧
      (builtSession wholeExported "/i" .standard).ReservedOutside 0 ∧
      (builtSession wholeExported "/i" .standard).NamespaceKept 0 ∧
      ∃ module < (builtSession wholeExported "/i" .standard).modules.length,
        (builtSession wholeExported "/i" .standard).AsksNamespace (.module module) ∧
          (builtSession wholeExported "/i" .standard).ExportsWhole module 0 := by
  have hchecked : (builtSession wholeExported "/i" .standard).Reserved 0 ∧
      (builtSession wholeExported "/i" .standard).ReservedOutside 0 ∧
      0 < (builtSession wholeExported "/i" .standard).modules.length ∧
      ((builtSession wholeExported "/i" .standard).external 0).exports.get? aggregateName ≠ none ∧
      ∀ asker < (builtSession wholeExported "/i" .standard).modules.length,
        ∀ specifier ∈
            ((builtSession wholeExported "/i" .standard).module asker).program.namespaceSources,
          ((builtSession wholeExported "/i" .standard).module asker).target? specifier ≠
            some (.external 0) := by
    decide +kernel
  obtain ⟨hreserved, houtside, hid, hentry, hnot⟩ := hchecked
  obtain ⟨hmodules, hexternals⟩ := namespaces_asked_for wholeExported "/i" .standard
  obtain ⟨hkept, -⟩ := hmodules 0 hid hreserved
  refine ⟨hreserved, houtside, hkept, ?_⟩
  rcases hexternals 0 houtside hentry with ⟨asker, hasker, specifier, hmem, htarget⟩ | h
  · exact absurd htarget (hnot asker hasker specifier hmem)
  · exact h

/-- A module that exports something else by the name of its namespace. -/
def quotedStar : FileTree :=
  ⟨[(["i"], .file "import*as n from'./l';f(n)".toUTF8),
    (["l"], .file "const x=1;export\x7bx as'*'\x7d".toUTF8)], []⟩

set_option maxRecDepth 100000 in
/-- What is exported by the name of a namespace stands in for it. -/
theorem namespaces_may_be_named :
    ¬ ∀ (tree : FileTree) (entry : Path) (options : BundleOptions),
      ∀ id < (builtSession tree entry options).modules.length,
        (builtSession tree entry options).NamespaceKept id := by
  intro hall
  have hchecked : 1 < (builtSession quotedStar "/i" .standard).modules.length ∧
      ∃ binding ∈ ((builtSession quotedStar "/i" .standard).module 1).imports,
        binding.imported = aggregateName ∧ binding.target = .module 0 ∧
          ∀ record, binding.resolved = some record →
            ((builtSession quotedStar "/i" .standard).records[record]?).map
              ExportRecord.localName = some "x" := by
    decide +kernel
  obtain ⟨hid, binding, hbinding, himported, htarget, hname⟩ := hchecked
  have hkept := hall quotedStar "/i" .standard 0 (Nat.lt_of_succ_lt hid)
  obtain ⟨record, hresolved, -, found, hfound, haggregate, -⟩ :=
    hkept.imported 1 hid binding hbinding himported htarget
  have hx := hname record hresolved
  rw [hfound, Option.map_some, haggregate] at hx
  exact absurd hx (by decide)

end ScopeHoist
