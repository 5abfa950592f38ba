import ScopeHoist.Proofs.Resolution

/-!
# Plain names

The namespace of a module is kept in its table under a name that a program can write as well, if it
puts it in quotes. Programs with plain names do not: they ask for that name where they want a
namespace, and never export anything by it.
-/

set_option autoImplicit false

namespace ScopeHoist

/-- The sources whose namespaces an item asks for, by `import *` or `export * as`. -/
def Item.namespaceSources : Item → List String
  | .importFrom specifiers source _ =>
    specifiers.filterMap fun specifier =>
      match specifier with
      | .aggregate _ _ => some source.value
      | _ => none
  | .exportFrom specifiers source _ =>
    specifiers.filterMap fun specifier =>
      match specifier with
      | .aggregate _ _ => some source.value
      | _ => none
  | _ => []

def Item.namedRequests : Item → List (String × String)
  | .importFrom specifiers source _ =>
    specifiers.filterMap fun specifier =>
      match specifier with
      | .aggregate _ _ => none
      | specifier => some (source.value, specifier.importedName)
  | .exportFrom specifiers source _ =>
    specifiers.filterMap fun specifier =>
      match specifier with
      | .aggregate _ _ => none
      | .named origin _ _ => some (source.value, origin.value)
  | _ => []

namespace Program

def namespaceSources (program : Program) : List String :=
  program.items.flatMap Item.namespaceSources

def namedRequests (program : Program) : List (String × String) :=
  program.items.flatMap Item.namedRequests

instance (program : Program) : Decidable program.ExportsAggregateName := by
  unfold ExportsAggregateName
  infer_instance

/-- Whether a program does not write the name of a namespace as that of anything else. -/
def PlainNames (program : Program) : Prop :=
  aggregateName ∉ program.namedRequests.map Prod.snd ∧ ¬ program.ExportsAggregateName

instance (program : Program) : Decidable program.PlainNames := by
  unfold PlainNames
  infer_instance

/-! ## Asking for a namespace -/

theorem mem_requests (program : Program) (source name : String) :
    (source, name) ∈ program.requests ↔
      (name = aggregateName ∧ source ∈ program.namespaceSources) ∨
        (source, name) ∈ program.namedRequests := by
  unfold requests namespaceSources namedRequests
  simp only [List.mem_flatMap, ← exists_and_left, ← exists_or]
  apply exists_congr
  intro item
  rw [and_left_comm, ← and_or_left]
  apply and_congr_right
  intro hitem
  cases item with
  | importFrom specifiers from_ span =>
    simp only [Item.requests, Item.namespaceSources, Item.namedRequests, List.mem_map,
      List.mem_filterMap, ← exists_and_left, ← exists_or]
    apply exists_congr
    intro specifier
    rw [and_left_comm, ← and_or_left]
    apply and_congr_right
    intro hspecifier
    cases specifier <;> simp [ImportSpecifier.importedName, and_comm, eq_comm]
  | exportFrom specifiers from_ span =>
    simp only [Item.requests, Item.namespaceSources, Item.namedRequests, List.mem_map,
      List.mem_filterMap, ← exists_and_left, ← exists_or]
    apply exists_congr
    intro specifier
    rw [and_left_comm, ← and_or_left]
    apply and_congr_right
    intro hspecifier
    cases specifier <;> simp [ExportSpecifier.namePair, and_comm, eq_comm]
  | _ => simp [Item.requests, Item.namespaceSources, Item.namedRequests]

theorem name_of_mem_clauses (program : Program) (clause : Clause)
    (hclause : clause ∈ program.clauses) :
    (∃ item ∈ program.items, clause.name ∈ item.exportedNames) ∨ clause.name = defaultName := by
  obtain ⟨item, hitem, hclause⟩ := List.mem_flatMap.mp hclause
  suffices h : clause.name ∈ item.exportedNames ∨ clause.name = defaultName from
    h.imp_left fun hname => ⟨item, hitem, hname⟩
  cases item with
  | exportDecl decl span =>
    obtain ⟨id, hid, hclause⟩ := List.mem_flatMap.mp hclause
    left
    unfold declaredClauses at hclause
    split at hclause
    · rw [List.mem_singleton.mp hclause]
      exact List.mem_map_of_mem hid
    · exact absurd hclause List.not_mem_nil
  | exportList specifiers span =>
    obtain ⟨specifier, hspecifier, hclause⟩ := List.mem_flatMap.mp hclause
    left
    apply List.mem_map.mpr
    refine ⟨specifier, hspecifier, ?_⟩
    cases specifier with
    | aggregate exported span => exact absurd hclause List.not_mem_nil
    | named origin exported span =>
      cases origin with
      | text quotation => exact absurd hclause List.not_mem_nil
      | ident id =>
        change clause ∈ program.localClauses _ id at hclause
        unfold localClauses at hclause
        split at hclause
        · rw [List.mem_singleton.mp hclause]
          rfl
        · obtain ⟨_, -, rfl⟩ := List.mem_map.mp hclause
          rfl
  | exportFrom specifiers source span =>
    obtain ⟨specifier, hspecifier, rfl⟩ := List.mem_map.mp hclause
    exact .inl (List.mem_map.mpr ⟨specifier, hspecifier, rfl⟩)
  | exportDefaultDecl decl span =>
    rw [List.mem_singleton.mp hclause]
    exact .inr rfl
  | exportDefault value span =>
    rw [List.mem_singleton.mp hclause]
    exact .inr rfl
  | _ => exact absurd hclause List.not_mem_nil

theorem clause_ne_of_not_exports (program : Program) (h : ¬ program.ExportsAggregateName)
    (clause : Clause) (hclause : clause ∈ program.clauses) : clause.name ≠ aggregateName := by
  intro heq
  rcases program.name_of_mem_clauses clause hclause with ⟨item, hitem, hname⟩ | hname
  · exact h ⟨item, hitem, heq ▸ hname⟩
  · exact InSession.aggregateName_ne_defaultName (heq.symm.trans hname)

end Program

namespace Session

variable {session : Session}

def PlainNames (session : Session) : Prop :=
  ∀ id, id < session.modules.length → (session.module id).program.PlainNames

instance (session : Session) : Decidable session.PlainNames := by
  unfold PlainNames
  infer_instance

theorem resolution_aggregate (hsound : session.Sound)
    (answering : Answer → Target → String → Option Origin) (hlocal : Local answering)
    (id : ModuleId) (hplain : ¬ (session.module id).program.ExportsAggregateName) :
    session.resolution answering id aggregateName = none := by
  rw [resolution_eq hsound hlocal, resolveStep, passed, if_pos (.inr rfl), Option.or_none, referred]
  have hnone : (session.module id).program.clauses.filter
      (fun clause => clause.name == aggregateName) = [] := by
    apply List.filter_eq_nil_iff.mpr
    intro clause hclause
    simpa using Program.clause_ne_of_not_exports _ hplain clause hclause
  rw [hnone]
  rfl

end Session

end ScopeHoist
