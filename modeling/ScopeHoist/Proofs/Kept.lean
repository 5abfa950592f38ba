import ScopeHoist.Proofs.Capture
import ScopeHoist.Proofs.TopLevel

/-!
# What a program keeps of a module

Taking the module syntax off an item and renaming it can be done in either order, since no new
spelling is for a generated identifier. So the statements of a module in the one program are those
that it keeps, renamed; and what occurs in them occurs in the module, but for the name of a default
that had none.
-/

set_option autoImplicit false

namespace ScopeHoist

/-! ## Module syntax and new spellings -/

section

variable (renames : Renames)

theorem rename_generated (hscope : ∀ rename ∈ renames, rename.1.scope ≠ .unscoped) (name : String) :
    (Ident.generated name).rename renames = .generated name := by
  have hnone : newName? renames (.generated name) = none := by
    rw [newName?, find?_key_eq_none]
    · rfl
    · intro hmem
      obtain ⟨rename, hrename, heq⟩ := List.mem_map.mp hmem
      exact hscope rename hrename (heq ▸ rfl)
  rw [Ident.rename, hnone]
  rfl

theorem namedDeclaration?_rename (decl : Tree) :
    namedDeclaration? (decl.rename renames) =
      (namedDeclaration? decl).map (Tree.rename renames) := by
  cases decl with
  | ident id => rfl
  | node form span children =>
    rcases rename_node renames form span children with h | ⟨rfl, id, rfl, h⟩ |
      ⟨rfl, id, value, rfl, h⟩
    · rw [h]
      cases form
      case function kind | classExpr =>
        cases children with
        | nil => rfl
        | cons first rest =>
          cases first with
          | ident id => rfl
          | node form' span' children' =>
            obtain ⟨form'', span'', children'', hnode⟩ :=
              rename_node_isNode renames form' span' children'
            rw [renameList, hnode]
            rfl
      all_goals rfl
    · rw [h]
      rfl
    · rw [h]
      split <;> rfl

theorem constDeclaration_rename (hscope : ∀ rename ∈ renames, rename.1.scope ≠ .unscoped)
    (name : String) (value : Tree) :
    (constDeclaration name value).rename renames =
      constDeclaration name (value.rename renames) := by
  simp [constDeclaration, Form.of, Tree.rename, renameList, generatedIdent,
    rename_generated renames hscope name]

theorem Item.hoisted_rename (hscope : ∀ rename ∈ renames, rename.1.scope ≠ .unscoped)
    (unnamed : Option String) (item : Item) :
    (item.rename renames).hoisted unnamed = (item.hoisted unnamed).map (Item.rename renames) := by
  cases item with
  | exportDefaultDecl decl span =>
    simp only [Item.rename, Item.hoisted, namedDeclaration?_rename]
    cases namedDeclaration? decl with
    | some named => rfl
    | none =>
      cases unnamed with
      | none => rfl
      | some name => simp [Item.rename, constDeclaration_rename renames hscope]
  | exportDefault value span =>
    cases unnamed with
    | none => rfl
    | some name => simp [Item.rename, Item.hoisted, constDeclaration_rename renames hscope]
  | _ => rfl

end

/-! ## Occurrences in what is kept -/

theorem Item.occurrences_rename (renames : Renames) (item : Item) :
    (item.rename renames).occurrences = item.occurrences.map (Occurrence.rename renames) := by
  cases item with
  | statement tree => exact tree.occurrences_rename renames .reads
  | exportDecl decl span => exact decl.occurrences_rename renames .reads
  | exportDefaultDecl decl span => exact decl.occurrences_rename renames .reads
  | exportDefault value span =>
    cases value with
    | ident id => rfl
    | node form span' children =>
      have h := (Tree.node form span' children).occurrences_rename renames .reads
      obtain ⟨form', span'', children', hnode⟩ := rename_node_isNode renames form span' children
      rw [hnode] at h
      rw [Item.rename, hnode]
      exact h
  | _ => rfl

theorem constDeclaration_topLevel (name : String) (value : Tree) :
    (constDeclaration name value).topLevel = [.generated name] := rfl

theorem constDeclaration_occurrences (name : String) (value : Tree) :
    (constDeclaration name value).occurrences .reads =
      ⟨.generated name, .declares (.variable .constant)⟩ :: value.occurrences .reads := by
  simp [constDeclaration, Form.of, generatedIdent, Tree.occurrences, childOccurrences, childRole]

/-- Whether an occurrence stands in an item as something that the program reads or declares: it does
so in the item itself, or as the whole value of the default export. -/
def Item.Keeps (item : Item) (occurrence : Occurrence) : Prop :=
  occurrence ∈ item.occurrences ∨
    ∃ id span, item = .exportDefault (.ident id) span ∧ occurrence = ⟨id, .reads⟩

theorem Item.hoisted_occurrences (item : Item) (unnamed : Option String) (kept : Item)
    (h : item.hoisted unnamed = some kept) (occurrence : Occurrence)
    (hmem : occurrence ∈ kept.occurrences) :
    item.Keeps occurrence ∨
      ∃ name, occurrence = ⟨.generated name, .declares (.variable .constant)⟩ := by
  cases item with
  | statement tree =>
    obtain rfl := Option.some.inj h
    exact .inl (.inl hmem)
  | exportDecl decl span =>
    obtain rfl := Option.some.inj h
    exact .inl (.inl hmem)
  | exportDefaultDecl decl span =>
    obtain ⟨tree, htree, rfl⟩ := Option.map_eq_some_iff.mp h
    rcases Option.or_eq_some_iff.mp htree with hnamed | ⟨-, hunnamed⟩
    · obtain ⟨-, -, -, -, hoccurrences⟩ := namedDeclaration?_cases decl tree hnamed
      exact .inl (.inl (by rw [Item.occurrences, ← hoccurrences]; exact hmem))
    · obtain ⟨name, -, rfl⟩ := Option.map_eq_some_iff.mp hunnamed
      rw [Item.occurrences, constDeclaration_occurrences, List.mem_cons] at hmem
      exact hmem.symm.imp .inl fun heq => ⟨name, heq⟩
  | exportDefault value span =>
    obtain ⟨tree, htree, rfl⟩ := Option.map_eq_some_iff.mp h
    obtain ⟨name, -, rfl⟩ := Option.map_eq_some_iff.mp htree
    rw [Item.occurrences, constDeclaration_occurrences, List.mem_cons] at hmem
    refine hmem.symm.imp (fun hmem => ?_) fun heq => ⟨name, heq⟩
    cases value with
    | ident id => exact .inr ⟨id, span, rfl, List.mem_singleton.mp hmem⟩
    | node form span' children => exact .inl hmem
  | _ => exact absurd h nofun

theorem Item.Keeps.mem_idents (item : Item) (occurrence : Occurrence) (h : item.Keeps occurrence) :
    occurrence.ident ∈ item.idents := by
  rcases h with h | ⟨id, span, rfl, rfl⟩
  · unfold Item.idents
    split
    · exact absurd h List.not_mem_nil
    · exact absurd h List.not_mem_nil
    · exact List.mem_map_of_mem h
  · exact List.mem_singleton.mpr rfl

namespace Session

theorem renamesOf_scope (session : Session) (module : Module) (rename : Identity × String)
    (h : rename ∈ session.renamesOf module) : rename.1.scope ≠ .unscoped := by
  rcases List.mem_append.mp h with h | h
  · rw [topLevelRenames_scope session module _ (List.mem_map_of_mem h)]
    nofun
  · intro heq
    have hnested := nestedRenames_scope _ _ _ (List.mem_map_of_mem h)
    rw [heq] at hnested
    exact absurd hnested nofun

def keptItems (session : Session) (module : Module) : List Item :=
  module.program.items.filterMap (Item.hoisted (module.unnamedDefault.map session.identifier))

theorem hoistedStatements_eq (session : Session) (module : Module) :
    session.hoistedStatements module =
      (session.keptItems module).map (Item.rename (session.renamesOf module)) := by
  rw [hoistedStatements, keptItems, Program.rename, List.filterMap_map, List.map_filterMap]
  refine List.filterMap_congr fun item _ => ?_
  exact item.hoisted_rename _ (session.renamesOf_scope module) _

theorem hoistedStatements_occurrences (session : Session) (module : Module) :
    (session.hoistedStatements module).flatMap Item.occurrences =
      ((session.keptItems module).flatMap Item.occurrences).map
        (Occurrence.rename (session.renamesOf module)) := by
  rw [hoistedStatements_eq, List.flatMap_map, List.map_flatMap]
  exact congrArg (List.flatMap · _) (funext fun item => item.occurrences_rename _)

/-- What occurs in the statements of a module comes from what it keeps, and is spelled as the module
has it spelled. -/
theorem occurs_of_hoisted (session : Session) (module : Module) (item : Item)
    (hitem : item ∈ session.hoistedStatements module) (occurrence : Occurrence)
    (hoccurs : occurrence ∈ item.occurrences) :
    (∃ name, occurrence.ident = .generated name) ∨
      ∃ source ∈ module.program.items, ∃ original, source.Keeps original ∧
        occurrence = original.rename (session.renamesOf module) := by
  rw [hoistedStatements_eq] at hitem
  obtain ⟨kept, hkept, rfl⟩ := List.mem_map.mp hitem
  obtain ⟨source, hsource, hhoisted⟩ := List.mem_filterMap.mp hkept
  rw [Item.occurrences_rename] at hoccurs
  obtain ⟨original, horiginal, rfl⟩ := List.mem_map.mp hoccurs
  rcases source.hoisted_occurrences _ kept hhoisted original horiginal with hkeeps | ⟨name, rfl⟩
  · exact .inr ⟨source, hsource, original, hkeeps, rfl⟩
  · exact .inl ⟨name, rename_generated _ (session.renamesOf_scope module) name⟩

end Session

end ScopeHoist
