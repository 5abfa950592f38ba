import ScopeHoist.Proofs.ClauseTexts
import ScopeHoist.Proofs.Places
import ScopeHoist.Proofs.Shake

/-!
# What is left of a module

The statements of a module take no more text when idle declarations are gone, as long as none of the
names that are left gets longer and no more shorthand properties have to be written out.
-/

set_option autoImplicit false

namespace ScopeHoist

open Printing

def Item.shorthands (item : Item) : List Ident := item.tree?.toList.flatMap Tree.shorthands

def Program.shorthands (program : Program) : List Ident := program.items.flatMap Item.shorthands

/-- Whether some new names for a program are no longer than others, and have no more shorthand
properties written out. -/
structure Program.Terser (program : Program) (renames others : Renames) : Prop where
  size : ∀ id ∈ program.idents,
    (id.rename renames).name.utf8ByteSize ≤ (id.rename others).name.utf8ByteSize
  plain : ∀ id ∈ program.shorthands, (id.rename others).name = id.name →
    (id.rename renames).name = id.name

instance (program : Program) (renames others : Renames) :
    Decidable (program.Terser renames others) :=
  decidable_of_iff (_ ∧ _) ⟨fun h => ⟨h.1, h.2⟩, fun h => ⟨h.size, h.plain⟩⟩

theorem Item.idents_of_tree? {item : Item} {tree : Tree} (h : item.tree? = some tree)
    (occurrence : Occurrence) (hmem : occurrence ∈ tree.occurrences .reads) :
    occurrence.ident ∈ item.idents := by
  cases item with
  | exportDefault value span =>
    obtain rfl := Option.some.inj h
    cases value with
    | ident id => exact List.mem_singleton.mpr (congrArg _ (List.mem_singleton.mp hmem))
    | node form span children => exact List.mem_map_of_mem hmem
  | statement tree | exportDecl tree span | exportDefaultDecl tree span =>
    obtain rfl := Option.some.inj h
    exact List.mem_map_of_mem hmem
  | _ => exact absurd h nofun

section

variable {renames others : Renames}

theorem Program.Terser.noLonger {program : Program} (h : program.Terser renames others)
    {item : Item} (hitem : item ∈ program.items) {tree : Tree} (htree : item.tree? = some tree) :
    (tree.rename renames).NoLonger (tree.rename others) := by
  refine rename_noLonger renames others tree .reads (fun occurrence hoccurrence => ?_)
    fun id hid => ?_
  · exact h.size _ (List.mem_flatMap.mpr ⟨item, hitem,
      Item.idents_of_tree? htree occurrence hoccurrence⟩)
  · refine h.plain id (List.mem_flatMap.mpr ⟨item, hitem, ?_⟩)
    rw [Item.shorthands, htree]
    simpa using hid

theorem namedDeclaration?_noLonger {decl decl' : Tree} (h : decl.NoLonger decl') :
    (namedDeclaration? decl = none ∧ namedDeclaration? decl' = none) ∨
      ∃ named named', namedDeclaration? decl = some named ∧
        namedDeclaration? decl' = some named' ∧ named.NoLonger named' := by
  cases h with
  | node form span span' children children' hchildren =>
    cases hchildren with
    | nil => cases form <;> exact .inl ⟨rfl, rfl⟩
    | cons first first' rest rest' hfirst hrest =>
      cases hfirst with
      | ident id id' hname =>
        have hnamed := TreesNoLonger.cons _ _ rest rest' (.ident id id' hname) hrest
        cases form
        case function kind => exact .inr ⟨_, _, rfl, rfl, .node _ _ _ _ _ hnamed⟩
        case classExpr => exact .inr ⟨_, _, rfl, rfl, .node _ _ _ _ _ hnamed⟩
        all_goals exact .inl ⟨rfl, rfl⟩
      | _ => cases form <;> exact .inl ⟨rfl, rfl⟩
  | _ => exact .inl ⟨rfl, rfl⟩

theorem constDeclaration_noLonger {name name' : String} {value value' : Tree}
    (hname : name.utf8ByteSize ≤ name'.utf8ByteSize) (hvalue : value.NoLonger value') :
    (constDeclaration name value).NoLonger (constDeclaration name' value') :=
  .node _ _ _ _ _ (.cons _ _ _ _ (.node _ _ _ _ _ (.cons _ _ _ _ (.ident _ _ hname)
    (.cons _ _ _ _ hvalue .nil))) .nil)

theorem less_withoutIdle {unused : List Identity} {tree rest : Tree}
    (hrest : tree.withoutIdle unused = some rest)
    (h : (rest.rename renames).NoLonger (rest.rename others)) :
    (rest.rename renames).Less (tree.rename others) := by
  unfold Tree.withoutIdle at hrest
  split at hrest
  · rename_i kind span declarators
    obtain ⟨hsome, hkept⟩ := Option.ite_none_left_eq_some.mp hrest
    generalize hleft : declarators.filter _ = kept at hsome hkept
    have hsub : kept.Sublist declarators := hleft ▸ List.filter_sublist
    obtain rfl := Option.some.inj hkept
    cases h with
    | node _ _ _ _ _ hchildren =>
      refine .declarators kind span span _ _ (List.sublistForall₂_iff.mpr
        ⟨renameList others kept, hchildren.forall₂, ?_⟩) ?_
      · rw [renameList_eq_map, renameList_eq_map]
        exact hsub.map _
      · rw [renameList_eq_map]
        simpa using hsome
  · obtain ⟨-, hsame⟩ := Option.ite_none_left_eq_some.mp hrest
    obtain rfl := Option.some.inj hsame
    exact .noLonger _ _ h

theorem Tree.Less.shrinks_statement {tree whole : Tree} (h : tree.Less whole) :
    Shrinks (printItem (.statement tree)) (printItem (.statement whole)) :=
  shrinks_seq (within_leading _ _).shrinks (shrinks_seq h.shrinks (within_trailing _ _).shrinks)

theorem Item.leftover_cases {unused : List Identity} {item rest : Item}
    (h : rest = item ∨ item.withoutIdle unused = some rest) :
    rest = item ∨
      (∃ tree kept, item = .statement tree ∧ rest = .statement kept ∧
        tree.withoutIdle unused = some kept) ∨
      ∃ tree kept span, item = .exportDecl tree span ∧ rest = .exportDecl kept span ∧
        tree.withoutIdle unused = some kept := by
  refine h.elim .inl fun h => ?_
  cases item with
  | statement tree =>
    obtain ⟨kept, hkept, rfl⟩ := Option.map_eq_some_iff.mp h
    exact .inr (.inl ⟨tree, kept, rfl, rfl, hkept⟩)
  | exportDecl decl span =>
    obtain ⟨kept, hkept, rfl⟩ := Option.map_eq_some_iff.mp h
    exact .inr (.inr ⟨decl, kept, span, rfl, rfl, hkept⟩)
  | exportDefaultDecl decl span =>
    obtain ⟨-, hsame⟩ := Option.ite_none_left_eq_some.mp h
    exact .inl (Option.some.inj hsame).symm
  | _ => exact .inl (Option.some.inj h).symm

variable {unnamed unnamed' : Option String}

theorem less_hoisted {item left : Item} (hunnamed : NoMore unnamed unnamed')
    (h : ∀ tree, item.tree? = some tree → (tree.rename renames).NoLonger (tree.rename others))
    (hleft : (item.rename renames).hoisted unnamed = some left) :
    ∃ tree whole, left = .statement tree ∧ tree.Less whole ∧
      (item.rename others).hoisted unnamed' = some (.statement whole) := by
  have hconst : ∀ {value value' : Tree}, value.NoLonger value' → ∀ tree,
      unnamed.map (constDeclaration · value) = some tree →
        ∃ whole, tree.Less whole ∧ unnamed'.map (constDeclaration · value') = some whole := by
    intro value value' hvalue tree htree
    obtain ⟨name, hname, rfl⟩ := Option.map_eq_some_iff.mp htree
    obtain ⟨name', hname', hsize⟩ := hunnamed name hname
    exact ⟨_, .noLonger _ _ (constDeclaration_noLonger hsize hvalue),
      Option.map_eq_some_iff.mpr ⟨name', hname', rfl⟩⟩
  cases item with
  | statement tree | exportDecl tree span =>
    obtain rfl := Option.some.inj hleft
    exact ⟨_, _, rfl, .noLonger _ _ (h _ rfl), rfl⟩
  | exportDefaultDecl decl span =>
    obtain ⟨tree, htree, rfl⟩ := Option.map_eq_some_iff.mp hleft
    have hdecl := h decl rfl
    rcases namedDeclaration?_noLonger hdecl with ⟨hnone, hnone'⟩ |
      ⟨named, named', hsome, hsome', hless⟩
    · rw [hnone, Option.none_or] at htree
      obtain ⟨whole, hless, hwhole⟩ := hconst hdecl tree htree
      refine ⟨tree, whole, rfl, hless, ?_⟩
      simp only [Item.rename, Item.hoisted, hnone', Option.none_or, hwhole, Option.map_some]
    · rw [hsome, Option.some_or] at htree
      obtain rfl := Option.some.inj htree
      refine ⟨_, named', rfl, .noLonger _ _ hless, ?_⟩
      simp only [Item.rename, Item.hoisted, hsome', Option.some_or, Option.map_some]
  | exportDefault value span =>
    obtain ⟨tree, htree, rfl⟩ := Option.map_eq_some_iff.mp hleft
    obtain ⟨whole, hless, hwhole⟩ := hconst (h value rfl) tree htree
    refine ⟨tree, whole, rfl, hless, ?_⟩
    simp only [Item.rename, Item.hoisted, hwhole, Option.map_some]
  | _ => cases hleft

/-- What is left of an item takes no more text, without its module syntax, than the whole item. -/
theorem shrinks_hoisted {unused : List Identity} {item rest left : Item}
    (hrest : rest = item ∨ item.withoutIdle unused = some rest) (hunnamed : NoMore unnamed unnamed')
    (h : ∀ tree, rest.tree? = some tree → (tree.rename renames).NoLonger (tree.rename others))
    (hleft : (rest.rename renames).hoisted unnamed = some left) :
    ∃ whole, (item.rename others).hoisted unnamed' = some whole ∧
      Shrinks (printItem left) (printItem whole) := by
  rcases Item.leftover_cases hrest with rfl | ⟨tree, kept, rfl, rfl, hkept⟩ |
    ⟨tree, kept, span, rfl, rfl, hkept⟩
  · obtain ⟨tree, whole, rfl, hless, hwhole⟩ := less_hoisted hunnamed h hleft
    exact ⟨_, hwhole, Tree.Less.shrinks_statement hless⟩
  all_goals
    obtain rfl := Option.some.inj hleft
    exact ⟨_, rfl, Tree.Less.shrinks_statement (less_withoutIdle hkept (h kept rfl))⟩

theorem Program.relieved_items (unused : List Identity) (program : Program) :
    ∃ left : Item → Option Item, (program.relieved unused).items = program.items.filterMap left ∧
      ∀ item rest, left item = some rest → rest = item ∨ item.withoutIdle unused = some rest := by
  unfold Program.relieved
  split
  · exact ⟨some, List.filterMap_some.symm, fun item rest h => .inl (Option.some.inj h).symm⟩
  · exact ⟨Item.withoutIdle unused, rfl, fun item rest h => .inr h⟩

theorem shrinks_statements (unused : List Identity) (program : Program)
    (hunnamed : NoMore unnamed unnamed') (h : (program.relieved unused).Terser renames others) :
    Shrinks
      ((((program.relieved unused).rename renames).items.filterMap
        (Item.hoisted unnamed)).forM printItem)
      (((program.rename others).items.filterMap (Item.hoisted unnamed')).forM printItem) := by
  obtain ⟨left, hitems, hleft⟩ := program.relieved_items unused
  refine shrinks_forM within_printItem ?_
  rw [Program.rename, Program.rename, List.filterMap_map, List.filterMap_map, hitems,
    List.filterMap_filterMap]
  refine sublistForall₂_filterMap fun item hitem result hresult => ?_
  obtain ⟨rest, hrest, hhoisted⟩ := Option.bind_eq_some_iff.mp hresult
  have hmem : rest ∈ (program.relieved unused).items :=
    hitems ▸ List.mem_filterMap.mpr ⟨item, hitem, hrest⟩
  exact shrinks_hoisted (hleft item rest hrest) hunnamed (fun _ htree => h.noLonger hmem htree)
    hhoisted

end

end ScopeHoist
