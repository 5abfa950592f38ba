import ScopeHoist.Parse.Program
import ScopeHoist.Print.Program
import ScopeHoist.Proofs.Places
import ScopeHoist.Scope.Program

/-!
# Renaming as substitution

A shorthand property is a key and an identifier in one. Once all of them are written out, with the
key in front of the value, no identifier is a key, and renaming is nothing but a change of spelling
made to each identifier at once. Keys, member names and labels are names and no identifiers, and so
they stay.
-/

set_option autoImplicit false

namespace ScopeHoist

/-! ## Trees without shorthands -/

def Ident.key (id : Ident) : Tree := .node (.name id.name) id.span []

mutual
/-- A tree whose shorthand properties, and shorthand entries of object patterns, have the key in
front of the value. -/
def Tree.writtenOut : Tree → Tree
  | .ident id => .ident id
  | .node .shorthand span [.ident id] => .node .property span [id.key, .ident id]
  | .node .shorthandPattern span [.ident id, value] =>
    .node .property span
      [id.key,
        if value.isAbsent then .ident id else .node .defaulted span [.ident id, value.writtenOut]]
  | .node form span children => .node form span (writtenOutList children)

def writtenOutList : List Tree → List Tree
  | [] => []
  | tree :: rest => tree.writtenOut :: writtenOutList rest
end

mutual
def Tree.mapIdents (change : Ident → Ident) : Tree → Tree
  | .ident id => .ident (change id)
  | .node form span children => .node form span (mapIdentsList change children)

def mapIdentsList (change : Ident → Ident) : List Tree → List Tree
  | [] => []
  | tree :: rest => tree.mapIdents change :: mapIdentsList change rest
end

/-- An identifier with the spelling that its identity has in a map. -/
def Ident.respelled (renames : Renames) (id : Ident) : Ident :=
  { id with name := (renames.lookup id.identity).getD id.name }

def Item.mapTree (change : Tree → Tree) : Item → Item
  | .statement tree => .statement (change tree)
  | .exportDecl decl span => .exportDecl (change decl) span
  | .exportDefaultDecl decl span => .exportDefaultDecl (change decl) span
  | .exportDefault value span => .exportDefault (change value) span
  | item => item

def Program.mapTrees (change : Tree → Tree) (program : Program) : Program :=
  { program with items := program.items.map (Item.mapTree change) }

def Program.writtenOut (program : Program) : Program := program.mapTrees Tree.writtenOut

/-- A program in which each identifier has the spelling that a map gives it. -/
def Program.substituted (renames : Renames) (program : Program) : Program :=
  program.mapTrees (Tree.mapIdents (Ident.respelled renames))

/-! ## What a tree is made of -/

mutual
def Tree.forms : Tree → List Form
  | .ident _ => []
  | .node form _ children => form :: formsOf children

def formsOf : List Tree → List Form
  | [] => []
  | tree :: rest => tree.forms ++ formsOf rest
end

mutual
theorem Tree.forms_mapIdents (change : Ident → Ident) (tree : Tree) :
    (tree.mapIdents change).forms = tree.forms := by
  match tree with
  | .ident id => rfl
  | .node form span children =>
    rw [Tree.mapIdents, Tree.forms, Tree.forms, formsOf_mapIdentsList change children]

theorem formsOf_mapIdentsList (change : Ident → Ident) (trees : List Tree) :
    formsOf (mapIdentsList change trees) = formsOf trees := by
  match trees with
  | [] => rfl
  | tree :: rest =>
    rw [mapIdentsList, formsOf, formsOf, tree.forms_mapIdents change,
      formsOf_mapIdentsList change rest]
end

mutual
theorem Tree.idents_mapIdents (change : Ident → Ident) (tree : Tree) :
    (tree.mapIdents change).idents = tree.idents.map change := by
  match tree with
  | .ident id => rfl
  | .node form span children =>
    rw [Tree.mapIdents, Tree.idents, Tree.idents, identsOf_mapIdentsList change children]

theorem identsOf_mapIdentsList (change : Ident → Ident) (trees : List Tree) :
    identsOf (mapIdentsList change trees) = (identsOf trees).map change := by
  match trees with
  | [] => rfl
  | tree :: rest =>
    rw [mapIdentsList, identsOf, identsOf, List.map_append, tree.idents_mapIdents change,
      identsOf_mapIdentsList change rest]
end

theorem Program.trees_mapTrees (change : Tree → Tree) (program : Program) :
    (program.mapTrees change).trees = program.trees.map change := by
  rw [trees, mapTrees, List.filterMap_map, trees, List.map_filterMap]
  congr 1
  funext item
  cases item <;> rfl

/-! ## Shorthands under new names -/

variable (renames : Renames)

theorem Ident.rename_eq_respelled (id : Ident) : id.rename renames = id.respelled renames := by
  have hlookup : renames.lookup id.identity =
      (renames.find? fun rename => rename.1 == id.identity).map Prod.snd := by
    induction renames with
    | nil => rfl
    | cons first rest ih =>
      rw [List.lookup_cons, List.find?_cons, BEq.comm]
      cases first.1 == id.identity with
      | true => rfl
      | false => exact ih
  rw [Ident.rename, Ident.respelled, hlookup, newName?]
  cases (renames.find? fun rename => rename.1 == id.identity) with
  | none => rfl
  | some rename => by_cases h : rename.2 = id.name <;> simp [Option.filter, h]

theorem Ident.respelled_of_not_mem (id : Ident) (h : id.identity ∉ renames.map Prod.fst) :
    id.respelled renames = id := by
  have hnone : renames.lookup id.identity = none := by
    refine List.lookup_eq_none_iff.mpr fun rename hmem => bne_iff_ne.mpr fun heq => h ?_
    rw [heq]
    exact List.mem_map_of_mem hmem
  rw [Ident.respelled, hnone]
  rfl

def isShorthand : Form → List Tree → Bool
  | .shorthand, [.ident _] => true
  | .shorthandPattern, [.ident _, _] => true
  | _, _ => false

theorem isShorthand_cases (form : Form) (children : List Tree)
    (h : isShorthand form children = true) :
    (form = .shorthand ∧ ∃ id, children = [.ident id]) ∨
      (form = .shorthandPattern ∧ ∃ id value, children = [.ident id, value]) := by
  unfold isShorthand at h
  split at h
  · exact .inl ⟨rfl, _, rfl⟩
  · exact .inr ⟨rfl, _, _, rfl⟩
  · exact absurd h nofun

theorem writtenOut_node (form : Form) (span : Span) (children : List Tree)
    (h : isShorthand form children = false) :
    (Tree.node form span children).writtenOut = .node form span (writtenOutList children) := by
  rw [Tree.writtenOut]
  · rintro id rfl rfl
    exact absurd h nofun
  · rintro id value rfl rfl
    exact absurd h nofun

theorem isShorthand_renameList (form : Form) (children : List Tree) :
    isShorthand form (renameList renames children) = isShorthand form children := by
  match children with
  | [] => rfl
  | .ident id :: rest => match rest with
    | [] | [_] | _ :: _ :: _ => cases form <;> rfl
  | .node form' span children' :: rest =>
    obtain ⟨_, _, _, h⟩ := rename_node_isNode renames form' span children'
    rw [renameList, h]
    cases form <;> rfl

theorem rename_of_not_shorthand (form : Form) (span : Span) (children : List Tree)
    (h : isShorthand form children = false) :
    (Tree.node form span children).rename renames =
      .node form span (renameList renames children) := by
  rcases rename_node renames form span children with heq | ⟨rfl, id, rfl, -⟩ |
    ⟨rfl, id, value, rfl, -⟩
  · exact heq
  · exact absurd h nofun
  · exact absurd h nofun

theorem isAbsent_rename (tree : Tree) : (tree.rename renames).isAbsent = tree.isAbsent := by
  cases tree with
  | ident id => rfl
  | node form span children =>
    rcases rename_node renames form span children with h | ⟨rfl, id, rfl, h⟩ |
      ⟨rfl, id, value, rfl, h⟩
    · rw [h]
      cases form
      case absent => cases children <;> rfl
      all_goals rfl
    · rw [h]
      rfl
    · rw [h]
      split <;> rfl

theorem key_rename (id : Ident) (h : newName? renames id = none) :
    (id.rename renames).key = id.key := by
  rw [Ident.rename, h]
  rfl

theorem writtenOut_rename_shorthand (span : Span) (id : Ident) :
    ((Tree.node .shorthand span [.ident id]).rename renames).writtenOut =
      .node .property span [id.key, .ident (id.rename renames)] := by
  change (renameShorthand renames .shorthand span id []).writtenOut = _
  unfold renameShorthand
  cases hname : newName? renames id with
  | none =>
    change Tree.node .property span [(id.rename renames).key, _] = _
    rw [key_rename renames id hname]
  | some name => rfl

theorem writtenOut_rename_shorthandPattern (span : Span) (id : Ident) (value : Tree) :
    ((Tree.node .shorthandPattern span [.ident id, value]).rename renames).writtenOut =
      .node .property span
        [id.key,
          if value.isAbsent then .ident (id.rename renames)
          else .node .defaulted span
            [.ident (id.rename renames), (value.rename renames).writtenOut]] := by
  change (renameShorthand renames .shorthandPattern span id [value.rename renames]).writtenOut = _
  unfold renameShorthand
  cases hname : newName? renames id with
  | none =>
    change Tree.node .property span [(id.rename renames).key, _] = _
    rw [key_rename renames id hname, isAbsent_rename]
  | some name =>
    simp only [Option.isNone_some, Bool.false_eq_true, if_false, isAbsent_rename]
    cases value.isAbsent <;> rfl

mutual
/-- Renaming a tree and writing it out is writing it out and giving each identifier its spelling. -/
theorem Tree.writtenOut_rename (tree : Tree) :
    (tree.rename renames).writtenOut = tree.writtenOut.mapIdents (Ident.respelled renames) := by
  match tree with
  | .ident id => exact congrArg Tree.ident (id.rename_eq_respelled renames)
  | .node form span children =>
    have hchildren := writtenOutList_renameList children
    cases hshape : isShorthand form children with
    | false =>
      rw [rename_of_not_shorthand renames form span children hshape,
        writtenOut_node _ _ _ ((isShorthand_renameList renames form children).trans hshape),
        writtenOut_node _ _ _ hshape, hchildren, Tree.mapIdents]
    | true =>
      rcases isShorthand_cases form children hshape with ⟨rfl, id, rfl⟩ | ⟨rfl, id, value, rfl⟩
      · rw [writtenOut_rename_shorthand, id.rename_eq_respelled]
        rfl
      · -- The default is among the children, and so the list says what becomes of it.
        obtain ⟨-, hvalue, -⟩ : _ ∧ (value.rename renames).writtenOut = _ ∧ _ := by
          simpa only [renameList, writtenOutList, mapIdentsList, List.cons.injEq] using hchildren
        rw [writtenOut_rename_shorthandPattern, id.rename_eq_respelled, hvalue, Tree.writtenOut]
        cases value.isAbsent <;> rfl

theorem writtenOutList_renameList (trees : List Tree) :
    writtenOutList (renameList renames trees) =
      mapIdentsList (Ident.respelled renames) (writtenOutList trees) := by
  match trees with
  | [] => rfl
  | tree :: rest =>
    rw [renameList, writtenOutList, writtenOutList, mapIdentsList, tree.writtenOut_rename,
      writtenOutList_renameList rest]
end

/-! ## Programs -/

theorem Program.writtenOut_rename (program : Program) :
    (program.rename renames).writtenOut = program.writtenOut.substituted renames := by
  rw [writtenOut, writtenOut, substituted, mapTrees, mapTrees, mapTrees, rename]
  simp only [List.map_map]
  congr 1
  refine List.map_congr_left fun item _ => ?_
  cases item with
  | statement tree => exact congrArg Item.statement (tree.writtenOut_rename renames)
  | exportDecl decl span => exact congrArg (Item.exportDecl · span) (decl.writtenOut_rename renames)
  | exportDefaultDecl decl span =>
    exact congrArg (Item.exportDefaultDecl · span) (decl.writtenOut_rename renames)
  | exportDefault value span =>
    exact congrArg (Item.exportDefault · span) (value.writtenOut_rename renames)
  | _ => rfl

/-- Renaming is a simultaneous substitution in the program without shorthands. All forms stay, keys,
member names and labels among them, and so do identifiers that the map says nothing of. -/
theorem rename_substitutes (program : Program) :
    (program.rename renames).writtenOut = program.writtenOut.substituted renames ∧
      (program.rename renames).writtenOut.trees.map Tree.forms =
        program.writtenOut.trees.map Tree.forms ∧
      (program.rename renames).writtenOut.trees.map Tree.idents =
        program.writtenOut.trees.map (fun tree => tree.idents.map (Ident.respelled renames)) ∧
      ∀ id : Ident, id.identity ∉ renames.map Prod.fst → id.respelled renames = id := by
  have hequal := program.writtenOut_rename renames
  have htrees := congrArg Program.trees hequal
  rw [Program.substituted, Program.trees_mapTrees] at htrees
  refine ⟨hequal, ?_, ?_, Ident.respelled_of_not_mem renames⟩
  · rw [htrees, List.map_map]
    exact List.map_congr_left fun tree _ => tree.forms_mapIdents _
  · rw [htrees, List.map_map]
    exact List.map_congr_left fun tree _ => tree.idents_mapIdents _

/-- A program in which two names swap their places, in shorthands inside of each other's defaults
and next to keys, a label and a parameter of the same spelling. -/
def swapping : Program :=
  match Program.ofText? 1
      "let a=1,b={a,b:a.b};a:for({a=({b=a}=b)}of[a=>a])break a;export{a as b}".toList with
  | .ok (program, _) => program.resolve
  | .error _ => default

def swap : Renames := [(⟨"a", .module⟩, "b"), (⟨"b", .module⟩, "a")]

set_option maxRecDepth 100000 in
theorem rename_substitutes_swap :
    (swapping.rename swap).text .none true =
        "let b=1,a={a:b,b:b.b};a:for({a:b=({b:a=b}=a)}of[a=>a])break a;export{a as b};" ∧
      (swapping.rename swap).writtenOut = swapping.writtenOut.substituted swap ∧
      (⟨"a", .nested 0, .generated⟩ : Ident).respelled swap = ⟨"a", .nested 0, .generated⟩ :=
  have hswap := rename_substitutes swap swapping
  ⟨by decide +kernel, hswap.1, hswap.2.2.2 _ (by decide)⟩

end ScopeHoist
