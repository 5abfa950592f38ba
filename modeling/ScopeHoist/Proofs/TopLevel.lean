import ScopeHoist.Link.Statements
import ScopeHoist.Proofs.Occurrences
import ScopeHoist.Proofs.Soundness
import ScopeHoist.Shake.Declarations

/-!
# The top level of a program

What a program declares in its outermost scope: what it imports, the declarations among its items,
and the `var`s in the statements of its items, down to the next function. All of these are declaring
occurrences, renaming keeps them in place, and taking idle declarations out takes out none but those
that are said to go.
-/

set_option autoImplicit false

namespace ScopeHoist

/-- Whether a form is a statement with other statements in it that no function is around. -/
def Form.nests : Form → Bool
  | .block | .ifThen | .while | .doWhile | .for | .forIn | .forOf _ | .labeled | .switch | .case
  | .try | .catch => true
  | _ => false

mutual
/-- What the `var`s of a statement declare. -/
def Tree.vars : Tree → List Ident
  | .ident _ => []
  | .node (.variableDecl .hoisted) span declarators =>
    declaredIdents (.node (.variableDecl .hoisted) span declarators)
  | .node form _ children => if form.nests then varsList children else []

def varsList : List Tree → List Ident
  | [] => []
  | tree :: rest => tree.vars ++ varsList rest
end

/-- What a statement of the outermost scope declares there. -/
def Tree.topLevel (tree : Tree) : List Ident :=
  match tree with
  | .node (.variableDecl _) _ _ | .node (.functionDecl _) _ _ | .node .classDecl _ _ =>
    declaredIdents tree
  | _ => tree.vars

def Item.topLevel : Item → List Ident
  | .statement tree => tree.topLevel
  | .importFrom specifiers _ _ => specifiers.map ImportSpecifier.target
  | .exportDecl decl _ => decl.topLevel
  | .exportDefaultDecl decl _ => ((namedDeclaration? decl).map Tree.topLevel).getD []
  | _ => []

def Program.topLevel (program : Program) : List Ident := program.items.flatMap Item.topLevel

def declaratorIdents : Tree → List Ident
  | .node .declarator _ (pattern :: _) => patternIdents pattern
  | _ => []

theorem declaredIdents_variableDecl (kind : VarKind) (span : Span) (declarators : List Tree) :
    declaredIdents (.node (.variableDecl kind) span declarators) =
      declarators.flatMap declaratorIdents := rfl

def headIdents : List Tree → List Ident
  | .ident id :: _ => [id]
  | _ => []

theorem topLevel_functionDecl (kind : FunctionKind) (span : Span) (parts : List Tree) :
    (Tree.node (.functionDecl kind) span parts).topLevel = headIdents parts := by
  match parts with
  | [] | .ident _ :: _ | .node _ _ _ :: _ => rfl

theorem topLevel_classDecl (span : Span) (parts : List Tree) :
    (Tree.node .classDecl span parts).topLevel = headIdents parts := by
  match parts with
  | [] | .ident _ :: _ | .node _ _ _ :: _ => rfl

theorem childOccurrences_congr (form form' : Form)
    (h : ∀ place role, childRole form place role = childRole form' place role) (place : Nat)
    (role : Role) (trees : List Tree) :
    childOccurrences form place role trees = childOccurrences form' place role trees := by
  induction trees generalizing place with
  | nil => rfl
  | cons tree rest ih => rw [childOccurrences, childOccurrences, h, ih]

theorem declaratorIdentities_eq (declarator : Tree) :
    declaratorIdentities declarator = (declaratorIdents declarator).map Ident.identity := by
  match declarator with
  | .ident _ => rfl
  | .node form _ [] | .node form _ (pattern :: _) => cases form <;> rfl

theorem namedDeclaration?_cases (decl result : Tree) (h : namedDeclaration? decl = some result) :
    ∃ id, soleIdentity? decl = some id.identity ∧ result.topLevel = [id] ∧
      declaredIdents decl = [id] ∧ ∀ role, result.occurrences role = decl.occurrences role := by
  unfold namedDeclaration? at h
  split at h
  · rename_i kind span id rest
    obtain rfl := Option.some.inj h
    exact ⟨id, rfl, rfl, rfl, fun role => childOccurrences_congr (.functionDecl kind)
      (.function kind) (fun _ _ => rfl) 0 role _⟩
  · rename_i span id rest
    obtain rfl := Option.some.inj h
    exact ⟨id, rfl, rfl, rfl, fun role => childOccurrences_congr .classDecl .classExpr
      (fun _ _ => rfl) 0 role _⟩
  · exact absurd h nofun

/-! ## New spellings -/

section

variable (renames : Renames)

theorem declaratorIdents_rename (declarator : Tree) :
    declaratorIdents (declarator.rename renames) =
      (declaratorIdents declarator).map (Ident.rename renames) := by
  cases declarator with
  | ident id => rfl
  | node form span children =>
    rcases rename_node renames form span children with h | ⟨rfl, id, rfl, h⟩ |
      ⟨rfl, id, value, rfl, h⟩
    · rw [h]
      cases form
      case declarator =>
        cases children with
        | nil => rfl
        | cons pattern rest => exact patternIdents_rename renames pattern
      all_goals rfl
    · rw [h]
      rfl
    · rw [h]
      split <;> rfl

theorem declaredIdents_rename_variableDecl (kind : VarKind) (span : Span)
    (declarators : List Tree) :
    declaredIdents (.node (.variableDecl kind) span (renameList renames declarators)) =
      (declaredIdents (.node (.variableDecl kind) span declarators)).map
        (Ident.rename renames) := by
  simp only [declaredIdents_variableDecl, renameList_eq_map, List.flatMap_map, List.map_flatMap,
    declaratorIdents_rename]

mutual
theorem Tree.vars_rename (tree : Tree) :
    (tree.rename renames).vars = tree.vars.map (Ident.rename renames) := by
  match tree with
  | .ident id => rfl
  | .node form span children =>
    have hchildren := varsList_rename children
    rcases rename_node renames form span children with h | ⟨rfl, id, rfl, h⟩ |
      ⟨rfl, id, value, rfl, h⟩
    · rw [h]
      cases form
      case variableDecl kind =>
        cases kind
        case hoisted => exact declaredIdents_rename_variableDecl renames .hoisted span children
        all_goals rfl
      case block | ifThen | «while» | doWhile | «for» | forIn | forOf | labeled | switch | case
          | «try» | «catch» =>
        exact hchildren
      all_goals rfl
    · rw [h]
      rfl
    · rw [h]
      split <;> rfl

theorem varsList_rename (trees : List Tree) :
    varsList (renameList renames trees) = (varsList trees).map (Ident.rename renames) := by
  match trees with
  | [] => rfl
  | tree :: rest =>
    rw [renameList, varsList, varsList, List.map_append, tree.vars_rename, varsList_rename rest]
end

theorem headIdents_rename (trees : List Tree) :
    headIdents (renameList renames trees) = (headIdents trees).map (Ident.rename renames) := by
  match trees with
  | [] => rfl
  | .ident id :: rest => rfl
  | .node form span children :: rest =>
    obtain ⟨form', span', children', h⟩ := rename_node_isNode renames form span children
    rw [renameList, h]
    rfl

theorem Tree.topLevel_rename (tree : Tree) :
    (tree.rename renames).topLevel = tree.topLevel.map (Ident.rename renames) := by
  have hvars := tree.vars_rename renames
  match tree with
  | .ident id => rfl
  | .node form span children =>
    rcases rename_node renames form span children with h | ⟨rfl, id, rfl, h⟩ |
      ⟨rfl, id, value, rfl, h⟩
    · rw [h] at hvars ⊢
      cases form
      case variableDecl kind => exact declaredIdents_rename_variableDecl renames kind span children
      case functionDecl kind =>
        rw [topLevel_functionDecl, topLevel_functionDecl, headIdents_rename]
      case classDecl => rw [topLevel_classDecl, topLevel_classDecl, headIdents_rename]
      all_goals exact hvars
    · rw [h]
      rfl
    · rw [h]
      split <;> rfl

end

/-! ## Declaring occurrences -/

theorem declaratorIdents_occur (declarators : List Tree) (kind : VarKind) (place : Nat)
    (role : Role)
    (id : Ident) (h : id ∈ declarators.flatMap declaratorIdents) :
    ⟨id, .declares (.variable kind)⟩ ∈
      childOccurrences (.variableDecl kind) place role declarators := by
  induction declarators generalizing place with
  | nil => exact absurd h List.not_mem_nil
  | cons declarator rest ih =>
    rw [childOccurrences, List.mem_append]
    rw [List.flatMap_cons, List.mem_append] at h
    refine h.imp (fun hid => ?_) (ih (place + 1))
    unfold declaratorIdents at hid
    split at hid
    · rw [Tree.occurrences, childOccurrences]
      exact List.mem_append_left _ (patternIdents_occur _ _ id hid)
    · exact absurd hid List.not_mem_nil

theorem headIdents_occur (form : Form) (role : Role) (kind : BindingKind)
    (hrole : childRole form 0 role = .declares kind) (parts : List Tree) (id : Ident)
    (h : id ∈ headIdents parts) : ⟨id, .declares kind⟩ ∈ childOccurrences form 0 role parts := by
  match parts, h with
  | .ident other :: rest, h =>
    obtain rfl := List.mem_singleton.mp h
    rw [childOccurrences, hrole]
    exact List.mem_append_left _ (List.mem_singleton.mpr rfl)

mutual
theorem Tree.vars_occur (tree : Tree) (role : Role) (id : Ident) (h : id ∈ tree.vars) :
    ∃ kind, ⟨id, .declares kind⟩ ∈ tree.occurrences role := by
  match tree with
  | .ident _ => exact absurd h List.not_mem_nil
  | .node form span children =>
    rw [Tree.occurrences]
    cases form
    case variableDecl kind =>
      cases kind
      case hoisted => exact ⟨_, declaratorIdents_occur children .hoisted 0 role id h⟩
      all_goals exact absurd h List.not_mem_nil
    case block | ifThen | «while» | doWhile | «for» | forIn | forOf | labeled | switch | case
        | «try» | «catch» =>
      exact varsList_occur _ 0 role children id h
    all_goals exact absurd h List.not_mem_nil

theorem varsList_occur (form : Form) (place : Nat) (role : Role) (trees : List Tree) (id : Ident)
    (h : id ∈ varsList trees) :
    ∃ kind, ⟨id, .declares kind⟩ ∈ childOccurrences form place role trees := by
  match trees with
  | [] => exact absurd h List.not_mem_nil
  | tree :: rest =>
    rw [childOccurrences]
    rcases List.mem_append.mp h with h | h
    · obtain ⟨kind, hkind⟩ := tree.vars_occur (childRole form place role) id h
      exact ⟨kind, List.mem_append_left _ hkind⟩
    · obtain ⟨kind, hkind⟩ := varsList_occur form (place + 1) role rest id h
      exact ⟨kind, List.mem_append_right _ hkind⟩
end

theorem Tree.topLevel_occur (tree : Tree) (role : Role) (id : Ident) (h : id ∈ tree.topLevel) :
    ∃ kind, ⟨id, .declares kind⟩ ∈ tree.occurrences role := by
  match tree with
  | .ident _ => exact absurd h List.not_mem_nil
  | .node form span children =>
    cases form
    case variableDecl kind =>
      exact ⟨_, declaratorIdents_occur children kind 0 role id h⟩
    case functionDecl kind =>
      rw [topLevel_functionDecl] at h
      exact ⟨_, headIdents_occur (.functionDecl kind) role _ rfl children id h⟩
    case classDecl =>
      rw [topLevel_classDecl] at h
      exact ⟨_, headIdents_occur .classDecl role _ rfl children id h⟩
    all_goals exact Tree.vars_occur _ role id h

theorem Item.topLevel_occur (item : Item) (id : Ident) (h : id ∈ item.topLevel) :
    id.name ∈ item.importedNames ∨ ∃ kind, ⟨id, .declares kind⟩ ∈ item.occurrences := by
  cases item with
  | statement tree => exact .inr (tree.topLevel_occur .reads id h)
  | importFrom specifiers source span =>
    obtain ⟨specifier, hspecifier, rfl⟩ := List.mem_map.mp h
    exact .inl (List.mem_map_of_mem hspecifier)
  | exportDecl decl span => exact .inr (decl.topLevel_occur .reads id h)
  | exportDefaultDecl decl span =>
    simp only [Item.topLevel] at h
    cases hnamed : namedDeclaration? decl with
    | none => simp [hnamed] at h
    | some result =>
      obtain ⟨-, -, -, -, hoccurrences⟩ := namedDeclaration?_cases decl result hnamed
      rw [hnamed] at h
      obtain ⟨kind, hkind⟩ := result.topLevel_occur .reads id h
      rw [hoccurrences] at hkind
      exact .inr ⟨kind, hkind⟩
  | _ => exact absurd h List.not_mem_nil

/-! ## Taking out idle declarations -/

section

variable (unused : List Identity)

theorem filter_occurrences_subset (keep : Tree → Bool) (kind : VarKind) (place place' : Nat)
    (role : Role) (declarators : List Tree) :
    childOccurrences (.variableDecl kind) place role (declarators.filter keep) ⊆
      childOccurrences (.variableDecl kind) place' role declarators := by
  induction declarators generalizing place place' with
  | nil => exact List.Subset.refl _
  | cons declarator rest ih =>
    rw [List.filter_cons, childOccurrences]
    split
    · rw [childOccurrences]
      exact List.append_subset.mpr ⟨List.subset_append_left _ _,
        List.Subset.trans (ih (place + 1) (place' + 1)) (List.subset_append_right _ _)⟩
    · exact List.Subset.trans (ih place (place' + 1)) (List.subset_append_right _ _)

theorem Tree.withoutIdle_occurrences (tree rest : Tree) (h : tree.withoutIdle unused = some rest)
    (role : Role) : rest.occurrences role ⊆ tree.occurrences role := by
  unfold Tree.withoutIdle at h
  split at h
  · rename_i kind span declarators
    dsimp only at h
    split at h
    · exact absurd h nofun
    · obtain rfl := Option.some.inj h
      exact filter_occurrences_subset _ kind 0 0 role declarators
  · split at h
    · exact absurd h nofun
    · obtain rfl := Option.some.inj h
      exact List.Subset.refl _

theorem Item.withoutIdle_occurrences (item rest : Item) (h : item.withoutIdle unused = some rest) :
    rest.occurrences ⊆ item.occurrences := by
  cases item with
  | statement tree =>
    obtain ⟨tree', htree, rfl⟩ := Option.map_eq_some_iff.mp h
    exact tree.withoutIdle_occurrences unused tree' htree .reads
  | exportDecl decl span =>
    obtain ⟨decl', hdecl, rfl⟩ := Option.map_eq_some_iff.mp h
    exact decl.withoutIdle_occurrences unused decl' hdecl .reads
  | exportDefaultDecl decl span =>
    simp only [Item.withoutIdle] at h
    split at h
    · exact absurd h nofun
    · obtain rfl := Option.some.inj h
      exact List.Subset.refl _
  | _ =>
    obtain rfl := Option.some.inj h
    exact List.Subset.refl _

theorem mem_idle_or_left_of_sole (tree : Tree) (id : Ident)
    (hsole : soleIdentity? tree = some id.identity)
    (hidle : ∀ identity, identity ∈ (soleIdentity? tree).toList.filter unused.contains →
      identity ∈ tree.idleIdentities unused)
    (hleft : tree.withoutIdle unused = if tree.isIdleSole unused then none else some tree)
    (h : id ∈ tree.topLevel) :
    id.identity ∈ tree.idleIdentities unused ∨
      ∃ rest, tree.withoutIdle unused = some rest ∧ id ∈ rest.topLevel := by
  by_cases hcontains : unused.contains id.identity = true
  · exact .inl (hidle _ (List.mem_filter.mpr ⟨by simp [hsole], hcontains⟩))
  · refine .inr ⟨tree, ?_, h⟩
    rw [hleft, if_neg]
    simpa [Tree.isIdleSole, hsole] using hcontains

/-- A declaration of the outermost scope is among those that go, or it is left. -/
theorem Tree.topLevel_withoutIdle (tree : Tree) (id : Ident) (h : id ∈ tree.topLevel) :
    id.identity ∈ tree.idleIdentities unused ∨
      ∃ rest, tree.withoutIdle unused = some rest ∧ id ∈ rest.topLevel := by
  match tree with
  | .ident _ => exact absurd h List.not_mem_nil
  | .node form span children =>
    cases form
    case variableDecl kind =>
      obtain ⟨declarator, hdeclarator, hid⟩ := List.mem_flatMap.mp h
      by_cases hidle : isIdle unused declarator = true
      · refine .inl (List.mem_flatMap.mpr
          ⟨declarator, List.mem_filter.mpr ⟨hdeclarator, hidle⟩, ?_⟩)
        rw [declaratorIdentities_eq]
        exact List.mem_map_of_mem hid
      · have hkept : declarator ∈ children.filter fun declarator => !isIdle unused declarator :=
          List.mem_filter.mpr ⟨hdeclarator, by simpa using hidle⟩
        refine .inr ⟨_, if_neg fun hempty => ?_, List.mem_flatMap.mpr ⟨declarator, hkept, hid⟩⟩
        rw [List.isEmpty_iff.mp hempty] at hkept
        exact List.not_mem_nil hkept
    case functionDecl kind =>
      rw [topLevel_functionDecl] at h
      match children, h with
      | .ident other :: rest, h =>
        obtain rfl := List.mem_singleton.mp h
        exact mem_idle_or_left_of_sole unused _ id rfl (fun _ hidle => hidle) rfl h
    case classDecl =>
      rw [topLevel_classDecl] at h
      match children, h with
      | .ident other :: rest, h =>
        obtain rfl := List.mem_singleton.mp h
        exact mem_idle_or_left_of_sole unused _ id rfl (fun _ hidle => hidle) rfl h
    case function | classExpr => exact absurd h List.not_mem_nil
    all_goals exact .inr ⟨_, rfl, h⟩

theorem Item.topLevel_withoutIdle (item : Item) (id : Ident) (h : id ∈ item.topLevel) :
    id.identity ∈ item.idleIdentities unused ∨
      ∃ rest, item.withoutIdle unused = some rest ∧ id ∈ rest.topLevel := by
  cases item with
  | statement tree =>
    refine (tree.topLevel_withoutIdle unused id h).imp_right fun ⟨rest, hrest, hid⟩ => ?_
    exact ⟨.statement rest, by simp [Item.withoutIdle, hrest], hid⟩
  | exportDecl decl span =>
    refine (decl.topLevel_withoutIdle unused id h).imp_right fun ⟨rest, hrest, hid⟩ => ?_
    exact ⟨.exportDecl rest span, by simp [Item.withoutIdle, hrest], hid⟩
  | exportDefaultDecl decl span =>
    have hmem := h
    simp only [Item.topLevel] at h
    cases hnamed : namedDeclaration? decl with
    | none => simp [hnamed] at h
    | some result =>
      obtain ⟨other, hsole, htop, -, -⟩ := namedDeclaration?_cases decl result hnamed
      rw [hnamed] at h
      obtain rfl := List.mem_singleton.mp (htop ▸ h : id ∈ [other])
      by_cases hcontains : unused.contains id.identity = true
      · exact .inl (List.mem_filter.mpr ⟨by simp [hsole], hcontains⟩)
      · refine .inr ⟨.exportDefaultDecl decl span, ?_, hmem⟩
        rw [Item.withoutIdle, if_neg]
        simpa [Tree.isIdleSole, hsole] using hcontains
  | _ => exact .inr ⟨_, rfl, h⟩

theorem Program.topLevel_withoutIdle (program : Program) (id : Ident) (h : id ∈ program.topLevel) :
    id.identity ∈ program.idleIdentities unused ∨ id ∈ (program.withoutIdle unused).topLevel := by
  obtain ⟨item, hitem, hid⟩ := List.mem_flatMap.mp h
  refine (item.topLevel_withoutIdle unused id hid).imp
    (fun hidle => List.mem_flatMap.mpr ⟨item, hitem, hidle⟩) fun ⟨rest, hrest, hid⟩ => ?_
  exact List.mem_flatMap.mpr ⟨rest, List.mem_filterMap.mpr ⟨item, hitem, hrest⟩, hid⟩

theorem Program.withoutIdle_item (program : Program) (rest : Item)
    (h : rest ∈ (program.withoutIdle unused).items) :
    ∃ item ∈ program.items, item.withoutIdle unused = some rest ∧
      rest.occurrences ⊆ item.occurrences := by
  obtain ⟨item, hitem, hrest⟩ := List.mem_filterMap.mp h
  exact ⟨item, hitem, hrest, item.withoutIdle_occurrences unused rest hrest⟩

end

end ScopeHoist
