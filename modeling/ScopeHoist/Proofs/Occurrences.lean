import ScopeHoist.Scope.Rename
import ScopeHoist.Scope.Usage

/-!
# Occurrences and new spellings

Renaming moves no identifier and changes none of the roles: the occurrences of what is renamed are
the renamed occurrences. The same holds for the identifiers that a pattern binds, and each of these
is an occurrence that does what its pattern does.
-/

set_option autoImplicit false

namespace ScopeHoist

def Occurrence.rename (renames : Renames) (occurrence : Occurrence) : Occurrence :=
  { occurrence with ident := occurrence.ident.rename renames }

variable (renames : Renames)

theorem renameList_eq_map (trees : List Tree) :
    renameList renames trees = trees.map (Tree.rename renames) := by
  induction trees with
  | nil => rfl
  | cons first rest ih => rw [renameList, ih, List.map_cons]

theorem rename_node (form : Form) (span : Span) (children : List Tree) :
    (Tree.node form span children).rename renames = .node form span (renameList renames children) ∨
      (form = .shorthand ∧ ∃ id, children = [.ident id] ∧
        (Tree.node form span children).rename renames =
          expanded id span (.ident (id.rename renames))) ∨
      (form = .shorthandPattern ∧ ∃ id value, children = [.ident id, value] ∧
        (Tree.node form span children).rename renames =
          if (value.rename renames).isAbsent then expanded id span (.ident (id.rename renames))
          else expanded id span
            (.node .defaulted span [.ident (id.rename renames), value.rename renames])) := by
  generalize hresult : (Tree.node form span children).rename renames = result
  unfold Tree.rename at hresult
  split at hresult
  · rename_i heq
    cases heq
  · rename_i id values heq
    cases heq
    unfold renameShorthand at hresult
    subst hresult
    cases values with
    | nil =>
      by_cases h : (newName? renames id).isNone
      · exact .inl (by simp [h, renameList, Tree.rename])
      · exact .inr (.inl ⟨rfl, id, rfl, by simp [h, renameList]⟩)
    | cons value rest => exact .inl (by simp [renameList, Tree.rename])
  · rename_i id values heq
    cases heq
    unfold renameShorthand at hresult
    subst hresult
    match values with
    | [] => exact .inl (by simp [renameList, Tree.rename])
    | [value] =>
      by_cases h : (newName? renames id).isNone
      · exact .inl (by simp [h, renameList, Tree.rename])
      · exact .inr (.inr ⟨rfl, id, value, rfl, by simp [h, renameList]⟩)
    | first :: second :: rest => exact .inl (by simp [renameList, Tree.rename])
  · rename_i heq
    cases heq
    exact .inl hresult.symm

theorem rename_node_isNode (form : Form) (span : Span) (children : List Tree) :
    ∃ form' span' children',
      (Tree.node form span children).rename renames = .node form' span' children' := by
  rcases rename_node renames form span children with h | ⟨-, id, -, h⟩ | ⟨-, id, value, -, h⟩
  · exact ⟨_, _, _, h⟩
  · exact ⟨_, _, _, h⟩
  · rw [h]
    split <;> exact ⟨_, _, _, rfl⟩

theorem occurrences_of_isAbsent (tree : Tree) (role : Role) (h : tree.isAbsent = true) :
    tree.occurrences role = [] := by
  unfold Tree.isAbsent at h
  split at h
  · rfl
  · exact absurd h Bool.false_ne_true

theorem occurrences_expanded (id : Ident) (span : Span) (value : Tree) (role : Role) :
    (expanded id span value).occurrences role = value.occurrences role := by
  simp [expanded, Tree.occurrences, childOccurrences, childRole]

mutual
theorem Tree.occurrences_rename (tree : Tree) (role : Role) :
    (tree.rename renames).occurrences role =
      (tree.occurrences role).map (Occurrence.rename renames) := by
  match tree with
  | .ident id => rfl
  | .node form span children =>
    have hchildren := childOccurrences_rename form 0 role children
    rcases rename_node renames form span children with h | ⟨rfl, id, rfl, h⟩ |
      ⟨rfl, id, value, rfl, h⟩
    · rw [h, Tree.occurrences, Tree.occurrences, hchildren]
    · rw [h, occurrences_expanded]
      rfl
    · rw [h, Tree.occurrences, ← hchildren]
      simp only [renameList, childOccurrences, List.append_nil]
      split
      · rename_i habsent
        rw [occurrences_expanded, occurrences_of_isAbsent _ _ habsent, List.append_nil]
        rfl
      · rw [occurrences_expanded]
        simp [Tree.occurrences, childOccurrences, childRole, Tree.rename]

theorem childOccurrences_rename (form : Form) (place : Nat) (role : Role) (trees : List Tree) :
    childOccurrences form place role (renameList renames trees) =
      (childOccurrences form place role trees).map (Occurrence.rename renames) := by
  match trees with
  | [] => rfl
  | tree :: rest =>
    rw [renameList, childOccurrences, childOccurrences, List.map_append,
      tree.occurrences_rename (childRole form place role),
      childOccurrences_rename form (place + 1) role rest]
end

/-! ## Patterns -/

mutual
theorem patternIdents_rename (pattern : Tree) :
    patternIdents (pattern.rename renames) =
      (patternIdents pattern).map (Ident.rename renames) := by
  match pattern with
  | .ident id => rfl
  | .node form span children =>
    have hchildren := patternListIdents_rename children
    rcases rename_node renames form span children with h | ⟨rfl, id, rfl, h⟩ |
      ⟨rfl, id, value, rfl, h⟩
    · rw [h]
      cases form
      case arrayPattern => simpa [patternIdents] using hchildren
      case objectPattern => simpa [patternIdents] using hchildren
      case property =>
        match children with
        | [] | [_] | _ :: _ :: _ :: _ => rfl
        | [_, value] => exact patternIdents_rename value
      case shorthandPattern =>
        match children with
        | [] => rfl
        | name :: _ => exact patternIdents_rename name
      case shorthand =>
        match children with
        | [] => rfl
        | name :: _ => exact patternIdents_rename name
      case defaulted =>
        match children with
        | [] => rfl
        | pattern :: _ => exact patternIdents_rename pattern
      case rest =>
        match children with
        | [] | _ :: _ :: _ => rfl
        | [pattern] => exact patternIdents_rename pattern
      all_goals rfl
    · rw [h]
      rfl
    · rw [h]
      split <;> rfl

theorem patternListIdents_rename (patterns : List Tree) :
    patternListIdents (renameList renames patterns) =
      (patternListIdents patterns).map (Ident.rename renames) := by
  match patterns with
  | [] => rfl
  | pattern :: rest =>
    rw [renameList, patternListIdents, patternListIdents, List.map_append,
      patternIdents_rename pattern, patternListIdents_rename rest]
end

mutual
theorem patternIdents_occur (pattern : Tree) (role : Role) (id : Ident)
    (h : id ∈ patternIdents pattern) : ⟨id, role⟩ ∈ pattern.occurrences role := by
  match pattern with
  | .ident other =>
    obtain rfl := List.mem_singleton.mp h
    exact List.mem_singleton.mpr rfl
  | .node form span children =>
    rw [Tree.occurrences]
    cases form
    case arrayPattern =>
      exact patternListIdents_occur .arrayPattern (fun _ _ => rfl) 0 role children id h
    case objectPattern =>
      exact patternListIdents_occur .objectPattern (fun _ _ => rfl) 0 role children id h
    case property =>
      match children, h with
      | [_, value], h =>
        exact List.mem_append_right _ (List.mem_append_left _ (patternIdents_occur value role id h))
    case shorthandPattern =>
      match children, h with
      | name :: _, h => exact List.mem_append_left _ (patternIdents_occur name role id h)
    case shorthand =>
      match children, h with
      | name :: _, h => exact List.mem_append_left _ (patternIdents_occur name role id h)
    case defaulted =>
      match children, h with
      | name :: _, h => exact List.mem_append_left _ (patternIdents_occur name role id h)
    case rest =>
      match children, h with
      | [pattern], h => exact List.mem_append_left _ (patternIdents_occur pattern role id h)
    all_goals exact absurd h List.not_mem_nil

theorem patternListIdents_occur (form : Form)
    (hform : ∀ place role, childRole form place role = role)
    (place : Nat) (role : Role) (patterns : List Tree) (id : Ident)
    (h : id ∈ patternListIdents patterns) :
    ⟨id, role⟩ ∈ childOccurrences form place role patterns := by
  match patterns with
  | [] => exact absurd h List.not_mem_nil
  | pattern :: rest =>
    rw [childOccurrences, hform, List.mem_append]
    exact (List.mem_append.mp h).imp (patternIdents_occur pattern role id)
      (patternListIdents_occur form hform (place + 1) role rest id)
end

end ScopeHoist
