import ScopeHoist.Proofs.Layout
import ScopeHoist.Scope.Occurrence
import ScopeHoist.Scope.Rename

/-!
# Trees with other new names

Of one tree under two lists of new names, the first result is no longer than the second if no
identifier gets a longer name there, and no shorthand property is written out that the second keeps.
-/

set_option autoImplicit false

namespace ScopeHoist

/-- A name that stands for something with a name of its own: no longer than another one, and the
same as its own where the other one is. -/
structure Renamed (own name other : String) : Prop where
  size : name.utf8ByteSize ≤ other.utf8ByteSize
  plain : other = own → name = own

mutual
def Tree.shorthands : Tree → List Ident
  | .ident _ => []
  | .node .shorthand _ (.ident id :: values) => id :: shorthandsOf values
  | .node .shorthandPattern _ (.ident id :: values) => id :: shorthandsOf values
  | .node _ _ children => shorthandsOf children

def shorthandsOf : List Tree → List Ident
  | [] => []
  | tree :: rest => tree.shorthands ++ shorthandsOf rest
end

theorem newName?_eq_none_iff (renames : Renames) (id : Ident) :
    newName? renames id = none ↔ (id.rename renames).name = id.name := by
  unfold Ident.rename newName?
  cases (renames.find? fun rename => rename.1 == id.identity) with
  | none => simp
  | some rename => by_cases h : rename.2 = id.name <;> simp [Option.filter, h]

section

variable (renames others : Renames)

theorem expanded_noLonger (span : Span) (id : Ident) {value value' : Tree}
    (h : value.NoLonger value') : (expanded id span value).NoLonger (expanded id span value') :=
  .node .property span span _ _ (.cons _ _ _ _ (.refl _) (.cons _ _ _ _ h .nil))

theorem renameShorthand_eq (form : Form) (span : Span) (id : Ident) (values : List Tree)
    (hplain : ¬ (form = .shorthand ∧ values = []))
    (hpattern : ¬ (form = .shorthandPattern ∧ values.length = 1)) :
    renameShorthand renames form span id values =
      .node form span (.ident (id.rename renames) :: values) := by
  unfold renameShorthand
  dsimp only
  split
  · rfl
  · split
    · exact absurd ⟨rfl, rfl⟩ hplain
    · exact absurd ⟨rfl, rfl⟩ hpattern
    · rfl

section

variable {id : Ident}
  (h : Renamed id.name (id.rename renames).name (id.rename others).name)
include h

theorem Renamed.newName? (hother : newName? others id = none) :
    newName? renames id = none :=
  (newName?_eq_none_iff renames id).mpr (h.plain ((newName?_eq_none_iff others id).mp hother))

theorem renameShorthand_property (span : Span) :
    (renameShorthand renames .shorthand span id []).NoLonger
      (renameShorthand others .shorthand span id []) := by
  have hname : (Tree.ident (id.rename renames)).NoLonger (.ident (id.rename others)) :=
    .ident _ _ h.size
  unfold renameShorthand
  cases hright : newName? others id with
  | none =>
    rw [h.newName? renames others hright]
    exact .node _ _ _ _ _ (.cons _ _ _ _ hname .nil)
  | some other =>
    cases newName? renames id with
    | none => exact .shorthand span span (id.rename renames) id (id.rename others) h.size
    | some name => exact expanded_noLonger span id hname

theorem renameShorthand_pattern (span : Span) {value value' : Tree}
    (hvalue : value.NoLonger value') :
    (renameShorthand renames .shorthandPattern span id [value]).NoLonger
      (renameShorthand others .shorthandPattern span id [value']) := by
  have hname : (Tree.ident (id.rename renames)).NoLonger (.ident (id.rename others)) :=
    .ident _ _ h.size
  have hboth : TreesNoLonger [.ident (id.rename renames), value]
      [.ident (id.rename others), value'] :=
    .cons _ _ _ _ hname (.cons _ _ _ _ hvalue .nil)
  unfold renameShorthand
  cases hright : newName? others id with
  | none =>
    rw [h.newName? renames others hright]
    exact .node _ _ _ _ _ hboth
  | some other =>
    simp only [hvalue.isAbsent_eq]
    cases newName? renames id with
    | none =>
      cases habsent : value.isAbsent with
      | true => exact .shorthandPattern span span _ id _ value h.size habsent
      | false => exact .shorthandDefault span span _ id _ value value' h.size habsent hvalue
    | some name =>
      cases value.isAbsent with
      | true => exact expanded_noLonger span id hname
      | false => exact expanded_noLonger span id (.node _ _ _ _ _ hboth)

theorem renameShorthand_noLonger (form : Form) (span : Span) {values values' : List Tree}
    (hvalues : TreesNoLonger values values') :
    (renameShorthand renames form span id values).NoLonger
      (renameShorthand others form span id values') := by
  by_cases hplain : form = .shorthand ∧ values = []
  · obtain ⟨rfl, rfl⟩ := hplain
    cases hvalues
    exact renameShorthand_property renames others h span
  · by_cases hpattern : form = .shorthandPattern ∧ values.length = 1
    · obtain ⟨rfl, hlength⟩ := hpattern
      obtain ⟨value, rfl⟩ := List.length_eq_one_iff.mp hlength
      rcases hvalues with _ | ⟨_, value', _, _, hvalue, _ | _⟩
      exact renameShorthand_pattern renames others h span hvalue
    · have hlength := hvalues.length_eq
      rw [renameShorthand_eq renames form span id values hplain hpattern,
        renameShorthand_eq others form span id values'
          (by simpa [← List.length_eq_zero_iff, hlength] using hplain)
          (by rwa [hlength])]
      exact .node _ _ _ _ _ (.cons _ _ _ _ (.ident _ _ h.size) hvalues)

end

theorem rename_node_cases (form : Form) (span : Span) (children : List Tree) :
    (∃ id values, children = .ident id :: values ∧
      id ∈ (Tree.node form span children).shorthands ∧
      ∀ renames, (Tree.node form span children).rename renames =
        renameShorthand renames form span id (renameList renames values)) ∨
    ∀ renames, (Tree.node form span children).rename renames =
      .node form span (renameList renames children) := by
  by_cases hshape : ∃ id values, children = .ident id :: values ∧
      (form = .shorthand ∨ form = .shorthandPattern)
  · obtain ⟨id, values, rfl, rfl | rfl⟩ := hshape
    all_goals exact .inl ⟨id, values, rfl, List.mem_cons_self, fun _ => rfl⟩
  · refine .inr fun renames => ?_
    rw [Tree.rename]
    · rintro id values rfl rfl
      exact hshape ⟨id, values, rfl, .inl rfl⟩
    · rintro id values rfl rfl
      exact hshape ⟨id, values, rfl, .inr rfl⟩

theorem shorthandsOf_subset (form : Form) (span : Span) (children : List Tree) :
    shorthandsOf children ⊆ (Tree.node form span children).shorthands := by
  unfold Tree.shorthands
  split
  · rename_i h
    cases h
  · rename_i h
    cases h
    exact List.subset_cons_self _ _
  · rename_i h
    cases h
    exact List.subset_cons_self _ _
  · rename_i h
    cases h
    exact List.Subset.refl _

mutual
/-- A tree whose identifiers get names that are no longer, and whose properties are written out only
where others write them out. -/
theorem rename_noLonger : ∀ (tree : Tree) (role : Role),
    (∀ occurrence ∈ tree.occurrences role, (occurrence.ident.rename renames).name.utf8ByteSize ≤
      (occurrence.ident.rename others).name.utf8ByteSize) →
    (∀ id ∈ tree.shorthands, (id.rename others).name = id.name →
      (id.rename renames).name = id.name) →
    (tree.rename renames).NoLonger (tree.rename others)
  | .ident id, _, hsize, _ => .ident _ _ (hsize _ (List.mem_singleton.mpr rfl))
  | .node form span children, role, hsize, hplain => by
    have hchildren := renameList_noLonger children form 0 role hsize fun id hid =>
      hplain id (shorthandsOf_subset form span children hid)
    rcases rename_node_cases form span children with ⟨id, values, rfl, hid, hrename⟩ | hrename
    · rcases hchildren with _ | ⟨_, _, _, _, hname, hvalues⟩
      rw [hrename, hrename]
      exact renameShorthand_noLonger renames others
        ⟨hsize ⟨id, _⟩ List.mem_cons_self, hplain id hid⟩ form span hvalues
    · rw [hrename, hrename]
      exact .node form span span _ _ hchildren

theorem renameList_noLonger : ∀ (trees : List Tree) (form : Form) (place : Nat) (role : Role),
    (∀ occurrence ∈ childOccurrences form place role trees,
      (occurrence.ident.rename renames).name.utf8ByteSize ≤
        (occurrence.ident.rename others).name.utf8ByteSize) →
    (∀ id ∈ shorthandsOf trees, (id.rename others).name = id.name →
      (id.rename renames).name = id.name) →
    TreesNoLonger (renameList renames trees) (renameList others trees)
  | [], _, _, _, _, _ => .nil
  | tree :: rest, form, place, role, hsize, hplain => by
    rw [childOccurrences, List.forall_mem_append] at hsize
    rw [shorthandsOf, List.forall_mem_append] at hplain
    exact .cons _ _ _ _ (rename_noLonger tree _ hsize.1 hplain.1)
      (renameList_noLonger rest form (place + 1) role hsize.2 hplain.2)
end

end

end ScopeHoist
