import Mathlib.Data.List.Basic
import ScopeHoist.Graph.Record

/-!
# Counting uses

Every use counts at least as much in all as for exports and assignments together, so that what is
left of a sum without the exports is at least what each single use leaves.
-/

set_option autoImplicit false

namespace ScopeHoist

namespace Usage

@[simp] theorem add_references (first second : Usage) :
    (first.add second).references = first.references + second.references := rfl

@[simp] theorem add_exportReferences (first second : Usage) :
    (first.add second).exportReferences = first.exportReferences + second.exportReferences := rfl

@[simp] theorem add_reassignments (first second : Usage) :
    (first.add second).reassignments = first.reassignments + second.reassignments := rfl

/-- Exports and assignments are among the references, and no use is both. -/
def Balanced (usage : Usage) : Prop :=
  usage.exportReferences + usage.reassignments ≤ usage.references

theorem balanced_add (first second : Usage) (h : first.Balanced) (h' : second.Balanced) :
    (first.add second).Balanced := by
  simp only [Balanced, add_references, add_exportReferences, add_reassignments] at *
  omega

theorem balanced_none : Usage.none.Balanced := Nat.le_refl 0

theorem balanced_ofExport : Usage.ofExport.Balanced := Nat.le_refl 1

theorem balanced_role (role : Role) : role.usage.Balanced := by
  cases role <;> simp [Role.usage, Balanced, Usage.none]

end Usage

theorem foldl_add_bounds (uses : List (String × Usage)) (total : Usage)
    (huses : ∀ use ∈ uses, use.2.Balanced) (htotal : total.Balanced) :
    let sum := uses.foldl (fun total use => total.add use.2) total
    sum.Balanced ∧ total.references ≤ sum.references ∧
      total.localReferences ≤ sum.localReferences ∧
      ∀ use ∈ uses, use.2.references ≤ sum.references ∧
        use.2.localReferences ≤ sum.localReferences := by
  induction uses generalizing total with
  | nil => exact ⟨htotal, Nat.le_refl _, Nat.le_refl _, by simp⟩
  | cons first rest ih =>
    have hfirst := huses first List.mem_cons_self
    obtain ⟨hbalanced, hreferences, hlocal, hrest⟩ :=
      ih (total.add first.2) (fun use h => huses use (List.mem_cons_of_mem _ h))
        (Usage.balanced_add _ _ htotal hfirst)
    simp only [Usage.Balanced, Usage.localReferences, Usage.add_references,
      Usage.add_exportReferences, List.foldl_cons] at *
    refine ⟨hbalanced, by omega, by omega, fun use huse => ?_⟩
    rcases List.mem_cons.mp huse with rfl | huse
    · omega
    · exact hrest use huse

theorem balanced_of_mem_uses (item : Item) (use : String × Usage) (h : use ∈ item.uses) :
    use.2.Balanced := by
  simp only [Item.uses, List.mem_map, List.mem_filter, List.mem_append] at h
  obtain ⟨use, ⟨⟨id, -, rfl⟩ | ⟨occurrence, -, rfl⟩, -⟩, rfl⟩ := h
  · exact Usage.balanced_ofExport
  · exact Usage.balanced_role _

theorem usageOf_bounds (program : Program) (name : String) :
    (usageOf program.uses name).Balanced ∧
      ∀ item ∈ program.items, ∀ usage, (name, usage) ∈ item.uses →
        usage.references ≤ (usageOf program.uses name).references ∧
          usage.localReferences ≤ (usageOf program.uses name).localReferences := by
  have hall : ∀ use ∈ program.uses.filter fun use => use.1 == name, use.2.Balanced := by
    intro use huse
    obtain ⟨item, -, hitem⟩ := List.mem_flatMap.mp (List.mem_filter.mp huse).1
    exact balanced_of_mem_uses item use hitem
  obtain ⟨hbalanced, -, -, hbounds⟩ := foldl_add_bounds _ .none hall Usage.balanced_none
  refine ⟨hbalanced, fun item hitem usage husage => hbounds (name, usage) ?_⟩
  exact List.mem_filter.mpr ⟨List.mem_flatMap.mpr ⟨item, hitem, husage⟩, by simp⟩

theorem references_pos_of_exported (program : Program) (item : Item) (hitem : item ∈ program.items)
    (id : Ident) (hid : id ∈ item.exportedIdents) (hscope : id.scope = .module) :
    0 < (usageOf program.uses id.name).references := by
  have huse : (id.name, Usage.ofExport) ∈ item.uses := by
    refine List.mem_map.mpr ⟨(id, Usage.ofExport), List.mem_filter.mpr ⟨?_, ?_⟩, rfl⟩
    · exact List.mem_append_left _ (List.mem_map_of_mem hid)
    · simp only [hscope, beq_self_eq_true, Bool.true_and]
      decide
  have := ((usageOf_bounds program id.name).2 item hitem _ huse).1
  exact Nat.lt_of_lt_of_le Nat.one_pos this

/-- A top-level name that occurs other than to be declared or exported by name has a local use. -/
theorem localReferences_pos_of_occurrence (program : Program) (item : Item)
    (hitem : item ∈ program.items) (occurrence : Occurrence)
    (hoccurs : occurrence ∈ item.occurrences)
    (hscope : occurrence.ident.scope = .module)
    (hrole : ∀ kind, occurrence.role ≠ .declares kind) :
    0 < (usageOf program.uses occurrence.ident.name).localReferences := by
  have hlocal : occurrence.role.usage.localReferences = 1 := by
    cases hkind : occurrence.role with
    | reads => rfl
    | writes => rfl
    | declares kind => exact absurd hkind (hrole kind)
  have huse : (occurrence.ident.name, occurrence.role.usage) ∈ item.uses := by
    refine List.mem_map.mpr
      ⟨(occurrence.ident, occurrence.role.usage), List.mem_filter.mpr ⟨?_, ?_⟩, rfl⟩
    · exact List.mem_append_right _ (List.mem_map_of_mem hoccurs)
    · simp only [hscope, beq_self_eq_true, Bool.true_and, bne_iff_ne]
      intro hnone
      rw [hnone] at hlocal
      exact absurd hlocal (by decide)
  have := ((usageOf_bounds program occurrence.ident.name).2 item hitem _ huse).2
  omega

theorem localReferences_pos_of_reassigned (program : Program) (name : String)
    (h : (usageOf program.uses name).reassignments ≠ 0) :
    0 < (usageOf program.uses name).localReferences := by
  have := (usageOf_bounds program name).1
  simp only [Usage.Balanced, Usage.localReferences] at *
  omega

end ScopeHoist
