import Mathlib.Algebra.GroupWithZero.Nat
import Mathlib.Data.List.Count
import Mathlib.Data.List.Perm.Subperm
import ScopeHoist.Graph.Record
import ScopeHoist.Parse.Program
import ScopeHoist.Proofs.Places
import ScopeHoist.Scope.Program

/-!
# Uses and identifiers

The uses of a top-level name, counted identifier by identifier. The sum of all uses is what is
counted at each place, so the references to a name are the identifiers that carry it and do not
declare it, and one more for each name that an exported declaration declares.
-/

set_option autoImplicit false

namespace ScopeHoist

/-! ## Sums of uses -/

/-- A number that is read off a usage, and adds up. -/
structure Additive (part : Usage → Nat) : Prop where
  none : part .none = 0
  add : ∀ first second, part (first.add second) = part first + part second

theorem additive_references : Additive Usage.references := ⟨rfl, fun _ _ => rfl⟩

theorem additive_exportReferences : Additive Usage.exportReferences := ⟨rfl, fun _ _ => rfl⟩

theorem additive_reassignments : Additive Usage.reassignments := ⟨rfl, fun _ _ => rfl⟩

def Program.exportedIdents (program : Program) : List Ident :=
  program.items.flatMap Item.exportedIdents

def Ident.carries (identity : Identity) (id : Ident) : Bool := id.identity == identity

section

variable {part : Usage → Nat} (h : Additive part)
include h

theorem Additive.usageOf (uses : List (String × Usage)) (name : String) :
    part (usageOf uses name) =
      (uses.map fun use => if use.1 = name then part use.2 else 0).sum := by
  have hfold : ∀ total, part
      ((uses.filter fun use => use.1 == name).foldl (fun total use => total.add use.2) total) =
        part total + (uses.map fun use => if use.1 = name then part use.2 else 0).sum := by
    induction uses with
    | nil => exact fun total => (Nat.add_zero _).symm
    | cons first rest ih =>
      intro total
      by_cases hname : first.1 = name
      · rw [List.filter_cons_of_pos (by simpa using hname), List.foldl_cons, ih, h.add,
          List.map_cons, if_pos hname, List.sum_cons, Nat.add_assoc]
      · rw [List.filter_cons_of_neg (by simpa using hname), ih, List.map_cons, if_neg hname,
          List.sum_cons, Nat.zero_add]
  rw [ScopeHoist.usageOf, hfold, h.none, Nat.zero_add]

theorem Additive.sum_topLevel (uses : List (Ident × Usage)) (name : String) :
    (((uses.filter fun use => use.1.scope == .module && use.2 != .none).map
        fun use => (use.1.name, use.2)).map fun use =>
          if use.1 = name then part use.2 else 0).sum =
      (uses.map fun use => if use.1.carries ⟨name, .module⟩ then part use.2 else 0).sum := by
  induction uses with
  | nil => rfl
  | cons first rest ih =>
    obtain ⟨⟨spelling, scope, span⟩, usage⟩ := first
    by_cases hscope : scope = .module
    · by_cases husage : usage = .none
      · subst husage
        rw [List.filter_cons_of_neg (by simp), ih, List.map_cons, List.sum_cons, h.none, ite_self,
          Nat.zero_add]
      · rw [List.filter_cons_of_pos (by simp [hscope, husage]), List.map_cons, List.map_cons,
          List.sum_cons, ih, List.map_cons, List.sum_cons]
        simp [Ident.carries, Ident.identity, hscope]
    · rw [List.filter_cons_of_neg (by simp [hscope]), ih, List.map_cons, List.sum_cons]
      simp [Ident.carries, Ident.identity, hscope]

variable (hits : Role → Bool)
  (hhits : ∀ role : Role, part role.usage = if hits role then 1 else 0)
include hhits

theorem Additive.sum_uses (item : Item) (name : String) :
    (item.uses.map fun use => if use.1 = name then part use.2 else 0).sum =
      part .ofExport * item.exportedIdents.countP (Ident.carries ⟨name, .module⟩) +
        item.occurrences.countP fun occurrence =>
          hits occurrence.role && occurrence.ident.carries ⟨name, .module⟩ := by
  have hexported : ∀ ids : List Ident, (ids.map fun id =>
      if id.carries ⟨name, .module⟩ then part .ofExport else 0).sum =
        part .ofExport * ids.countP (Ident.carries ⟨name, .module⟩) := by
    intro ids
    induction ids with
    | nil => rfl
    | cons first rest ih =>
      rw [List.map_cons, List.sum_cons, ih, List.countP_cons]
      cases first.carries ⟨name, .module⟩ <;> simp [Nat.mul_add, Nat.add_comm]
  have hused : ∀ occurrences : List Occurrence, (occurrences.map fun occurrence =>
      if occurrence.ident.carries ⟨name, .module⟩ then part occurrence.role.usage else 0).sum =
        occurrences.countP fun occurrence =>
          hits occurrence.role && occurrence.ident.carries ⟨name, .module⟩ := by
    intro occurrences
    induction occurrences with
    | nil => rfl
    | cons first rest ih =>
      rw [List.map_cons, List.sum_cons, ih, List.countP_cons, hhits]
      cases first.ident.carries ⟨name, .module⟩ <;> cases hits first.role <;> simp [Nat.add_comm]
  rw [Item.uses, h.sum_topLevel, List.map_append, List.sum_append, List.map_map, List.map_map]
  exact congrArg₂ (· + ·) (hexported _) (hused _)

/-- What the uses of a name in a program add up to. -/
theorem Additive.uses_program (program : Program) (name : String) :
    part (ScopeHoist.usageOf program.uses name) =
      part .ofExport * program.exportedIdents.countP (Ident.carries ⟨name, .module⟩) +
        program.occurrences.countP fun occurrence =>
          hits occurrence.role && occurrence.ident.carries ⟨name, .module⟩ := by
  rw [h.usageOf, Program.uses, Program.exportedIdents, Program.occurrences]
  induction program.items with
  | nil => rfl
  | cons first rest ih =>
    simp only [List.flatMap_cons, List.map_append, List.sum_append, List.countP_append, ih,
      h.sum_uses hits hhits, Nat.mul_add]
    omega

end

theorem references_eq (program : Program) (name : String) :
    (usageOf program.uses name).references =
      program.exportedIdents.countP (Ident.carries ⟨name, .module⟩) +
        program.occurrences.countP fun occurrence =>
          !occurrence.role.isDeclaration && occurrence.ident.carries ⟨name, .module⟩ := by
  rw [additive_references.uses_program (fun role => !role.isDeclaration)
    (fun role => by cases role <;> rfl) program name]
  exact congrArg (· + _) (Nat.one_mul _)

theorem exportReferences_eq (program : Program) (name : String) :
    (usageOf program.uses name).exportReferences =
      program.exportedIdents.countP (Ident.carries ⟨name, .module⟩) := by
  rw [additive_exportReferences.uses_program (fun _ => false)
    (fun role => by cases role <;> rfl) program name]
  simp [Usage.ofExport]

theorem reassignments_eq (program : Program) (name : String) :
    (usageOf program.uses name).reassignments =
      program.occurrences.countP fun occurrence =>
        occurrence.role.isWrite && occurrence.ident.carries ⟨name, .module⟩ := by
  rw [additive_reassignments.uses_program Role.isWrite
    (fun role => by cases role <;> rfl) program name]
  simp [Usage.ofExport]

/-! ## Identifiers of a program -/

/-- The identifiers in an item. Imports, and exports from elsewhere, have none that count. -/
def Item.nodes : Item → List Ident
  | .exportList specifiers _ =>
    specifiers.flatMap fun specifier => specifier.originIdents ++ specifier.exportedIdents
  | item => (item.tree?.map Tree.idents).getD []

def Item.declared (item : Item) : List Ident := (item.tree?.map Tree.declared).getD []

/-- The names that a list of exports gives to what it exports. -/
def Item.outerIdents : Item → List Ident
  | .exportList specifiers _ => specifiers.flatMap ExportSpecifier.exportedIdents
  | _ => []

/-- The identifiers that a list of exports names, or that are the default by themselves. -/
def Item.clauseIdents : Item → List Ident
  | .exportList specifiers _ => specifiers.flatMap ExportSpecifier.originIdents
  | .exportDefault (.ident id) _ => [id]
  | _ => []

/-- The names that an exported or default declaration declares. -/
def Item.announced : Item → List Ident
  | .exportDecl decl _ => declaredIdents decl
  | .exportDefaultDecl decl _ => declaredIdents decl
  | _ => []

theorem Item.exportedIdents_eq (item : Item) :
    item.exportedIdents = item.announced ++ item.clauseIdents := by
  cases item with
  | exportDecl decl span => exact (List.append_nil _).symm
  | exportDefaultDecl decl span => exact (List.append_nil _).symm
  | exportDefault value span => cases value <;> rfl
  | _ => rfl

variable (test : Ident → Bool)

theorem countP_originIdents (specifiers : List ExportSpecifier) :
    (specifiers.flatMap fun specifier =>
        specifier.originIdents ++ specifier.exportedIdents).countP test =
      (specifiers.flatMap ExportSpecifier.originIdents).countP test +
        (specifiers.flatMap ExportSpecifier.exportedIdents).countP test := by
  induction specifiers with
  | nil => rfl
  | cons first rest ih =>
    simp only [List.flatMap_cons, List.countP_append, ih]
    omega

theorem Tree.countP_idents (tree : Tree) :
    ((tree.occurrences .reads).countP fun occurrence =>
        !occurrence.role.isDeclaration && test occurrence.ident) + tree.declared.countP test =
      tree.idents.countP test := by
  have hdeclared := tree.countP_occurrences test finds_declares .reads
  rw [if_neg (by exact Bool.false_ne_true), List.countP_nil, Nat.zero_add] at hdeclared
  rw [Tree.declared, ← hdeclared, ← tree.occurrences_idents .reads, List.countP_map]
  induction tree.occurrences .reads with
  | nil => rfl
  | cons first rest ih =>
    simp only [List.countP_cons, Function.comp_apply] at ih ⊢
    cases first.role.isDeclaration <;> simp only [Bool.not_true, Bool.not_false, Bool.true_and,
      Bool.false_and, Bool.false_eq_true, if_false] <;> omega

/-- Each identifier of an item is declared, or stands in a clause, or is used. -/
theorem Item.countP_nodes (item : Item) :
    (item.occurrences.countP fun occurrence =>
        !occurrence.role.isDeclaration && test occurrence.ident) + item.declared.countP test +
      item.outerIdents.countP test + item.clauseIdents.countP test = item.nodes.countP test := by
  cases item with
  | statement tree => exact tree.countP_idents test
  | exportDecl decl span => exact decl.countP_idents test
  | exportDefaultDecl decl span => exact decl.countP_idents test
  | exportDefault value span =>
    cases value with
    | ident id => exact Nat.zero_add _
    | node form span' children => exact (Tree.node form span' children).countP_idents test
  | exportList specifiers span =>
    rw [Item.nodes, countP_originIdents]
    exact (Nat.add_comm _ _).trans (congrArg (_ + ·) (Nat.zero_add _))
  | _ => rfl

namespace Program

def nodes (program : Program) : List Ident := program.items.flatMap Item.nodes

def declared (program : Program) : List Ident := program.items.flatMap Item.declared

def outerIdents (program : Program) : List Ident := program.items.flatMap Item.outerIdents

def clauseIdents (program : Program) : List Ident := program.items.flatMap Item.clauseIdents

def announced (program : Program) : List Ident := program.items.flatMap Item.announced

/-- What is left of the identifiers when the declaring places, and the names that are given to what
a list exports, are set aside. -/
def mentioned (program : Program) : List Ident :=
  program.nodes.diff (program.declared ++ program.outerIdents)

/-- What is left when all clauses of exports are set aside too. -/
def inner (program : Program) : List Ident := program.mentioned.diff program.clauseIdents

theorem countP_exportedIdents (program : Program) :
    program.exportedIdents.countP test =
      program.announced.countP test + program.clauseIdents.countP test := by
  rw [exportedIdents, announced, clauseIdents]
  induction program.items with
  | nil => rfl
  | cons first rest ih =>
    simp only [List.flatMap_cons, List.countP_append, ih, first.exportedIdents_eq]
    omega

theorem countP_nodes (program : Program) :
    (program.occurrences.countP fun occurrence =>
        !occurrence.role.isDeclaration && test occurrence.ident) + program.declared.countP test +
      program.outerIdents.countP test + program.clauseIdents.countP test =
        program.nodes.countP test := by
  rw [occurrences, declared, outerIdents, clauseIdents, nodes]
  induction program.items with
  | nil => rfl
  | cons first rest ih =>
    simp only [List.flatMap_cons, List.countP_append, ← ih, ← first.countP_nodes]
    omega

theorem subperm_nodes (program : Program) :
    (program.declared ++ program.outerIdents ++ program.clauseIdents).Subperm program.nodes := by
  refine List.subperm_ext_iff.mpr fun id _ => ?_
  rw [List.count, List.countP_append, List.countP_append,
    ← program.countP_nodes]
  omega

theorem countP_mentioned (program : Program) :
    program.mentioned.countP test = program.clauseIdents.countP test +
      program.occurrences.countP fun occurrence =>
        !occurrence.role.isDeclaration && test occurrence.ident := by
  have hsub := (List.sublist_append_left _ _).subperm.trans program.subperm_nodes
  rw [mentioned, List.countP_diff hsub, ← program.countP_nodes, List.countP_append]
  omega

theorem clauseIdents_subperm (program : Program) :
    program.clauseIdents.Subperm program.mentioned := by
  refine List.subperm_ext_iff.mpr fun id _ => ?_
  rw [List.count, program.countP_mentioned]
  exact Nat.le_add_right _ _

theorem countP_inner (program : Program) :
    program.inner.countP test = program.occurrences.countP fun occurrence =>
      !occurrence.role.isDeclaration && test occurrence.ident := by
  rw [inner, List.countP_diff program.clauseIdents_subperm, program.countP_mentioned,
    Nat.add_sub_cancel_left]

end Program

/-- The references to a top-level name are the identifiers that carry it, at places that do not
declare it, and one for each time that an exported declaration declares it. Those of exports are in
clauses or stand for such declarations, so that a name has no other references exactly if no
identifier carries it once the clauses are set aside. -/
theorem references_exact (program : Program) (name : String) :
    (program.declared ++ program.outerIdents ++ program.clauseIdents).Subperm program.nodes ∧
      (usageOf program.uses name).references =
        program.mentioned.countP (Ident.carries ⟨name, .module⟩) +
          program.announced.countP (Ident.carries ⟨name, .module⟩) ∧
      (usageOf program.uses name).exportReferences =
        program.clauseIdents.countP (Ident.carries ⟨name, .module⟩) +
          program.announced.countP (Ident.carries ⟨name, .module⟩) ∧
      (usageOf program.uses name).exportReferences ≤ (usageOf program.uses name).references ∧
      ((usageOf program.uses name).localReferences = 0 ↔
        ∀ id ∈ program.inner, id.identity ≠ ⟨name, .module⟩) := by
  have hreferences : (usageOf program.uses name).references =
      program.mentioned.countP (Ident.carries ⟨name, .module⟩) +
        program.announced.countP (Ident.carries ⟨name, .module⟩) := by
    rw [references_eq, program.countP_exportedIdents, program.countP_mentioned]
    omega
  have hexports : (usageOf program.uses name).exportReferences =
      program.clauseIdents.countP (Ident.carries ⟨name, .module⟩) +
        program.announced.countP (Ident.carries ⟨name, .module⟩) := by
    rw [exportReferences_eq, program.countP_exportedIdents, Nat.add_comm]
  have hlocal : (usageOf program.uses name).localReferences =
      program.inner.countP (Ident.carries ⟨name, .module⟩) := by
    rw [Usage.localReferences, references_eq, exportReferences_eq, program.countP_inner,
      Nat.add_sub_cancel_left]
  refine ⟨program.subperm_nodes, hreferences, hexports, ?_, ?_⟩
  · rw [references_eq, exportReferences_eq]
    exact Nat.le_add_right _ _
  · rw [hlocal, List.countP_eq_zero]
    simp only [Ident.carries, beq_iff_eq, ne_eq]

/-- A list that exports one variable of the module under the name of the other. -/
def crossedList : Program :=
  match Program.ofText? 1 "const a=1,b=2;export{a as b}".toList with
  | .ok (program, _) => program.resolve
  | .error _ => default

-- The name behind `as` has the scope of the variable, although nothing refers to it there.
set_option maxRecDepth 100000 in
theorem crossedList_references :
    (crossedList.nodes.diff crossedList.declared).countP (Ident.carries ⟨"b", .module⟩) +
        crossedList.announced.countP (Ident.carries ⟨"b", .module⟩) = 1 ∧
      (usageOf crossedList.uses "b").references = 0 := by
  decide +kernel

end ScopeHoist
