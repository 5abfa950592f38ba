import ScopeHoist.Proofs.Descent
import ScopeHoist.Proofs.Usage

/-!
# What is marked as removed

A program falls into pieces: the declarators, functions and classes of its top level, which declare
names of their own, and everything else. Shaking takes out the pieces that declare nothing but idle
names. A declaration is marked as soon as one piece of its name is gone, although others may be
left: in a nested statement, or in a pattern that also declares a name that is used.
-/

set_option autoImplicit false

namespace ScopeHoist

/-! ## Pieces of a program -/

/-- A declaration of the top level with the names that it is for, or something else without any. -/
structure Piece where
  names : List Identity
  occurrences : List Occurrence
  deriving DecidableEq

def Piece.isIdle (unused : List Identity) (piece : Piece) : Bool :=
  !piece.names.isEmpty && piece.names.all unused.contains

def declaratorPiece (kind : VarKind) (declarator : Tree) : Piece :=
  ⟨declaratorIdentities declarator, declarator.occurrences (.declares (.variable kind))⟩

def Tree.solePiece (tree : Tree) : Piece := ⟨(soleIdentity? tree).toList, tree.occurrences .reads⟩

def Tree.pieces : Tree → List Piece
  | .node (.variableDecl kind) _ declarators => declarators.map (declaratorPiece kind)
  | tree => [tree.solePiece]

def Item.pieces : Item → List Piece
  | .statement tree => tree.pieces
  | .exportDecl decl _ => decl.pieces
  | .exportDefaultDecl decl _ => [decl.solePiece]
  | item => [⟨[], item.occurrences⟩]

def Program.pieces (program : Program) : List Piece := program.items.flatMap Item.pieces

theorem Tree.pieces_of_sole {tree : Tree}
    (hsole : ∀ kind span declarators, tree ≠ .node (.variableDecl kind) span declarators) :
    tree.pieces = [tree.solePiece] := by
  unfold pieces
  split
  · exact absurd rfl (hsole _ _ _)
  · rfl

theorem childOccurrences_variableDecl (kind : VarKind) (place : Nat) (role : Role)
    (declarators : List Tree) :
    childOccurrences (.variableDecl kind) place role declarators =
      (declarators.map (declaratorPiece kind)).flatMap Piece.occurrences := by
  induction declarators generalizing place with
  | nil => rfl
  | cons first rest ih => rw [childOccurrences, ih]; rfl

theorem Tree.occurrences_pieces (tree : Tree) :
    tree.occurrences .reads = tree.pieces.flatMap Piece.occurrences := by
  unfold Tree.pieces
  split
  · exact childOccurrences_variableDecl _ _ _ _
  · simp [solePiece]

theorem Item.occurrences_pieces (item : Item) :
    item.occurrences = item.pieces.flatMap Piece.occurrences := by
  cases item with
  | statement tree => exact tree.occurrences_pieces
  | exportDecl decl span => exact decl.occurrences_pieces
  | _ => simp [Item.pieces, Item.occurrences, Tree.solePiece]

theorem Program.occurrences_pieces (program : Program) :
    program.occurrences = program.pieces.flatMap Piece.occurrences := by
  rw [Program.occurrences, Program.pieces, List.flatMap_assoc]
  exact List.flatMap_congr fun item _ => item.occurrences_pieces

/-! ## Pieces that go -/

section

variable (unused : List Identity)

theorem Tree.solePiece_isIdle (tree : Tree) :
    tree.solePiece.isIdle unused = tree.isIdleSole unused := by
  unfold solePiece Piece.isIdle isIdleSole
  cases soleIdentity? tree <;> simp

theorem filter_declarators (kind : VarKind) (declarators : List Tree) :
    (declarators.filter fun declarator => !isIdle unused declarator).map (declaratorPiece kind) =
      (declarators.map (declaratorPiece kind)).filter fun piece => !piece.isIdle unused := by
  rw [List.filter_map]
  rfl

theorem Tree.pieces_withoutIdle (tree : Tree) :
    (tree.withoutIdle unused).toList.flatMap Tree.pieces =
      tree.pieces.filter fun piece => !piece.isIdle unused := by
  unfold Tree.withoutIdle
  split
  · rename_i kind span declarators
    rw [Tree.pieces, ← filter_declarators]
    dsimp only
    split
    · rename_i hnone
      rw [List.isEmpty_iff.mp hnone]
      rfl
    · simp [Tree.pieces]
  · rename_i hother
    have hpieces := Tree.pieces_of_sole hother
    rw [hpieces, List.filter_singleton, solePiece_isIdle]
    cases tree.isIdleSole unused <;> simp [hpieces]

theorem Item.pieces_withoutIdle (item : Item) :
    (item.withoutIdle unused).toList.flatMap Item.pieces =
      item.pieces.filter fun piece => !piece.isIdle unused := by
  cases item with
  | statement tree | exportDecl tree span =>
    rw [Item.pieces, ← tree.pieces_withoutIdle unused, Item.withoutIdle]
    cases tree.withoutIdle unused <;> simp [Item.pieces]
  | exportDefaultDecl decl span =>
    rw [Item.pieces, Item.withoutIdle, List.filter_singleton, Tree.solePiece_isIdle]
    cases decl.isIdleSole unused <;> simp [Item.pieces]
  | _ => simp [Item.pieces, Item.withoutIdle, Piece.isIdle]

theorem Program.pieces_relieved (program : Program) :
    (program.relieved unused).pieces = program.pieces.filter fun piece => !piece.isIdle unused := by
  unfold Program.relieved
  split
  · rename_i hnone
    refine (List.filter_eq_self.mpr fun piece _ => ?_).symm
    rw [List.isEmpty_iff.mp hnone, Piece.isIdle]
    cases piece.names <;> simp
  · rw [Program.withoutIdle, Program.pieces, Program.pieces, List.filterMap_eq_flatMap_toList,
      List.flatMap_assoc, List.filter_flatMap]
    exact List.flatMap_congr fun item _ => item.pieces_withoutIdle unused

theorem Tree.soleIdentities_pieces (tree : Tree) :
    (soleIdentity? tree).toList.filter unused.contains =
      ([tree.solePiece].filter (Piece.isIdle unused)).flatMap Piece.names := by
  rw [List.filter_singleton, solePiece_isIdle, isIdleSole, solePiece]
  cases soleIdentity? tree with
  | none => simp
  | some identity => cases h : unused.contains identity <;> simp_all

theorem Tree.idleIdentities_pieces (tree : Tree) :
    tree.idleIdentities unused =
      (tree.pieces.filter (Piece.isIdle unused)).flatMap Piece.names := by
  unfold Tree.idleIdentities
  split
  · rw [Tree.pieces, List.filter_map, List.flatMap_map]
    rfl
  · rename_i hother
    rw [Tree.pieces_of_sole hother]
    exact Tree.soleIdentities_pieces unused _

theorem Item.idleIdentities_pieces (item : Item) :
    item.idleIdentities unused =
      (item.pieces.filter (Piece.isIdle unused)).flatMap Piece.names := by
  cases item with
  | statement tree => exact tree.idleIdentities_pieces unused
  | exportDecl decl span => exact decl.idleIdentities_pieces unused
  | exportDefaultDecl decl span => exact decl.soleIdentities_pieces unused
  | _ => simp [Item.idleIdentities, Item.pieces, Piece.isIdle]

theorem Program.mem_idleIdentities (program : Program) (identity : Identity) :
    identity ∈ program.idleIdentities unused ↔
      ∃ piece ∈ program.pieces, piece.isIdle unused = true ∧ identity ∈ piece.names := by
  simp only [Program.idleIdentities, Program.pieces, Item.idleIdentities_pieces,
    List.mem_flatMap, List.mem_filter]
  constructor
  · rintro ⟨item, hmem, piece, ⟨hpiece, hidle⟩, hname⟩
    exact ⟨piece, ⟨item, hmem, hpiece⟩, hidle, hname⟩
  · rintro ⟨piece, ⟨item, hmem, hpiece⟩, hidle, hname⟩
    exact ⟨item, hmem, piece, ⟨hpiece, hidle⟩, hname⟩

end

/-- Every declaration of the top level declares there only the names that it is for: what stands in
initializers and bodies has scopes of its own. -/
def Program.Shallow (program : Program) : Prop :=
  ∀ piece ∈ program.pieces, piece.names ≠ [] → ∀ occurrence ∈ piece.occurrences,
    occurrence.declaration?.isSome = true → occurrence.ident.identity ∈ piece.names

instance (program : Program) : Decidable program.Shallow :=
  inferInstanceAs (Decidable (∀ piece ∈ program.pieces, _))

/-- Where a program declares a name at the top level. -/
def Program.declaring (program : Program) (identity : Identity) : List Occurrence :=
  program.occurrences.filter fun occurrence =>
    occurrence.declaration?.isSome && occurrence.ident.identity == identity

theorem flatMap_filter_of_nil {α β : Type} (values : List α) (keeps : α → Bool) (f : α → List β)
    (hlost : ∀ value ∈ values, keeps value = false → f value = []) :
    (values.filter keeps).flatMap f = values.flatMap f := by
  induction values with
  | nil => rfl
  | cons first rest ih =>
    have hrest := ih fun value hvalue => hlost value (List.mem_cons_of_mem _ hvalue)
    cases hfirst : keeps first with
    | true => simp [hfirst, hrest]
    | false => simp [hfirst, hrest, hlost first List.mem_cons_self hfirst]

theorem Program.Shallow.declaring_eq {before after : Program} (h : before.Shallow)
    (keeps : Piece → Bool) (hpieces : after.pieces = before.pieces.filter keeps)
    (identity : Identity)
    (hgone : ∀ piece ∈ before.pieces, keeps piece = false →
      piece.names ≠ [] ∧ identity ∉ piece.names) :
    after.declaring identity = before.declaring identity := by
  simp only [declaring, Program.occurrences_pieces, hpieces, List.filter_flatMap]
  refine flatMap_filter_of_nil _ _ _ fun piece hpiece hlost => ?_
  obtain ⟨hnames, hnot⟩ := hgone piece hpiece hlost
  refine List.filter_eq_nil_iff.mpr fun occurrence hoccurrence hdeclares => hnot ?_
  obtain ⟨hdeclares, hsame⟩ := Bool.and_eq_true_iff.mp hdeclares
  rw [← beq_iff_eq.mp hsame]
  exact h piece hpiece hnames occurrence hoccurrence hdeclares

/-! ## Marks of a session -/

namespace Session

def isFlagged (session : Session) (id : ModuleId) (identity : Identity) : Bool :=
  (session.module id).bindings.any fun binding =>
    (session.bindings[binding]?).any fun found => found.removed && found.identity == identity

def keeps (session : Session) (id : ModuleId) (piece : Piece) : Bool :=
  piece.names.isEmpty || piece.names.any fun name => !session.isFlagged id name

variable {before after : Session} {gone : List BindingId} {dropped : List RecordId}
  {used : RecordId → Prop}

theorem Shaken.isFlagged_iff (h : before.Shaken gone dropped after) (hsound : before.Sound)
    (id : ModuleId) (hid : id < before.modules.length) (identity : Identity) :
    after.isFlagged id identity = true ↔
      identity ∈ before.lostIdentities gone (before.module id) := by
  simp only [isFlagged, h.bindings_eq id hid, List.any_eq_true, Option.any_eq_true,
    Bool.and_eq_true, beq_iff_eq]
  constructor
  · rintro ⟨binding, hmember, found, hafter, hremoved, rfl⟩
    obtain ⟨declaration, -, hbefore⟩ := (hsound.modules id hid).bindings_valid binding hmember
    rw [h.binding_eq hsound id hid binding hmember _ hbefore] at hafter
    obtain rfl := Option.some.inj hafter
    exact of_decide_eq_true hremoved
  · intro hlost
    have hidle := mem_of_mem_idleIdentities _ _ _ hlost
    obtain ⟨binding, hmember, hidentity⟩ := List.mem_filterMap.mp hidle
    obtain ⟨found, hfound, rfl⟩ := Option.map_eq_some_iff.mp hidentity
    have hmember := (List.mem_filter.mp hmember).1
    exact ⟨binding, hmember, _, h.binding_eq hsound id hid binding hmember found hfound,
      decide_eq_true hlost, rfl⟩

/-- A piece is taken out exactly if it is for some names and all of them are marked. -/
theorem Shaken.pieces_eq (h : before.Shaken gone dropped after) (hsound : before.Sound)
    (id : ModuleId) (hid : id < before.modules.length) :
    (after.module id).program.pieces =
      (before.module id).program.pieces.filter (after.keeps id) := by
  rw [h.program_eq id hid, Program.pieces_relieved]
  refine List.filter_congr fun piece hpiece => ?_
  -- An idle piece marks all of its names by going, and no other name is marked than an idle one.
  have hall : piece.names ≠ [] →
      (piece.names.all (before.idleIdentities gone (before.module id)).contains = true ↔
        ∀ name ∈ piece.names, after.isFlagged id name = true) := fun hnames => by
    simp only [List.all_eq_true, List.contains_iff_mem, h.isFlagged_iff hsound id hid]
    constructor
    · intro hidle name hname
      refine (Program.mem_idleIdentities _ _ _).mpr ⟨piece, hpiece, ?_, hname⟩
      simpa [Piece.isIdle, hnames] using hidle
    · exact fun hlost name hname => mem_of_mem_idleIdentities _ _ _ (hlost name hname)
  rw [Piece.isIdle, keeps]
  cases hnames : piece.names with
  | nil => rfl
  | cons first rest =>
    rw [hnames] at hall
    have hall := hall (List.cons_ne_nil _ _)
    rw [Bool.eq_iff_iff, List.isEmpty_cons, Bool.not_false, Bool.true_and, Bool.not_eq_true',
      Bool.false_or, ← Bool.not_eq_true, hall, List.any_eq_true, not_forall]
    simp only [Bool.not_eq_true', ← Bool.not_eq_true, Classical.not_imp]

theorem Just.declares_of_flagged (hjust : before.Just gone dropped used)
    (h : before.Shaken gone dropped after) (hsound : before.Sound) (id : ModuleId)
    (hid : id < before.modules.length) (binding : BindingId)
    (hmember : binding ∈ (before.module id).bindings) (found : Binding)
    (hfound : before.bindings[binding]? = some found)
    (hlost : found.identity ∈ before.lostIdentities gone (before.module id))
    (occurrence : Occurrence) (hoccurs : occurrence ∈ (after.module id).program.occurrences)
    (hsame : occurrence.ident.identity = found.identity) :
    occurrence.declaration?.isSome = true := by
  have hunused := removed_localReferences hjust hsound id hid binding hmember found hfound hlost
  obtain ⟨declaration, -, rfl⟩ := (hsound.modules id hid).isBinding binding hmember found hfound
  have hscope : occurrence.ident.scope = .module := congrArg Identity.scope hsame
  have hname : occurrence.ident.name = declaration.name := congrArg Identity.name hsame
  -- Anything but a declaration would count as a local use, of which a marked name has none.
  by_contra hnot
  have hrole : ∀ kind, occurrence.role ≠ .declares kind := fun kind hkind => by
    simp [Occurrence.declaration?, hkind, hscope] at hnot
  rw [Program.occurrences_pieces, h.pieces_eq hsound id hid] at hoccurs
  obtain ⟨piece, hpiece, hoccurrence⟩ := List.mem_flatMap.mp hoccurs
  obtain ⟨item, hitem, hpiece⟩ := List.mem_flatMap.mp (List.mem_filter.mp hpiece).1
  have hread : occurrence ∈ item.occurrences := by
    rw [item.occurrences_pieces]
    exact List.mem_flatMap.mpr ⟨piece, hpiece, hoccurrence⟩
  have := localReferences_pos_of_occurrence _ item hitem occurrence hread hscope hrole
  rw [hname] at this
  exact absurd hunused (Nat.ne_of_gt this)

end Session

/-- Shaking takes out the pieces of a module that are for marked names only. Of a marked name
nothing but declarations is left, and those only in pieces that are for something else as well; all
declarations of a name that is not marked are left. -/
theorem marks_follow_removal (options : BundleOptions) (session : Session)
    (h : session.FromBuilds options) (id : ModuleId) (hid : id < session.modules.length) :
    let shaken := ((InSession.shake).run session).2
    let before := (session.module id).program
    let after := (shaken.module id).program
    after.pieces = before.pieces.filter (shaken.keeps id) ∧
      ∀ binding ∈ (session.module id).bindings, ∃ found,
        shaken.bindings[binding]? = some found ∧
        (found.removed = true →
          (∀ occurrence ∈ after.occurrences, occurrence.ident.identity = found.identity →
            occurrence.declaration?.isSome = true) ∧
          ((∀ occurrence ∈ after.occurrences, occurrence.ident.identity ≠ found.identity) ↔
            ∀ piece ∈ before.pieces,
              (∃ occurrence ∈ piece.occurrences, occurrence.ident.identity = found.identity) →
              piece.names ≠ [] ∧ ∀ name ∈ piece.names, shaken.isFlagged id name = true)) ∧
        (found.removed = false →
          (∀ piece ∈ before.pieces, found.identity ∈ piece.names → piece ∈ after.pieces) ∧
          (before.Shallow →
            after.declaring found.identity = before.declaring found.identity)) := by
  intro shaken before after
  obtain ⟨used, hjust⟩ := session.just_verdict
  have hshaken : session.Shaken _ _ shaken := session.shaken_shake
  have hpieces : after.pieces = before.pieces.filter (shaken.keeps id) :=
    hshaken.pieces_eq h.sound id hid
  have hgoes : ∀ piece, shaken.keeps id piece = false ↔
      piece.names ≠ [] ∧ ∀ name ∈ piece.names, shaken.isFlagged id name = true := fun piece => by
    simp [Session.keeps]
  refine ⟨hpieces, fun binding hmember => ?_⟩
  obtain ⟨declaration, -, hbefore⟩ := (h.sound.modules id hid).bindings_valid binding hmember
  refine ⟨_, hshaken.binding_eq h.sound id hid binding hmember _ hbefore, fun hremoved => ?_,
    fun hkept => ?_⟩
  · have hlost := of_decide_eq_true hremoved
    refine ⟨fun occurrence => hjust.declares_of_flagged hshaken h.sound id hid binding hmember _
      hbefore hlost occurrence, ?_⟩
    rw [Program.occurrences_pieces, hpieces]
    constructor
    · rintro hnone piece hpiece ⟨occurrence, hoccurrence, hsame⟩
      rw [← hgoes, ← Bool.not_eq_true]
      exact fun hkeeps => hnone occurrence (List.mem_flatMap.mpr
        ⟨piece, List.mem_filter.mpr ⟨hpiece, hkeeps⟩, hoccurrence⟩) hsame
    · intro hall occurrence hoccurs hsame
      obtain ⟨piece, hpiece, hoccurrence⟩ := List.mem_flatMap.mp hoccurs
      obtain ⟨hpiece, hkeeps⟩ := List.mem_filter.mp hpiece
      have hlost := (hgoes piece).mpr (hall piece hpiece ⟨occurrence, hoccurrence, hsame⟩)
      exact absurd (hkeeps.symm.trans hlost) nofun
  · have hnot := (hshaken.isFlagged_iff h.sound id hid _).not.mpr (of_decide_eq_false hkept)
    have hgone : ∀ piece, shaken.keeps id piece = false →
        piece.names ≠ [] ∧ (⟨declaration.name, .module⟩ : Identity) ∉ piece.names :=
      fun piece hlost =>
        ⟨((hgoes piece).mp hlost).1, fun hname => hnot (((hgoes piece).mp hlost).2 _ hname)⟩
    refine ⟨fun piece hpiece hname => ?_, fun hshallow =>
      hshallow.declaring_eq _ hpieces _ fun piece _ => hgone piece⟩
    rw [hpieces, List.mem_filter, ← Bool.not_eq_false]
    exact ⟨hpiece, fun hlost => (hgone piece hlost).2 hname⟩

/-- An entry that declares a name twice, once along with a name that is used, and a third name. -/
def partlyUsed : FileTree :=
  ⟨[(["i"], .file "var a=1;var{a,b}=x;let c=2;f(b)".toUTF8)], []⟩

def partlyUsedSession : Session := builtFrom partlyUsed "i"

theorem partlyUsedSession_fromBuilds : partlyUsedSession.FromBuilds .standard := by
  rw [partlyUsedSession]
  exact fromBuilds_builtFrom partlyUsed FileTree.holds_nil "i"

def partlyUsedShaken : Session := ((InSession.shake).run partlyUsedSession).2

theorem partlyUsedSession_eq :
    ((Building.build partlyUsed "i").run (.new .standard)).2 = partlyUsedSession := by
  rw [partlyUsedSession, builtFrom]

theorem partlyUsedShaken_eq : ((InSession.shake).run partlyUsedSession).2 = partlyUsedShaken := by
  rw [partlyUsedShaken]

set_option maxRecDepth 100000 in
theorem partlyUsedSession_checked :
    ((Building.build partlyUsed "i").run (.new .standard)).1 = .ok 0 ∧
      partlyUsedSession.modules.length = 1 ∧
      (partlyUsedSession.module 0).bindings = [0, 1, 2] ∧
      (partlyUsedSession.module 0).program.Shallow ∧
      ((partlyUsedSession.module 0).program.pieces.filter (partlyUsedShaken.keeps 0)).map
        Piece.names = [[⟨"a", .module⟩, ⟨"b", .module⟩], []] ∧
      (partlyUsedShaken.bindings.map fun binding => (binding.identity, binding.removed)) =
        [(⟨"a", .module⟩, true), (⟨"b", .module⟩, false), (⟨"c", .module⟩, true)] ∧
      ⟨"a", .module⟩ ∈ (partlyUsedShaken.module 0).program.occurrences.map fun occurrence =>
        occurrence.ident.identity := by
  decide +kernel

theorem Session.exists_marked (session : Session) (id : BindingId) (identity : Identity)
    (removed : Bool)
    (h : (session.bindings.map fun binding => (binding.identity, binding.removed))[id]? =
      some (identity, removed)) :
    ∃ found, session.bindings[id]? = some found ∧ found.identity = identity ∧
      found.removed = removed := by
  rw [List.getElem?_map] at h
  obtain ⟨found, hfound, hmark⟩ := Option.map_eq_some_iff.mp h
  exact ⟨found, hfound, congrArg Prod.fst hmark, congrArg Prod.snd hmark⟩

theorem marks_follow_removal_partlyUsed :
    partlyUsedSession.FromBuilds .standard ∧ 0 < partlyUsedSession.modules.length ∧
      (partlyUsedShaken.module 0).program.pieces.map Piece.names =
        [[⟨"a", .module⟩, ⟨"b", .module⟩], []] ∧
      (partlyUsedShaken.module 0).program.declaring ⟨"b", .module⟩ =
        (partlyUsedSession.module 0).program.declaring ⟨"b", .module⟩ := by
  obtain ⟨-, hlength, hbindings, hshallow, hkept, hmarks, -⟩ := partlyUsedSession_checked
  have hvalid : 0 < partlyUsedSession.modules.length := by simp [hlength]
  obtain ⟨hpieces, hall⟩ :=
    marks_follow_removal .standard partlyUsedSession partlyUsedSession_fromBuilds 0 hvalid
  simp only [partlyUsedShaken_eq] at hpieces hall
  obtain ⟨found, hfound, -, hdeclared⟩ := hall 1 (by simp [hbindings])
  obtain ⟨other, hother, hidentity, hremoved⟩ :=
    partlyUsedShaken.exists_marked 1 ⟨"b", .module⟩ false (by rw [hmarks]; rfl)
  obtain rfl := Option.some.inj (hother.symm.trans hfound)
  refine ⟨partlyUsedSession_fromBuilds, hvalid, by rw [hpieces, hkept], ?_⟩
  rw [← hidentity]
  exact (hdeclared hremoved).2 hshallow

/-- Some marks mislead: a pattern that declares a name along with one that is used stays, and the
name is marked all the same since another declaration of it went. -/
theorem marks_may_mislead :
    ¬ ∀ (options : BundleOptions) (tree : FileTree) (entry : String) (root : ModuleId),
      ((Building.build tree entry).run (.new options)).1 = .ok root →
      let session := ((Building.build tree entry).run (.new options)).2
      let shaken := ((InSession.shake).run session).2
      ∀ id < session.modules.length, ∀ binding ∈ (session.module id).bindings, ∀ found,
        shaken.bindings[binding]? = some found →
        (found.removed = true → ∀ occurrence ∈ (shaken.module id).program.occurrences,
          occurrence.ident.identity ≠ found.identity) ∧
        (found.removed = false → (shaken.module id).program.declaring found.identity =
          (session.module id).program.declaring found.identity) := by
  intro hall
  obtain ⟨hok, hlength, hbindings, -, -, hmarks, hleft⟩ := partlyUsedSession_checked
  have hall := hall .standard partlyUsed "i" 0 hok
  simp only [partlyUsedSession_eq, partlyUsedShaken_eq] at hall
  obtain ⟨found, hfound, hidentity, hremoved⟩ :=
    partlyUsedShaken.exists_marked 0 ⟨"a", .module⟩ true (by rw [hmarks]; rfl)
  obtain ⟨occurrence, hoccurs, hsame⟩ := List.mem_map.mp hleft
  exact (hall 0 (by simp [hlength]) 0 (by simp [hbindings]) found hfound).1 hremoved occurrence
    hoccurs (hsame.trans hidentity.symm)

end ScopeHoist
