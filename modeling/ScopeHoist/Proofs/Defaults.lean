import ScopeHoist.Link.Statements
import ScopeHoist.Proofs.Finishing
import ScopeHoist.Proofs.Sources

/-!
# Default exports

A default export is a declaration with a name, another name of what the module holds already, or a
value of its own. Parsing makes default declarations of functions and classes only, so that one
without a name declares nothing. A module has a record of its own for its default if, and only if,
some statement exports a value of its own.
-/

set_option autoImplicit false

namespace ScopeHoist

/-! ## The shape of default declarations -/

def Tree.IsDefaultDecl : Tree → Prop
  | .node (.function _) _ _ | .node .classExpr _ _ => True
  | _ => False

def Item.WellShaped : Item → Prop
  | .exportDefaultDecl decl _ => decl.IsDefaultDecl
  | _ => True

def Program.WellShaped (program : Program) : Prop := ∀ item ∈ program.items, item.WellShaped

theorem Tree.IsDefaultDecl.nameless {decl : Tree} (h : decl.IsDefaultDecl)
    (hnamed : namedDeclaration? decl = none) : declaredIdents decl = [] := by
  unfold IsDefaultDecl at h
  split at h
  case h_3 => exact h.elim
  all_goals
    rename_i children
    cases children with
    | nil => rfl
    | cons first rest =>
      cases first with
      | ident id => exact absurd hnamed (by simp [namedDeclaration?])
      | node form span children => rfl

namespace Parser

def Gives {α : Type} (parser : Parser α) (post : α → Prop) : Prop :=
  ∀ around state value rest, parser around state = .ok value rest → post value

section

variable {α β : Type} {post : β → Prop}

theorem gives_pure {value : β} (h : post value) : Gives (pure value) post := by
  intro around state result rest heq
  obtain ⟨rfl, -⟩ := EStateM.Result.ok.inj heq
  exact h

theorem gives_bind {parser : Parser α} {next : α → Parser β} {mid : α → Prop}
    (hparser : Gives parser mid) (hnext : ∀ value, mid value → Gives (next value) post) :
    Gives (parser >>= next) post := by
  intro around state result rest heq
  simp only [bind, ReaderT.bind, EStateM.bind] at heq
  split at heq
  · rename_i value mid' hrun
    exact hnext value (hparser around state value mid' hrun) around mid' result rest heq
  · exact absurd heq nofun

theorem gives_any (parser : Parser α) : Gives parser fun _ => True := fun _ _ _ _ _ => trivial

theorem gives_last {parser : Parser α} {next : α → Parser β}
    (h : ∀ value, Gives (next value) post) : Gives (parser >>= next) post :=
  gives_bind (gives_any parser) fun value _ => h value

theorem gives_ite {condition : Prop} [Decidable condition] {first second : Parser β}
    (hfirst : Gives first post) (hsecond : Gives second post) :
    Gives (if condition then first else second) post := by
  split
  · exact hfirst
  · exact hsecond

theorem gives_branch {condition : Prop} [Decidable condition] {first second : Parser α}
    {next : α → Parser β} (h : ∀ value, Gives (next value) post) :
    Gives (if condition then first >>= next else second >>= next) post :=
  gives_ite (gives_last h) (gives_last h)

theorem gives_within (change : Surroundings → Surroundings) {parser : Parser β}
    (h : Gives parser post) : Gives (within change parser) post :=
  fun around state value rest heq => h (change around) state value rest heq

theorem gives_gatherFor {more : Parser Bool} {item : Parser β} (h : Gives item post) (n : Nat) :
    Gives (gatherFor more item n) fun items => ∀ item ∈ items, post item := by
  induction n with
  | zero => exact gives_pure (by simp)
  | succ n ih =>
    refine gives_last fun goesOn => gives_ite ?_ (gives_pure (by simp))
    exact gives_bind h fun first hfirst => gives_bind ih fun rest hrest =>
      gives_pure (List.forall_mem_cons.mpr ⟨hfirst, hrest⟩)

end

variable (rule : Phrase → Parser Tree)

theorem gives_function (first : Nat) (isAsync : Bool) :
    Gives (function rule first isAsync true false) Tree.IsDefaultDecl :=
  gives_last fun _ => gives_last fun _ => gives_last fun _ => gives_last fun _ =>
    gives_last fun _ => gives_pure trivial

theorem gives_classOf : Gives (classOf rule false false) Tree.IsDefaultDecl := by
  apply gives_within
  refine gives_last fun _ => gives_last fun _ => gives_last fun _ => gives_last fun _ =>
    gives_branch fun _ => gives_last fun _ =>
      gives_ite (gives_last fun _ => gives_last fun _ => gives_last fun _ => ?_) ?_
  all_goals
    exact gives_last fun _ => gives_last fun _ => gives_last fun _ => gives_last fun _ =>
      gives_branch fun _ => gives_last fun _ => gives_pure trivial

theorem gives_exportDefault (first : Nat) :
    Gives (exportDefault rule first) Item.WellShaped := by
  have hdecl : ∀ parser : Parser Tree, Gives parser Tree.IsDefaultDecl →
      Gives (do return .exportDefaultDecl (← parser) (← spanFrom first)) Item.WellShaped :=
    fun parser h => gives_bind h fun decl hdecl => gives_last fun _ => gives_pure hdecl
  refine gives_last fun _ => gives_last fun _ => gives_ite (hdecl _ (gives_classOf rule))
    (gives_last fun _ => gives_ite (gives_last fun _ => hdecl _ (gives_function rule _ true))
      (gives_last fun _ => gives_ite (hdecl _ (gives_function rule _ false))
        (gives_last fun _ => gives_last fun _ => gives_last fun _ => gives_pure trivial)))

theorem gives_exportFrom (first : Nat) (specifiers : List ExportSpecifier) :
    Gives (exportFrom first specifiers) Item.WellShaped :=
  gives_last fun _ => gives_last fun _ => gives_last fun _ => gives_pure trivial

theorem gives_exportStar (first : Nat) : Gives (exportStar first) Item.WellShaped :=
  gives_last fun _ => gives_last fun _ => gives_last fun _ => gives_ite
    (gives_last fun _ => gives_last fun _ => gives_last fun _ => gives_exportFrom first _)
    (gives_last fun _ => gives_last fun _ => gives_last fun _ => gives_pure trivial)

theorem gives_exportClause (first : Nat) : Gives (exportClause first) Item.WellShaped :=
  gives_last fun _ => gives_last fun specifiers => gives_last fun _ => gives_ite
    (gives_exportFrom first specifiers)
    (gives_last fun _ => gives_last fun _ => gives_last fun _ => gives_pure trivial)

theorem gives_exportDeclaration : Gives (exportDeclaration rule) Item.WellShaped := by
  refine gives_last fun first => gives_last fun _ => gives_last fun _ => gives_last fun _ =>
    gives_ite (gives_exportDefault rule first) (gives_last fun declaration => ?_)
  cases declaration with
  | some declaration => exact gives_last fun _ => gives_pure trivial
  | none => exact gives_last fun _ => gives_ite (gives_exportStar first) (gives_exportClause first)

theorem gives_importDeclaration : Gives importDeclaration Item.WellShaped := by
  refine gives_last fun _ => gives_last fun _ => gives_last fun source => ?_
  cases source with
  | some source => exact gives_last fun _ => gives_last fun _ => gives_pure trivial
  | none =>
    exact gives_last fun _ => gives_last fun _ => gives_last fun _ => gives_last fun _ =>
      gives_last fun _ => gives_pure trivial

theorem gives_item : Gives (item rule) Item.WellShaped := by
  refine gives_last fun _ => gives_last fun _ => gives_ite gives_importDeclaration
    (gives_last fun _ => gives_ite (gives_exportDeclaration rule)
      (gives_last fun _ => gives_pure trivial))

theorem gives_program (depth : Nat) : Gives (program depth) Program.WellShaped := by
  refine gives_last fun _ => gives_last fun _ => gives_bind (fun around =>
    gives_gatherFor (gives_item (ruleTo depth)) around.bound around) fun items hitems => ?_
  exact gives_last fun _ => gives_pure hitems

end Parser

theorem Tree.IsDefaultDecl.moved {decl : Tree} (h : decl.IsDefaultDecl) (distance : Nat) :
    (decl.moved distance).IsDefaultDecl := by
  cases decl with
  | ident id => exact h
  | node form span children => cases form <;> exact h

theorem Program.WellShaped.moved {program : Program} (h : program.WellShaped) (distance : Nat) :
    (program.moved distance).WellShaped := by
  intro item hitem
  obtain ⟨source, hsource, rfl⟩ := List.mem_map.mp hitem
  have hshape := h source hsource
  cases source with
  | exportDefaultDecl decl span => exact Tree.IsDefaultDecl.moved hshape distance
  | _ => trivial

namespace Resolving

theorem isDefaultDecl_resolveDefault {decl : Tree} (h : decl.IsDefaultDecl) (frames : Frames) :
    ((resolveDefault decl).run frames).1.IsDefaultDecl := by
  unfold resolveDefault
  split
  · exact h
  · exact h
  · cases decl with
    | ident id => exact h.elim
    | node form span children => cases form <;> exact h

theorem wellShaped_resolveItem {item : Item} (h : item.WellShaped) (frames : Frames) :
    ((resolveItem item).run frames).1.WellShaped := by
  cases item with
  | exportDefaultDecl decl span => exact isDefaultDecl_resolveDefault h frames
  | _ => trivial

theorem wellShaped_mapM (items : List Item) (h : ∀ item ∈ items, item.WellShaped)
    (frames : Frames) :
    ∀ item ∈ ((items.mapM resolveItem).run frames).1, item.WellShaped := by
  induction items generalizing frames with
  | nil => exact fun item hitem => absurd hitem List.not_mem_nil
  | cons first rest ih =>
    obtain ⟨hfirst, hrest⟩ := List.forall_mem_cons.mp h
    rw [List.mapM_cons]
    change ∀ item ∈ ((resolveItem first).run frames).1 ::
      ((rest.mapM resolveItem).run ((resolveItem first).run frames).2).1, item.WellShaped
    exact List.forall_mem_cons.mpr ⟨wellShaped_resolveItem hfirst frames, ih hrest _⟩

end Resolving

theorem Program.WellShaped.resolve {program : Program} (h : program.WellShaped) :
    program.resolve.WellShaped := Resolving.wellShaped_mapM program.items h _

theorem Program.wellShaped_of_parse? {text : List Char} {program : Program} {comments : Comments}
    (h : Program.parse? text = .ok (program, comments)) : program.WellShaped := by
  unfold parse? at h
  dsimp only at h
  split at h
  · rename_i found state hrun
    split at h
    · exact absurd h nofun
    · obtain ⟨rfl, -⟩ := Prod.mk.inj (Except.ok.inj h)
      exact Parser.gives_program _ _ _ _ _ hrun
  · exact absurd h nofun

/-- The program of a file is well shaped, wherever it is put. -/
theorem FileTree.wellShaped_programAt {tree : FileTree} {path : Path} {program : Program}
    (h : tree.programAt path = .ok program) (distance : Nat) :
    (program.moved distance).resolve.WellShaped := by
  unfold programAt at h
  split at h
  · exact absurd h nofun
  · split at h
    · exact absurd h nofun
    · rename_i hparse
      obtain rfl := Except.ok.inj h
      exact ((Program.wellShaped_of_parse? hparse).moved distance).resolve

/-! ## Values of their own -/

namespace Module

/-- Whether a default value is another name of something in the module: of a declaration that
nothing assigns to, or of an import that stands for something. -/
def aliases (module : Module) : Tree → Bool
  | .ident id =>
    if module.program.declares id then (usageOf module.program.uses id.name).reassignments == 0
    else ((module.import? id.identity).bind ImportBinding.resolved).isSome
  | _ => false

def exportsOwn (module : Module) : Item → Bool
  | .exportDefaultDecl decl _ => module.program.defaultDeclReferent decl == .unnamed
  | .exportDefault value _ => !module.aliases value
  | _ => false

/-- Whether the module has a default value of its own. -/
def hasOwnDefault (module : Module) : Bool := module.program.items.any module.exportsOwn

end Module

/-- Whether a module has a record of its own for its default just in case it exports a value of its
own. -/
def Module.Settled (module : Module) : Prop :=
  module.unnamedDefault.isSome = module.hasOwnDefault

theorem Session.SoundDraft.exportsOwn_iff {session : Session} {module : Module}
    (h : session.SoundDraft module) (item : Item) (hitem : item ∈ module.program.items) :
    module.exportsOwn item = true ↔ session.LeavesUnnamed module item := by
  cases item with
  | exportDefaultDecl decl span =>
    rw [Module.exportsOwn, beq_iff_eq, Program.defaultDeclReferent, LeavesUnnamed]
    cases (declaredIdents decl).head? with
    | none => simp
    | some id =>
      simp only [h.declares_eq, Option.some.injEq, forall_eq']
      cases module.bindingOf? session id <;> simp
  | exportDefault value span =>
    cases value with
    | node form span' children => simp [Module.exportsOwn, Module.aliases, LeavesUnnamed]
    | ident id =>
      rw [Module.exportsOwn, Module.aliases, h.declares_eq, LeavesUnnamed]
      cases hbinding : module.bindingOf? session id with
      | none => simp
      | some binding =>
        obtain ⟨-, found, hfound, husage⟩ :=
          h.counted _ hitem id List.mem_cons_self binding hbinding
        simp [hfound, husage]
  | _ => simp [Module.exportsOwn, LeavesUnnamed]

namespace InSession

open Session

theorem run_publishedBy_unnamed (module : Module) (item : Item) (session : Session)
    (h : session.LeavesUnnamed module item) :
    (publishedBy module item).run session = (publishUnnamed module).run session := by
  cases item with
  | exportDefaultDecl decl span =>
    rw [publishedBy, publishDefaultDecl]
    cases hhead : (declaredIdents decl).head? with
    | none => rfl
    | some id => simp only [run_bind, run_get, h id hhead]
  | exportDefault value span =>
    cases value with
    | node form span' children => rfl
    | ident id =>
      simp only [publishedBy, publishDefault, run_bind, run_get]
      cases hbinding : module.bindingOf? session id with
      | none => simp only [h.2 hbinding]
      | some binding =>
        obtain ⟨found, hfound, hassigned⟩ := h.1 binding hbinding
        simp [hfound, hassigned]
  | _ => exact h.elim

theorem keeps_publishedBy_own (module : Module) (item : Item)
    (hitem : item ∈ module.program.items) :
    Keeps (fun session => session.SoundDraft module) (publishedBy module item)
      fun result _ => result.any Published.isUnnamed = module.exportsOwn item := by
  intro session hsound hdraft
  obtain ⟨hfills, hdraft', hall⟩ := keeps_publishedBy module item hitem session hsound hdraft
  refine ⟨hfills, Bool.eq_iff_iff.mpr ⟨fun hany => ?_, fun howns => ?_⟩⟩
  · obtain ⟨published, hpublished, hkind⟩ := List.any_eq_true.mp hany
    rcases hall published hpublished with ⟨name, ⟨hnamed, -⟩, -⟩ | ⟨-, -, -, hleaves⟩
    · exact absurd (hkind.symm.trans hnamed) nofun
    · exact (hdraft'.exportsOwn_iff item hitem).mpr hleaves
  · rw [run_publishedBy_unnamed module item session
      ((hdraft.exportsOwn_iff item hitem).mp howns), run_publishUnnamed]
    rfl

theorem unnamedDefault_foldl_publish (published : List Published) (module : Module) :
    (published.foldl Module.publish module).unnamedDefault.isSome =
      (module.unnamedDefault.isSome || published.any Published.isUnnamed) := by
  induction published generalizing module with
  | nil => simp
  | cons first rest ih =>
    rw [List.foldl_cons, ih, List.any_cons, Module.publish]
    cases first.isUnnamed <;> simp

theorem any_flatten_eq {α β : Type} {test : β → Bool} {check : α → Bool} {values : List α}
    {results : List (List β)}
    (h : List.Forall₂ (fun value result => result.any test = check value) values results) :
    results.flatten.any test = values.any check := by
  induction h with
  | nil => rfl
  | cons hfirst _ ih => rw [List.flatten_cons, List.any_append, List.any_cons, hfirst, ih]

theorem settled_publishAll (module : Module) (hunnamed : module.unnamedDefault = none) :
    Keeps (fun session => session.SoundDraft module) (publishAll module)
      fun result _ => result.Settled := by
  refine keeps_bind (steady_draft module) (keeps_mapM (steady_draft module)
    (fun item result => steady_const _) module.program.items
    fun item hitem => keeps_publishedBy_own module item hitem)
    fun results => keeps_pure fun session _ hpre => ?_
  have hsame := foldl_publish_eq results.flatten module
  have hany := any_flatten_eq hpre.2
  rw [Module.Settled, unnamedDefault_foldl_publish, hunnamed, hany, hsame]
  rfl

theorem settled_connect (module : Module) (hunnamed : module.unnamedDefault = none) :
    Keeps (fun session => session.SoundDraft module) (connect module)
      fun result _ => result.Settled := by
  intro session hsound hdraft
  obtain ⟨hfills, himported⟩ := keeps_importAll module hunnamed session hsound hdraft
  have hnone : ((importAll module).run session).1.unnamedDefault = none := hunnamed
  exact keeps_connect module hunnamed session hsound hdraft |>.imp_right fun _ =>
    (settled_publishAll _ hnone _ hfills.sound himported).2

theorem settled_complete (module : Module) (hexports : module.exports = [])
    (himports : module.imports = []) (hstars : module.stars = [])
    (hunnamed : module.unnamedDefault = none) :
    Keeps (fun session => session.Opened module) (complete module) fun result _ =>
      result.Settled := by
  have hdeclare := keeps_declareAll { module with uses := module.program.uses } rfl hexports
    himports hstars hunnamed
  change Keeps _ (declareAll { module with uses := module.program.uses } >>= fun declared =>
    get >>= fun session => connect (declared.withStars session)) _
  refine keeps_bind (steady_opened module) (keeps_weaken hdeclare
    (fun session hopened => ⟨hopened.id_eq, hopened.targets⟩) fun _ _ hpost => hpost)
    fun declared => keeps_get fun before session hsound hpre => ?_
  obtain ⟨rfl, -, hdraft, hnone⟩ := hpre
  exact settled_connect _ (Session.withStars_unnamedDefault.trans hnone) session hsound
    (draft_withStars hsound hdraft)

end InSession

namespace Building

theorem settled_prepare (module : Module) (hexports : module.exports = [])
    (himports : module.imports = []) (hstars : module.stars = [])
    (hunnamed : module.unnamedDefault = none) :
    InSession.Keeps (fun session => session.Opened module) (prepare module)
      fun result _ => result.Settled :=
  InSession.keeps_bind (InSession.steady_opened module)
    (keeps_addDependents module.id _ _ (InSession.steady_opened module))
    fun _ => InSession.keeps_weaken
      (InSession.settled_complete module hexports himports hstars hunnamed)
      (fun _ hpre => hpre.1) fun _ _ hpost => hpost

/-- The module that is stored for a file is settled. -/
theorem settled_finish (path : Path) (isEntry : Bool) (text : String) (program : Program)
    (dependencies : Table Target) (session : Session) (hsound : session.Sound)
    (htargets : ∀ target ∈ dependencies.values, session.Valid target) :
    let finished := (finish path isEntry text program dependencies).run session
    (finished.2.module finished.1).Settled := by
  have hopened : session.Opened (newModule session path isEntry text program dependencies) :=
    ⟨rfl, htargets⟩
  obtain ⟨hfills, -⟩ := keeps_prepare _ rfl rfl rfl rfl session hsound hopened
  obtain ⟨-, hsettled⟩ := settled_prepare _ rfl rfl rfl rfl session hsound hopened
  rw [run_finish]
  generalize (prepare (newModule session path isEntry text program dependencies)).run session =
    prepared at *
  dsimp only
  rw [Session.module_store, if_pos hfills.length.symm]
  exact hsettled

end Building

theorem Module.hasOwnDefault_of_nameless (module : Module) (hshape : module.program.WellShaped)
    (decl : Tree) (span : Span) (hitem : .exportDefaultDecl decl span ∈ module.program.items)
    (hnamed : namedDeclaration? decl = none) : module.hasOwnDefault = true := by
  refine List.any_eq_true.mpr ⟨_, hitem, ?_⟩
  have hnone := Tree.IsDefaultDecl.nameless (hshape _ hitem) hnamed
  simp [Module.exportsOwn, Program.defaultDeclReferent, hnone]

end ScopeHoist
