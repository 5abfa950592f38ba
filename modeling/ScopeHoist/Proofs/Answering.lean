import ScopeHoist.Graph.Loading
import ScopeHoist.Proofs.Clauses

/-!
# Completing a module answers its clauses

Each step of completing a module asks for nothing but what its program requests, and leaves an
answer for each clause of the item it goes through.
-/

set_option autoImplicit false

namespace ScopeHoist

/-- A module knows what each of its specifiers leads to. -/
def Module.Covered (module : Module) : Prop :=
  ∀ specifier ∈ module.program.specifiers, ∃ target, module.target? specifier = some target

theorem mem_specifiers_of_import (program : Program) (specifiers : List ImportSpecifier)
    (source : Quotation) (span : Span) (h : .importFrom specifiers source span ∈ program.items) :
    source.value ∈ program.specifiers :=
  List.mem_eraseDups.mpr (List.mem_filterMap.mpr ⟨_, h, rfl⟩)

theorem mem_specifiers_of_exportFrom (program : Program) (specifiers : List ExportSpecifier)
    (source : Quotation) (span : Span) (h : .exportFrom specifiers source span ∈ program.items) :
    source.value ∈ program.specifiers :=
  List.mem_eraseDups.mpr (List.mem_filterMap.mpr ⟨_, h, rfl⟩)

theorem Module.mem_specifiers_of_star (module : Module) (specifier : String)
    (h : specifier ∈ module.starSpecifiers) : specifier ∈ module.program.specifiers := by
  obtain ⟨item, hitem, hstar⟩ := List.mem_filterMap.mp h
  cases item with
  | exportStar source span =>
    exact List.mem_eraseDups.mpr (List.mem_filterMap.mpr ⟨_, hitem, hstar⟩)
  | _ => exact absurd hstar nofun

/-! ## Searches in parallel lists -/

theorem find?_isSome_of_forall₂ {α β : Type} {relation : α → β → Prop} (p : α → Bool)
    (q : β → Bool) (h : ∀ a b, relation a b → p a = q b) {as : List α} {bs : List β}
    (hall : List.Forall₂ relation as bs) : (as.find? p).isSome = bs.any q := by
  induction hall with
  | nil => rfl
  | cons hfirst _ ih =>
    rw [List.any_cons, ← h _ _ hfirst, ← ih]
    cases hp : p _ with
    | true => simp [hp]
    | false => simp [hp]

theorem find?_rel_of_forall₂ {α β : Type} {relation : α → β → Prop} (p : α → Bool)
    (q : β → Bool) (h : ∀ a b, relation a b → p a = q b) {as : List α} {bs : List β}
    (hall : List.Forall₂ relation as bs) : Option.Rel relation (as.find? p) (bs.find? q) := by
  induction hall with
  | nil => exact .none
  | cons hfirst _ ih =>
    have heq := h _ _ hfirst
    cases hp : p _ with
    | true =>
      rw [List.find?_cons_of_pos hp, List.find?_cons_of_pos (heq ▸ hp)]
      exact .some hfirst
    | false =>
      rw [List.find?_cons_of_neg (by simp [hp]), List.find?_cons_of_neg (by simp [← heq, hp])]
      exact ih

namespace Session

/-- The imports of a module answer the import clauses of its program. -/
def Imported (session : Session) (module : Module) : Prop :=
  List.Forall₂ (session.AnswersImport module) module.program.importClauses module.imports

def Ready (session : Session) (module : Module) : Prop :=
  session.SoundDraft module ∧ session.Imported module

variable {session : Session} {module : Module}

theorem SoundDraft.declares_eq (h : session.SoundDraft module) (id : Ident) :
    module.program.declares id = (module.bindingOf? session id).isSome := by
  refine (find?_isSome_of_forall₂ _ _ (fun binding declaration hbinding => ?_) h.bindings).symm
  rw [hbinding]
  rfl

theorem SoundDraft.declares_of_some (h : session.SoundDraft module) (id : Ident)
    (binding : BindingId) (hbinding : module.bindingOf? session id = some binding) :
    module.program.declares id = true := by
  rw [h.declares_eq, hbinding]
  rfl

theorem SoundDraft.declares_of_none (h : session.SoundDraft module) (id : Ident)
    (hbinding : module.bindingOf? session id = none) : module.program.declares id = false := by
  rw [h.declares_eq, hbinding]
  rfl

theorem Imported.import?_rel (h : session.Imported module) (id : Ident) :
    Option.Rel (session.AnswersImport module) (module.program.importOf? id)
      (module.import? id.identity) := by
  refine find?_rel_of_forall₂ _ _ (fun clause binding hanswers => ?_) h
  rw [ImportBinding.identity, hanswers.name]
  rfl

theorem Imported.import?_cases (h : session.Imported module) (id : Ident) :
    (∃ clause binding, module.program.importOf? id = some clause ∧
      module.import? id.identity = some binding ∧ session.AnswersImport module clause binding) ∨
    (module.program.importOf? id = none ∧ module.import? id.identity = none) := by
  have hrel := h.import?_rel id
  cases hclause : module.program.importOf? id with
  | none =>
    rw [hclause] at hrel
    cases hbinding : module.import? id.identity with
    | none => exact .inr ⟨rfl, rfl⟩
    | some binding =>
      rw [hbinding] at hrel
      exact absurd hrel nofun
  | some clause =>
    rw [hclause] at hrel
    cases hbinding : module.import? id.identity with
    | none =>
      rw [hbinding] at hrel
      exact absurd hrel nofun
    | some binding =>
      rw [hbinding] at hrel
      cases hrel with
      | some hanswers => exact .inl ⟨clause, binding, rfl, rfl, hanswers⟩

end Session

namespace InSession

open Session

theorem stays_draft {asks : Target → String → Prop} (module : Module) :
    Stays asks fun session => session.SoundDraft module :=
  stays_of_steady (steady_draft module)

theorem stays_answersImport {asks : Target → String → Prop} (module : Module)
    (clause : ImportClause) (binding : ImportBinding) :
    Stays asks fun session => session.AnswersImport module clause binding :=
  fun _ _ _ hanswers => hanswers.toExtends.answersImport (.refl module) clause binding

theorem stays_answersImports {asks : Target → String → Prop} (module : Module)
    (clauses : List ImportClause) (bindings : List ImportBinding) :
    Stays asks fun session =>
      List.Forall₂ (session.AnswersImport module) clauses bindings :=
  fun before after hsound hanswers hall => hall.imp fun clause binding =>
    stays_answersImport module clause binding before after hsound hanswers

theorem stays_ready {asks : Target → String → Prop} (module : Module) :
    Stays asks fun session => session.Ready module :=
  stays_and (stays_draft module) (stays_answersImports module _ _)

theorem stays_publishes {asks : Target → String → Prop} (module : Module) (clauses : List Clause)
    (published : List Published) :
    Stays asks fun session => session.Publishes module clauses published :=
  fun _ _ _ hanswers => hanswers.toExtends.publishes (.refl module) clauses published

/-! ## Imports -/

theorem asking_importName (module : Module) (target : Target) (source : String)
    (htarget : module.target? source = some target) (specifier : ImportSpecifier)
    (hrequest : (source, specifier.importedName) ∈ module.program.requests) :
    Asking module.Asks (fun session => session.SoundDraft module)
      (importName module target source specifier)
      fun binding session => session.AnswersImport module
        ⟨specifier.target.name, source, specifier.importedName⟩ binding := by
  refine asking_bind (stays_draft module) (asking_weaken
    (asking_request module target source specifier.importedName _ ⟨source, htarget, hrequest⟩)
    (fun session hdraft => hdraft.opened.targets target (target?_mem module source target htarget))
    fun _ _ hpost => hpost) fun resolved => ?_
  refine asking_bind (stays_and (stays_draft module) (stays_granted _ _ _)) (asking_note _ _)
    fun _ => asking_pure fun session _ hpre => ?_
  exact ⟨rfl, rfl, htarget, hpre.1.2⟩

theorem asking_importsOf (module : Module) (hcovered : module.Covered) (item : Item)
    (hitem : item ∈ module.program.items) :
    Asking module.Asks (fun session => session.SoundDraft module) (importsOf module item)
      fun bindings session =>
        List.Forall₂ (session.AnswersImport module) item.importClauses bindings := by
  cases item with
  | importFrom specifiers source span =>
    obtain ⟨target, htarget⟩ := hcovered _ (mem_specifiers_of_import _ _ _ _ hitem)
    simp only [importsOf, htarget]
    refine asking_weaken (asking_mapM (stays_draft module)
      (fun specifier binding => stays_answersImport module
        ⟨specifier.target.name, source.value, specifier.importedName⟩ binding) specifiers
      fun specifier hspecifier => asking_importName module target source.value htarget specifier ?_)
      (fun _ hdraft => hdraft) fun bindings session hall => ?_
    · exact List.mem_flatMap.mpr ⟨_, hitem, List.mem_map_of_mem
        (f := fun specifier : ImportSpecifier => (source.value, specifier.importedName)) hspecifier⟩
    · exact List.forall₂_map_left_iff.mpr hall
  | _ => exact asking_pure fun _ _ _ => .nil

theorem forall₂_flatMap {α β γ : Type} {relation : β → γ → Prop} (f : α → List β)
    {as : List α} {results : List (List γ)}
    (h : List.Forall₂ (fun a result => List.Forall₂ relation (f a) result) as results) :
    List.Forall₂ relation (as.flatMap f) results.flatten := by
  induction h with
  | nil => exact .nil
  | cons hfirst _ ih =>
    rw [List.flatMap_cons, List.flatten_cons]
    exact List.rel_append hfirst ih

theorem asking_importAll (module : Module) (hcovered : module.Covered) :
    Asking module.Asks (fun session => session.SoundDraft module) (importAll module)
      fun result session => result = { module with imports := result.imports } ∧
        session.Imported result := by
  refine asking_bind (stays_draft module) (asking_mapM (stays_draft module)
    (fun item bindings => stays_answersImports module item.importClauses bindings)
    module.program.items fun item hitem => asking_importsOf module hcovered item hitem)
    fun results => asking_pure fun session _ hpre => ⟨rfl, ?_⟩
  exact (forall₂_flatMap _ hpre.2).imp fun clause binding h =>
    ⟨h.name, h.imported, h.target, h.resolved⟩

/-! ## Exports of the module's own names -/

theorem answers_addRecord {asks : Target → String → Prop} (session : Session)
    (hsound : session.Sound) (record : ExportRecord) :
    session.Answers asks (session.addRecord record) :=
  .of_same (session.fills_addRecord hsound record) (fun _ => rfl) fun _ => rfl

theorem asking_publishFound (module : Module) (before : Session) (name : String) (id : Ident)
    (binding : BindingId) (hbinding : module.bindingOf? before id = some binding) :
    Asking module.Asks (fun session => session = before ∧ session.Ready module)
      (publishBinding module name binding) fun published session =>
        session.Publishes module [⟨name, .declared id.identity⟩] published := by
  rintro session hsound ⟨rfl, hready⟩
  obtain ⟨hmember, found, hfound, hidentity⟩ := bindingOf?_spec module session id binding hbinding
  rw [run_publishBinding module name binding session found hfound]
  refine ⟨answers_addRecord session hsound _, ?_⟩
  refine .made _ [] _ _ [] (.declared _ _ ⟨_, binding, found, session.addRecord_get? _, rfl, rfl,
    ?_, hmember, hfound, hidentity⟩) .nil
  exact congrArg Identity.name hidentity

theorem asking_publishUnnamed (module : Module) (pre : Session → Prop) (referent : Referent)
    (h : ∀ session, pre session → ∀ after record, session.Answers module.Asks after →
      after.IsUnnamed module.id record → after.Yields module referent (some record)) :
    Asking module.Asks pre (publishUnnamed module) fun published session =>
      session.Publishes module [⟨defaultName, referent⟩] published := by
  intro session hsound hpre
  rw [run_publishUnnamed]
  have hanswers : session.Answers module.Asks (session.addRecord
      ⟨defaultName, module.path.identifierName, .module module.id, none, none⟩) :=
    answers_addRecord session hsound _
  refine ⟨hanswers, ?_⟩
  exact .made ⟨defaultName, referent⟩ [] _ _ [] (h session hpre _ _ hanswers
    ⟨_, session.addRecord_get? _, rfl, rfl, rfl⟩) .nil

theorem asking_publishDeclared (module : Module) (ids : List Ident) :
    Asking module.Asks (fun session => session.Ready module) (publishDeclared module ids)
      fun published session => session.Publishes module
        (ids.flatMap fun id => module.program.declaredClauses id.name id) published := by
  refine asking_bind (stays_ready module) (asking_mapM (stays_ready module)
    (fun id published => stays_publishes module (module.program.declaredClauses id.name id)
      published) ids fun id _ => asking_get fun before => ?_)
    fun results => asking_pure fun session _ hpre => .flatten _ hpre.2
  cases hbinding : module.bindingOf? before id with
  | some binding =>
    intro session hsound hpre
    rw [Program.declaredClauses, if_pos (hpre.2.1.declares_of_some id binding (hpre.1 ▸ hbinding))]
    exact asking_publishFound module before id.name id binding hbinding session hsound hpre
  | none =>
    apply asking_pure
    intro session _ hpre
    have hdeclares := hpre.2.1.declares_of_none id (hpre.1 ▸ hbinding)
    simp only [Program.declaredClauses, hdeclares, Bool.false_eq_true, if_false]
    exact .nil

theorem asking_publishLocal (module : Module) (name : String) (id : Ident) :
    Asking module.Asks (fun session => session.Ready module) (publishLocal module name id)
      fun published session =>
        session.Publishes module (module.program.localClauses name id) published := by
  refine asking_get fun before => ?_
  cases hbinding : module.bindingOf? before id with
  | some binding =>
    intro session hsound hpre
    rw [Program.localClauses, if_pos (hpre.2.1.declares_of_some id binding (hpre.1 ▸ hbinding))]
    exact asking_publishFound module before name id binding hbinding session hsound hpre
  | none =>
    intro session hsound hpre
    have hdeclares := hpre.2.1.declares_of_none id (hpre.1 ▸ hbinding)
    simp only [Program.localClauses, hdeclares, Bool.false_eq_true, if_false]
    obtain ⟨clause, binding, hclause, himport, hanswers⟩ | ⟨hclause, himport⟩ :=
      hpre.2.2.import?_cases id
    · simp only [hclause, himport]
      exact ⟨.refl session hsound, .single _ _ false
        (.outer _ _ _ _ hanswers.target hanswers.resolved)⟩
    · simp only [hclause, himport]
      exact ⟨.note session hsound _ _, .nil⟩

theorem asking_publishSpecifier (module : Module) (specifier : ExportSpecifier) :
    Asking module.Asks (fun session => session.Ready module) (publishSpecifier module specifier)
      fun published session =>
        session.Publishes module (module.program.listClauses specifier) published := by
  cases specifier with
  | aggregate exported span => exact asking_pure fun _ _ _ => .nil
  | named origin exported span =>
    cases origin with
    | ident id => exact asking_publishLocal module _ id
    | text quotation => exact asking_pure fun _ _ _ => .nil

/-! ## Exports of names of others -/

theorem asking_publishFrom (module : Module) (target : Target) (source : String)
    (htarget : module.target? source = some target) (specifier : ExportSpecifier)
    (hrequest : (source, specifier.namePair.1) ∈ module.program.requests) :
    Asking module.Asks (fun session => session.Ready module)
      (publishFrom module target source specifier) fun published session =>
        session.Publishes module
          [⟨specifier.namePair.2, .outer source specifier.namePair.1⟩] published := by
  refine asking_bind (stays_ready module) (asking_weaken
    (asking_request module target source specifier.namePair.1 _ ⟨source, htarget, hrequest⟩)
    (fun session hready => hready.1.opened.targets target
      (target?_mem module source target htarget)) fun _ _ hpost => hpost)
    fun result => asking_pure fun session _ hpre => ?_
  exact .single ⟨specifier.namePair.2, .outer source specifier.namePair.1⟩ result false
    (.outer _ _ _ _ htarget hpre.2)

/-! ## Defaults -/

theorem asking_publishDefaultDecl (module : Module) (decl : Tree) :
    Asking module.Asks (fun session => session.Ready module) (publishDefaultDecl module decl)
      fun published session => session.Publishes module
        [⟨defaultName, module.program.defaultDeclReferent decl⟩] published := by
  unfold publishDefaultDecl Program.defaultDeclReferent
  cases (declaredIdents decl).head? with
  | none => exact asking_publishUnnamed module _ _ fun _ _ _ _ _ h => .unnamed _ h
  | some id =>
    refine asking_get fun before => ?_
    cases hbinding : module.bindingOf? before id with
    | some binding =>
      intro session hsound hpre
      have hdeclares := hpre.2.1.declares_of_some id binding (hpre.1 ▸ hbinding)
      simp only [hdeclares, if_true]
      exact asking_publishFound module before defaultName id binding hbinding session hsound hpre
    | none =>
      intro session hsound hpre
      have hdeclares := hpre.2.1.declares_of_none id (hpre.1 ▸ hbinding)
      simp only [hdeclares, Bool.false_eq_true, if_false]
      exact asking_publishUnnamed module (fun _ => True) _ (fun _ _ _ _ _ h => .unnamed _ h)
        session hsound trivial

theorem asking_publishImported (module : Module) (id : Ident) (clause : ImportClause)
    (binding : ImportBinding) (himport : module.import? id.identity = some binding) :
    Asking module.Asks (fun session => session.AnswersImport module clause binding)
      (match (module.import? id.identity).bind ImportBinding.resolved with
        | some record => return [⟨defaultName, record, false⟩]
        | none => publishUnnamed module)
      fun published session => session.Publishes module
        [⟨defaultName, .imported clause.specifier clause.imported⟩] published := by
  rw [himport]
  cases hresolved : binding.resolved with
  | some record =>
    simp only [Option.bind_some, hresolved]
    apply asking_pure
    intro session _ hanswers
    have hgranted := hanswers.resolved
    rw [hresolved] at hgranted
    exact .made ⟨_, _⟩ [] record false [] (.imported _ _ _ _ hanswers.target hgranted) .nil
  | none =>
    simp only [Option.bind_some, hresolved]
    apply asking_publishUnnamed
    intro session hanswers after record hafter hunnamed
    have hgranted := hanswers.resolved
    rw [hresolved] at hgranted
    exact .unresolved _ _ _ _ hanswers.target (hafter.toExtends.granted _ _ _ hgranted) hunnamed

theorem asking_publishDefault (module : Module) (value : Tree) (span : Span)
    (hitem : .exportDefault value span ∈ module.program.items) :
    Asking module.Asks (fun session => session.Ready module) (publishDefault module value)
      fun published session => session.Publishes module
        [⟨defaultName, module.program.defaultReferent value⟩] published := by
  cases value with
  | node form span' children =>
    exact asking_publishUnnamed module _ _ fun _ _ _ _ _ h => .unnamed _ h
  | ident id =>
    unfold Program.defaultReferent
    refine asking_get fun before => ?_
    cases hbinding : module.bindingOf? before id with
    | some binding =>
      intro session hsound hpre
      have hdeclares := hpre.2.1.declares_of_some id binding (hpre.1 ▸ hbinding)
      obtain ⟨-, found, hfound, husage⟩ := hpre.2.1.counted _ hitem id List.mem_cons_self binding
        (by rw [hpre.1]; exact hbinding)
      rw [hpre.1] at hfound
      have hreassigned : ((before.bindings[binding]?).map (·.usage.reassignments)).getD 0 =
          (usageOf module.program.uses id.name).reassignments := by
        rw [hfound, Option.map_some, Option.getD_some, husage]
      simp only [hdeclares, if_true, hreassigned]
      by_cases hassigned : (usageOf module.program.uses id.name).reassignments = 0
      · simp only [hassigned, beq_self_eq_true, if_true]
        exact asking_publishFound module before defaultName id binding hbinding session hsound hpre
      · simp only [beq_iff_eq, hassigned, if_false]
        exact asking_publishUnnamed module (fun _ => True) _ (fun _ _ _ _ _ h => .unnamed _ h)
          session hsound trivial
    | none =>
      intro session hsound hpre
      have hdeclares := hpre.2.1.declares_of_none id (hpre.1 ▸ hbinding)
      simp only [hdeclares, Bool.false_eq_true, if_false]
      obtain ⟨clause, binding, hclause, himport, hanswers⟩ | ⟨hclause, himport⟩ :=
        hpre.2.2.import?_cases id
      · rw [hclause]
        exact asking_publishImported module id clause binding himport session hsound hanswers
      · rw [hclause, himport]
        exact asking_publishUnnamed module (fun _ => True) _ (fun _ _ _ _ _ h => .unnamed _ h)
          session hsound trivial

/-! ## All export statements -/

theorem asking_publishedBy (module : Module) (hcovered : module.Covered) (item : Item)
    (hitem : item ∈ module.program.items) :
    Asking module.Asks (fun session => session.Ready module) (publishedBy module item)
      fun published session =>
        session.Publishes module (module.program.clausesOf item) published := by
  cases item with
  | exportDecl decl span => exact asking_publishDeclared module (declaredIdents decl)
  | exportList specifiers span =>
    exact asking_bind (stays_ready module) (asking_mapM (stays_ready module)
      (fun specifier published => stays_publishes module (module.program.listClauses specifier)
        published) specifiers fun specifier _ => asking_publishSpecifier module specifier)
      fun results => asking_pure fun session _ hpre => .flatten _ hpre.2
  | exportFrom specifiers source span =>
    obtain ⟨target, htarget⟩ := hcovered _ (mem_specifiers_of_exportFrom _ _ _ _ hitem)
    simp only [publishedBy, htarget]
    refine asking_bind (stays_ready module) (asking_mapM (stays_ready module)
      (fun specifier published => stays_publishes module
        [⟨specifier.namePair.2, .outer source.value specifier.namePair.1⟩] published) specifiers
      fun specifier hspecifier =>
        asking_publishFrom module target source.value htarget specifier ?_)
      fun results => asking_pure fun session _ hpre => ?_
    · exact List.mem_flatMap.mpr ⟨_, hitem, List.mem_map_of_mem
        (f := fun specifier : ExportSpecifier => (source.value, specifier.namePair.1)) hspecifier⟩
    · simp only [Program.clausesOf, List.map_eq_flatMap]
      exact .flatten _ hpre.2
  | exportDefaultDecl decl span => exact asking_publishDefaultDecl module decl
  | exportDefault value span => exact asking_publishDefault module value span hitem
  | _ => exact asking_pure fun _ _ _ => .nil

end InSession

end ScopeHoist
