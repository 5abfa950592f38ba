import ScopeHoist.Proofs.Publishing
import ScopeHoist.Proofs.Requests

/-!
# Clauses

What the statements of a program ask of others and export, as lists of clauses that say nothing of
records. The imports of a module answer its import clauses one by one, and what its statements
publish answers its export clauses: a clause that refers to nothing is passed over.
-/

set_option autoImplicit false

namespace ScopeHoist

/-! ## Clauses of a program -/

structure ImportClause where
  /-- The name that stands for the import in the module. -/
  name : String
  specifier : String
  imported : String
  deriving DecidableEq, Repr

def ImportClause.identity (clause : ImportClause) : Identity := ⟨clause.name, .module⟩

/-- What an exported name refers to, by the statement that exports it. -/
inductive Referent where
  /-- A declaration of the module. -/
  | declared (identity : Identity)
  /-- A name of what a specifier leads to, or its namespace. -/
  | outer (specifier name : String)
  /-- A default value that is an import. If this stands for nothing, the value has no name. -/
  | imported (specifier name : String)
  /-- A default value without a name. -/
  | unnamed
  deriving DecidableEq, Repr

structure Clause where
  name : String
  referent : Referent
  deriving DecidableEq, Repr

def Item.importClauses : Item → List ImportClause
  | .importFrom specifiers source _ =>
    specifiers.map fun specifier =>
      ⟨specifier.target.name, source.value, specifier.importedName⟩
  | _ => []

namespace Program

variable (program : Program)

def importClauses : List ImportClause := program.items.flatMap Item.importClauses

def declares (id : Ident) : Bool :=
  program.declarations.any fun declaration =>
    (⟨declaration.name, .module⟩ : Identity) == id.identity

def importOf? (id : Ident) : Option ImportClause :=
  program.importClauses.find? fun clause => clause.identity == id.identity

def declaredClauses (name : String) (id : Ident) : List Clause :=
  if program.declares id then [⟨name, .declared id.identity⟩] else []

def localClauses (name : String) (id : Ident) : List Clause :=
  if program.declares id then [⟨name, .declared id.identity⟩]
  else (program.importOf? id).toList.map fun clause =>
    ⟨name, .outer clause.specifier clause.imported⟩

def listClauses : ExportSpecifier → List Clause
  | .named (.ident id) exported _ =>
    program.localClauses ((exported.map OuterName.value).getD id.name) id
  | _ => []

def defaultDeclReferent (decl : Tree) : Referent :=
  match (declaredIdents decl).head? with
  | some id => if program.declares id then .declared id.identity else .unnamed
  | none => .unnamed

def defaultReferent : Tree → Referent
  | .ident id =>
    if program.declares id then
      if (usageOf program.uses id.name).reassignments == 0 then .declared id.identity else .unnamed
    else
      match program.importOf? id with
      | some clause => .imported clause.specifier clause.imported
      | none => .unnamed
  | _ => .unnamed

def clausesOf : Item → List Clause
  | .exportDecl decl _ => (declaredIdents decl).flatMap fun id => program.declaredClauses id.name id
  | .exportList specifiers _ => specifiers.flatMap program.listClauses
  | .exportFrom specifiers source _ =>
    specifiers.map fun specifier =>
      ⟨specifier.namePair.2, .outer source.value specifier.namePair.1⟩
  | .exportDefaultDecl decl _ => [⟨defaultName, program.defaultDeclReferent decl⟩]
  | .exportDefault value _ => [⟨defaultName, program.defaultReferent value⟩]
  | _ => []

/-- What a program exports by other statements than `export *`, in the order of the source. -/
def clauses : List Clause := program.items.flatMap program.clausesOf

end Program

/-- The names that an item asks a source for. -/
def Item.requests : Item → List (String × String)
  | .importFrom specifiers source _ =>
    specifiers.map fun specifier => (source.value, specifier.importedName)
  | .exportFrom specifiers source _ =>
    specifiers.map fun specifier => (source.value, specifier.namePair.1)
  | _ => []

def Program.requests (program : Program) : List (String × String) :=
  program.items.flatMap Item.requests

def Module.Asks (module : Module) (target : Target) (name : String) : Prop :=
  ∃ specifier, module.target? specifier = some target ∧
    (specifier, name) ∈ module.program.requests

/-! ## Answers to clauses -/

/-- Two states of a module that answer its clauses alike. -/
structure Module.Alike (module module' : Module) : Prop where
  id_eq : module'.id = module.id
  bindings_eq : module'.bindings = module.bindings
  dependencies_eq : module'.dependencies = module.dependencies

theorem Module.Alike.refl (module : Module) : module.Alike module := ⟨rfl, rfl, rfl⟩

theorem Module.Grows.alike {before after : Module} (h : before.Grows after) :
    before.Alike after :=
  ⟨h.id_eq, h.bindings_eq, h.dependencies_eq⟩

namespace Session

/-- A record of the declaration of a module that an identity means. -/
def DeclaredAs (session : Session) (module : Module) (identity : Identity) (record : RecordId) :
    Prop :=
  ∃ found owner binding, session.records[record]? = some found ∧
    found.source = .module module.id ∧ found.owner = some owner ∧
      found.localName = identity.name ∧ owner ∈ module.bindings ∧
        session.bindings[owner]? = some binding ∧ binding.identity = identity

structure AnswersImport (session : Session) (module : Module) (clause : ImportClause)
    (binding : ImportBinding) : Prop where
  name : binding.name = clause.name
  imported : binding.imported = clause.imported
  target : module.target? clause.specifier = some binding.target
  resolved : session.Granted clause.imported binding.resolved binding.target

/-- What a referent comes to, if it refers to anything. -/
inductive Yields (session : Session) (module : Module) : Referent → Option RecordId → Prop
  | declared (identity : Identity) (record : RecordId)
      (h : session.DeclaredAs module identity record) :
      Yields session module (.declared identity) (some record)
  | outer (specifier name : String) (target : Target) (result : Option RecordId)
      (htarget : module.target? specifier = some target)
      (h : session.Granted name result target) :
      Yields session module (.outer specifier name) result
  | imported (specifier name : String) (target : Target) (record : RecordId)
      (htarget : module.target? specifier = some target)
      (h : session.Granted name (some record) target) :
      Yields session module (.imported specifier name) (some record)
  | unresolved (specifier name : String) (target : Target) (record : RecordId)
      (htarget : module.target? specifier = some target)
      (hnone : session.Granted name none target) (h : session.IsUnnamed module.id record) :
      Yields session module (.imported specifier name) (some record)
  | unnamed (record : RecordId) (h : session.IsUnnamed module.id record) :
      Yields session module .unnamed (some record)

/-- What is published for the clauses of some statements. -/
inductive Publishes (session : Session) (module : Module) :
    List Clause → List Published → Prop
  | nil : Publishes session module [] []
  | made (clause : Clause) (clauses : List Clause) (record : RecordId) (isUnnamed : Bool)
      (published : List Published) (h : session.Yields module clause.referent (some record))
      (hrest : Publishes session module clauses published) :
      Publishes session module (clause :: clauses) (⟨clause.name, record, isUnnamed⟩ :: published)
  | skipped (clause : Clause) (clauses : List Clause) (published : List Published)
      (h : session.Yields module clause.referent none)
      (hrest : Publishes session module clauses published) :
      Publishes session module (clause :: clauses) published

variable {session : Session} {module : Module}

theorem Publishes.append {clauses clauses' : List Clause} {published published' : List Published}
    (h : session.Publishes module clauses published)
    (h' : session.Publishes module clauses' published') :
    session.Publishes module (clauses ++ clauses') (published ++ published') := by
  induction h with
  | nil => exact h'
  | made clause clauses record isUnnamed published h _ ih =>
    exact .made clause _ record isUnnamed _ h ih
  | skipped clause clauses published h _ ih => exact .skipped clause _ _ h ih

theorem Publishes.flatten {α : Type} (clauses : α → List Clause) {values : List α}
    {results : List (List Published)}
    (h : List.Forall₂ (fun value result => session.Publishes module (clauses value) result) values
      results) :
    session.Publishes module (values.flatMap clauses) results.flatten := by
  induction h with
  | nil => exact .nil
  | cons hfirst _ ih =>
    rw [List.flatMap_cons, List.flatten_cons]
    exact hfirst.append ih

theorem Publishes.single (clause : Clause) (result : Option RecordId) (isUnnamed : Bool)
    (h : session.Yields module clause.referent result) :
    session.Publishes module [clause]
      (result.map (⟨clause.name, ·, isUnnamed⟩)).toList := by
  cases result with
  | none => exact .skipped clause [] [] h .nil
  | some record => exact .made clause [] record isUnnamed [] h .nil

/-! ## Answers last -/

section

variable {before after : Session} {module module' : Module} (h : before.Extends after)
  (hmodule : module.Alike module')
include h hmodule

theorem Extends.declaredAs (identity : Identity) (record : RecordId)
    (hdeclared : before.DeclaredAs module identity record) :
    after.DeclaredAs module' identity record := by
  obtain ⟨found, owner, binding, hfound, hsource, howner, hname, hmember, hbinding, hidentity⟩ :=
    hdeclared
  refine ⟨found, owner, binding, h.grows.record _ _ hfound, ?_, howner, hname, ?_,
    h.grows.binding _ _ hbinding, hidentity⟩
  · rw [hmodule.id_eq]
    exact hsource
  · rw [hmodule.bindings_eq]
    exact hmember

theorem Extends.answersImport (clause : ImportClause) (binding : ImportBinding)
    (hanswers : before.AnswersImport module clause binding) :
    after.AnswersImport module' clause binding where
  name := hanswers.name
  imported := hanswers.imported
  target := by
    rw [Module.target?, hmodule.dependencies_eq]
    exact hanswers.target
  resolved := h.granted _ _ _ hanswers.resolved

theorem Extends.yields (referent : Referent) (result : Option RecordId)
    (hyields : before.Yields module referent result) : after.Yields module' referent result := by
  have htarget : ∀ specifier, module'.target? specifier = module.target? specifier := by
    intro specifier
    rw [Module.target?, hmodule.dependencies_eq, ← Module.target?]
  have hunnamed : ∀ record, before.IsUnnamed module.id record →
      after.IsUnnamed module'.id record := by
    intro record hrecord
    rw [hmodule.id_eq]
    exact h.grows.isUnnamed _ _ hrecord
  cases hyields with
  | declared identity record hdeclared =>
    exact .declared identity record (h.declaredAs hmodule identity record hdeclared)
  | outer specifier name target result hto hgranted =>
    exact .outer specifier name target result ((htarget _).trans hto) (h.granted _ _ _ hgranted)
  | imported specifier name target record hto hgranted =>
    exact .imported specifier name target record ((htarget _).trans hto)
      (h.granted _ _ _ hgranted)
  | unresolved specifier name target record hto hnone hrecord =>
    exact .unresolved specifier name target record ((htarget _).trans hto) (h.granted _ _ _ hnone)
      (hunnamed record hrecord)
  | unnamed record hrecord => exact .unnamed record (hunnamed record hrecord)

theorem Extends.publishes (clauses : List Clause) (published : List Published)
    (hpublishes : before.Publishes module clauses published) :
    after.Publishes module' clauses published := by
  induction hpublishes with
  | nil => exact .nil
  | made clause clauses record isUnnamed published hyields _ ih =>
    exact .made clause clauses record isUnnamed published (h.yields hmodule _ _ hyields) ih
  | skipped clause clauses published hyields _ ih =>
    exact .skipped clause clauses published (h.yields hmodule _ _ hyields) ih

end

end Session

end ScopeHoist
