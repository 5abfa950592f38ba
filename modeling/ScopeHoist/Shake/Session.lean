import ScopeHoist.Shake.Declarations
import ScopeHoist.Shake.Verdict

/-!
# Shaking a session

Declarations and exports that nothing can observe are removed. What is unused is settled for the
whole graph before anything changes. The exports of an entry stay, since they are what the program
offers, and with them the externals that it exports whole.
-/

set_option autoImplicit false

namespace ScopeHoist

/-- Why a declaration can go. -/
inductive Idleness where
  | neverReferenced
  | onlyExported
  deriving DecidableEq, Repr

structure ShakeStats where
  removedBindings : Nat
  removedExports : Nat
  deriving DecidableEq, Repr

/-- The records that a module exports a declaration by. -/
def Session.ownedRecords (session : Session) (module : Module) (id : BindingId) : List RecordId :=
  module.exports.values.filter fun record =>
    match session.records[record]? with
    | some found => found.owner == some id
    | none => false

/-- Whether all records are unused, asking no further than the first that is used. -/
def allUnused (session : Session) (records : List RecordId) : Judging Bool :=
  records.allM fun record => return !(← session.isUsed record)

/-- Whether and why a declaration of a module can go. -/
def idleness? (session : Session) (module : Module) (id : BindingId) :
    Judging (Option Idleness) := do
  match session.bindings[id]? with
  | none => return none
  | some binding =>
    if binding.usage.references == 0 then return some .neverReferenced
    if module.isEntry || binding.usage.localReferences > 0 then return none
    let owned := session.ownedRecords module id
    if owned.isEmpty then return none
    return if ← allUnused session owned then some .onlyExported else none

def idleBindingsOf (session : Session) (module : Module) :
    Judging (List (BindingId × Idleness)) := do
  let found ← module.bindings.mapM fun id => do
    return ((← idleness? session module id).map fun idleness => (id, idleness)).toList
  return found.flatten

/-- All records that stand in a table from which they could be removed. -/
def Session.removableRecords (session : Session) : List RecordId :=
  ((session.modules.filter fun module => !module.isEntry).flatMap fun module =>
    module.exports.values)
    ++ session.externals.flatMap fun external => external.exports.values

structure Verdict where
  idle : List (BindingId × Idleness)
  unused : List RecordId

/-- All that can go. -/
def Session.verdict (session : Session) : Verdict :=
  let judging : Judging Verdict := do
    let idle ← session.modules.mapM (idleBindingsOf session)
    let unused ← session.removableRecords.filterM fun record => return !(← session.isUsed record)
    return ⟨idle.flatten, unused⟩
  (judging.run []).1

def Idleness.text : Idleness → String
  | .neverReferenced => "is never referenced"
  | .onlyExported => "is only referenced by unused exports"

namespace Session

/-- The kind and the present name of a declaration. -/
def bindingTitle (session : Session) (id : BindingId) : String :=
  match session.bindings[id]? with
  | some binding => binding.declaration.kind.word ++ " " ++ binding.name
  | none => ""

def pathOfBinding (session : Session) (id : BindingId) : Path :=
  match session.bindings[id]? with
  | some binding => (session.module binding.module).path
  | none => ""

def idleRemark (session : Session) (idle : BindingId × Idleness) : String :=
  session.bindingTitle idle.1 ++ " in " ++ session.pathOfBinding idle.1 ++ " " ++ idle.2.text

end Session

def exportsWithout (unused : List RecordId) (exports : Table RecordId) : Table RecordId :=
  exports.filter fun entry => !unused.contains entry.2

def Module.withoutRecords (unused : List RecordId) (module : Module) : Module :=
  if module.isEntry then module
  else { module with exports := exportsWithout unused module.exports }

def External.withoutRecords (unused : List RecordId) (external : External) : External :=
  { external with exports := exportsWithout unused external.exports }

/-- Forgets the externals that no namespace takes in any more. -/
def Module.withoutIdleStars (session : Session) (module : Module) : Module :=
  if module.isEntry then module
  else { module with
    stars := module.stars.filter fun star =>
      (session.external star.external).exports.has aggregateName }

namespace Session

def exportCount (session : Session) : Nat :=
  (session.modules.flatMap Module.exports).length
    + (session.externals.flatMap External.exports).length

/-- Takes records out of all tables. -/
def withoutRecords (session : Session) (unused : List RecordId) : Session :=
  let session := { session with
    modules := session.modules.map (Module.withoutRecords unused)
    externals := session.externals.map (External.withoutRecords unused) }
  { session with modules := session.modules.map (Module.withoutIdleStars session) }

/-- The names of a module's declarations that can go. -/
def idleIdentities (session : Session) (idle : List BindingId) (module : Module) :
    List Identity :=
  (module.bindings.filter idle.contains).filterMap fun id =>
    (session.bindings[id]?).map Binding.identity

/-- Whether a declaration is of one of some names. -/
def isAmong (session : Session) (identities : List Identity) (id : BindingId) : Bool :=
  ((session.bindings[id]?).map Binding.identity).any identities.contains

end Session

namespace InSession

def markRemoved (id : BindingId) : InSession Unit := do
  let session ← get
  set (session.setBinding id fun binding => { binding with removed := true })
  note .debug ("Removed unused " ++ session.bindingTitle id)

/-- Takes idle declarations out of a module; the answer is which. -/
def removeIdle (idle : List BindingId) (id : ModuleId) : InSession (List BindingId) := do
  let session ← get
  let module := session.module id
  let unused := session.idleIdentities idle module
  if unused.isEmpty then return []
  set (session.setModule id fun module =>
    { module with program := module.program.withoutIdle unused })
  let lost := module.program.idleIdentities unused
  let removed := module.bindings.filter (session.isAmong lost)
  removed.forM markRemoved
  return removed

def shake : InSession ShakeStats := do
  let session ← get
  let verdict := session.verdict
  verdict.idle.forM fun idle => note .trace (session.idleRemark idle)
  modify fun session => session.withoutRecords verdict.unused
  let removedExports := session.exportCount - (← get).exportCount
  let removed ← (List.range session.modules.length).mapM (removeIdle (verdict.idle.map Prod.fst))
  let removedBindings := removed.flatten.length
  note .info
    ("Tree shaking removed " ++ toString removedBindings ++ " declarations and "
      ++ toString removedExports ++ " export entries")
  return ⟨removedBindings, removedExports⟩

end InSession

end ScopeHoist
