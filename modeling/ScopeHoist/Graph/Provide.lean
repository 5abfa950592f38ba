import ScopeHoist.Graph.Session

/-!
# Providing exports

The record behind a name of a module or external. A record that has to be made is entered where it
was asked for, so that the next one who asks gets the same; the first one decides what the value
is called.
-/

set_option autoImplicit false

namespace ScopeHoist

namespace InSession

def addExternalExport (id : ExternalId) (name : String) (record : RecordId) : InSession Unit :=
  modify fun session => session.setExternal id fun external =>
    { external with exports := external.exports.insert name record }

def addExport (id : ModuleId) (name : String) (record : RecordId) : InSession Unit :=
  modify fun session => session.setModule id fun module =>
    { module with exports := module.exports.insert name record }

/-- The record of a name of an external. -/
def externalRecord (id : ExternalId) (name preferred : String) (exportedFrom : Option String) :
    InSession RecordId := do
  match ((← get).external id).exports.get? name with
  | some record => return record
  | none =>
    let record ← newRecord ⟨name, legalName preferred, .external id, none, exportedFrom⟩
    addExternalExport id name record
    return record

/-- Sees to it that the namespace of an external has a record. -/
def needNamespace (star : StarReexport) : InSession Unit := do
  let _ ← externalRecord star.external aggregateName star.specifier none

/-- The record of the namespace object of a module. The object takes in the names of the externals
that the module exports whole, so their namespaces are needed too. -/
def aggregateRecord (id : ModuleId) (preferred : String) : InSession RecordId := do
  match ((← get).module id).exports.get? aggregateName with
  | some record => return record
  | none =>
    let record ← newRecord ⟨aggregateName, legalName preferred, .module id, none, none⟩
    addExport id aggregateName record
    ((← get).module id).stars.forM needNamespace
    return record

/-- The externals that a name may come from: those known to export it, or else all. -/
def starCandidates (session : Session) (id : ModuleId) (name : String) : List StarReexport :=
  let stars := (session.module id).stars
  let known := stars.filter fun star => (session.external star.external).exports.has name
  if known.isEmpty then stars else known

/-- The record of a name that a module can only have from an external. -/
def starRecord? (id : ModuleId) (name preferred : String) : InSession (Option RecordId) := do
  let session ← get
  let candidates := starCandidates session id name
  match candidates with
  | [] => return none
  | chosen :: others =>
    let path := (session.module id).path
    if !others.isEmpty then
      modify fun session => session.report
        (.ambiguousStar path name (candidates.map StarReexport.specifier) chosen.specifier)
    let record ← externalRecord chosen.external name preferred (some chosen.specifier)
    addExport id name record
    note .trace
      ("Resolved " ++ name ++ " of " ++ path ++ " through export * from " ++ chosen.specifier)
    return some record

/-- The record of a name of a module. -/
def moduleRecord? (id : ModuleId) (name preferred : String) : InSession (Option RecordId) := do
  match ((← get).module id).exports.get? name with
  | some record => return some record
  | none => if name == defaultName then return none else starRecord? id name preferred

/-- The record of a name of a target. -/
def targetRecord? (target : Target) (name preferred : String) : InSession (Option RecordId) :=
  match target with
  | .module id =>
    if name == aggregateName then return some (← aggregateRecord id preferred)
    else moduleRecord? id name preferred
  | .external id => return some (← externalRecord id name preferred none)

end InSession

end ScopeHoist
