import ScopeHoist.Graph.Session

/-!
# What is used

A record is used when an import with uses resolves to it, when the entry exports it, or when it is
found in a namespace object that is used itself: a module's namespace holds the module's exports
other than the default, and those of every external that the module exports whole. Each verdict is
remembered. While one is being found it counts as negative, so that a record is no ground for
itself.
-/

set_option autoImplicit false

namespace ScopeHoist

/-- Why a record may be used. -/
inductive Ground where
  | certain
  /-- It is if the namespace that holds it is. -/
  | through (aggregate : RecordId)
  deriving DecidableEq, Repr

namespace Session

/-- Whether an import with uses resolves to a record. -/
def isImported (session : Session) (record : RecordId) : Bool :=
  session.modules.any fun module => module.imports.any fun binding =>
    binding.references > 0 && binding.resolved == some record

/-- What follows from a module exporting a record under some name. -/
def exposureGround (module : Module) (name : String) : Option Ground :=
  if module.isEntry then some .certain
  else if name == defaultName || name == aggregateName then none
  else (module.exports.get? aggregateName).map .through

def exposureGrounds (session : Session) (record : RecordId) : List Ground :=
  session.modules.flatMap fun module =>
    (module.exports.filter fun entry => entry.2 == record).filterMap fun entry =>
      exposureGround module entry.1

/-- What follows for the namespace of an external from modules that export the external whole. -/
def starGrounds (session : Session) (record : RecordId) : List Ground :=
  match session.records[record]? with
  | some ⟨name, _, .external id, _, _⟩ =>
    if name == aggregateName then
      session.modules.flatMap fun module =>
        (module.stars.filter fun star => star.external == id).filterMap fun _ =>
          (module.exports.get? aggregateName).map .through
    else []
  | _ => []

def grounds (session : Session) (record : RecordId) : List Ground :=
  if session.isImported record then [.certain]
  else session.exposureGrounds record ++ session.starGrounds record

end Session

/-- Verdicts found so far, the newest first. -/
abbrev Verdicts := List (RecordId × Bool)

abbrev Judging := StateM Verdicts

/-- Whether a ground holds, if `decide` says which records are used. -/
def groundHolds (decide : RecordId → Judging Bool) : Ground → Judging Bool
  | .certain => return true
  | .through record => decide record

/-- Whether a record is used. Each level down remembers one more record, so that a depth of more
than there are records is never used up. -/
def judge (session : Session) : Nat → RecordId → Judging Bool
  | 0, _ => return false
  | depth + 1, record => do
    match (← get).lookup record with
    | some verdict => return verdict
    | none =>
      modify ((record, false) :: ·)
      let used ← (session.grounds record).anyM (groundHolds (judge session depth))
      modify ((record, used) :: ·)
      return used

def Session.isUsed (session : Session) (record : RecordId) : Judging Bool :=
  judge session (session.records.length + 1) record

/-- Verdicts on records, one after the other. -/
def Session.verdicts (session : Session) (records : List RecordId) : List Bool :=
  ((records.mapM session.isUsed).run []).1

end ScopeHoist
