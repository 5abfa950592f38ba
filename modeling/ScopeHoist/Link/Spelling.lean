import ScopeHoist.Graph.Session
import ScopeHoist.Name.Pool
import ScopeHoist.Scope.Rename

/-!
# Final spellings

How the identifiers of one module are spelled in the bundle. A declaration has the name claimed for
it, and an import is spelled like the value it stands for, or `undefined` when there is none. A
nested declaration that such a new spelling would run into moves out of its way.
-/

set_option autoImplicit false

namespace ScopeHoist

/-- Keeps the last of several new names for one identity. -/
def lastNames (renames : Renames) : Renames :=
  renames.reverse.eraseDupsBy fun first second => first.1 == second.1

namespace Session

def bindingRenames (session : Session) (module : Module) : Renames :=
  module.bindings.filterMap fun id =>
    match session.bindings[id]? with
    | some binding => if binding.removed then none else some (binding.identity, binding.name)
    | none => none

def importRenames (session : Session) (module : Module) : Renames :=
  module.imports.map fun binding =>
    (binding.identity, (binding.resolved.map session.identifier).getD "undefined")

/-- The spellings of the top-level names of a module. -/
def topLevelRenames (session : Session) (module : Module) : Renames :=
  lastNames (session.bindingRenames module ++ session.importRenames module)

end Session

/-- The spellings that come in from elsewhere. -/
def introducedNames (renames : Renames) : List String :=
  (renames.filter fun rename => rename.1.name != rename.2).map Prod.snd

def Scope.number : Scope → Nat
  | .nested number => number
  | _ => 0

def Identity.isUpTo (first second : Identity) : Bool :=
  first.name < second.name
    || (first.name == second.name && first.scope.number ≤ second.scope.number)

/-- The nested declarations that are spelled like something that comes in, by name. -/
def shadowing (program : Program) (renames : Renames) : List Identity :=
  (program.nestedIdentities.filter fun identity =>
    (introducedNames renames).contains identity.name).mergeSort Identity.isUpTo

/-- Moves each of some declarations to a number that is free. -/
def renumber (pool : NamePool) : List Identity → Renames
  | [] => []
  | identity :: rest =>
    let (name, pool) := pool.claimNumbered identity.name
    (identity, name) :: renumber pool rest

/-- The new names of the nested declarations of a program that would capture a new spelling. -/
def nestedRenames (program : Program) (renames : Renames) : Renames :=
  let taken :=
    program.freeNames ++ renames.map Prod.snd ++ program.nestedIdentities.map Identity.name
  renumber ⟨taken⟩ (shadowing program renames)

end ScopeHoist
