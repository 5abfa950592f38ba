import ScopeHoist.Graph.Session

/-!
# Execution order

The modules that an entry reaches, every one behind all that it depends on. They are found with a
stack. A module that comes up for the first time stays there and its dependencies are put on top of
it; when it comes up again, all of them are done, and so is the module.
-/

set_option autoImplicit false

namespace ScopeHoist

def moduleTargets (targets : List Target) : List ModuleId :=
  (targets.filterMap fun target =>
    match target with
    | .module id => some id
    | .external _ => none).eraseDups

def Module.moduleDependencies (module : Module) : List ModuleId :=
  moduleTargets module.dependencyTargets

/-- How far a walk has come. -/
structure Walk where
  /-- What is to come up, the next one first. -/
  stack : List ModuleId
  /-- What came up already. -/
  met : List ModuleId
  /-- What is done, in order. -/
  done : List ModuleId

namespace Walk

def start (id : ModuleId) : Walk := ⟨[id], [], []⟩

/-- Puts a module on a stack, unless it came up already. -/
def push (met stack : List ModuleId) (id : ModuleId) : List ModuleId :=
  if met.contains id then stack else id :: stack

/-- Looks at the module on top of the stack. -/
def step (neighbours : ModuleId → List ModuleId) (walk : Walk) : Walk :=
  match walk.stack with
  | [] => walk
  | id :: rest =>
    if walk.met.contains id then { walk with stack := rest, done := addNew walk.done id }
    else
      let met := id :: walk.met
      { walk with stack := (neighbours id).foldl (push met) walk.stack, met }

def run (neighbours : ModuleId → List ModuleId) : Nat → Walk → Walk
  | 0, walk => walk
  | steps + 1, walk => run neighbours steps (walk.step neighbours)

end Walk

namespace Session

/-- What a module depends on, the last one first, so that the first one ends up on top. -/
def neighbours (session : Session) (id : ModuleId) : List ModuleId :=
  (session.module id).moduleDependencies.reverse

/-- More steps than a walk can take: each module comes up for the first time once, and whatever is
put on the stack is taken off once. -/
def walkLength (session : Session) : Nat :=
  ((List.range session.modules.length).flatMap fun id => id :: session.neighbours id).length + 1

/-- The modules reached from the entry, the entry last. -/
def executionOrder (session : Session) : List ModuleId :=
  match session.entry with
  | some id => (Walk.run session.neighbours session.walkLength (.start id)).done
  | none => []

end Session

end ScopeHoist
